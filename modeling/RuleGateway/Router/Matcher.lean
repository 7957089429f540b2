import RuleGateway.Pattern.Scan
import RuleGateway.Pattern.Template
import RuleGateway.Rule.Slots

/-!
# Matchers

A matcher is a rule at its base path. It resolves a request path to a target:
through the pattern of the base path, whose captures fill the target, or, for a
subtree rule on a literal base path, by carrying over what follows the base.
-/

namespace RuleGateway

/-- A rule at its base path, with its place in the declaration order of the
whole document. -/
structure Matcher where
  base : Text
  rule : Rule
  sequence : Nat
  deriving DecidableEq, Repr

namespace Matcher

/-- The pattern of the base path. -/
def pattern (matcher : Matcher) : Pattern := Pattern.ofBase matcher.base

/-- What follows the base in a path at or below it. -/
def remainder? (base path : Text) : Option Text :=
  if base = ['/'] then some (if path = ['/'] then [] else path)
  else if path = base then some []
  else (Text.after? base path).filter (·.head? == some '/')

/-- The target of a literal subtree rule: without its final slash, and followed
by the remainder of the path when the rule appends it. -/
def resolveBelow? (matcher : Matcher) (path : Text) : Option Text :=
  (remainder? matcher.base path).map fun rest =>
    let target := Text.dropFinalSlash matcher.rule.target
    if matcher.rule.appendPath then target ++ rest else target

/-- The target with the query of the request, unless it has a query already or
the request has none. -/
def withQuery (target : Text) (query : Option Text) : Text :=
  match query with
  | some query => if query.isEmpty || target.contains '?' then target else target ++ '?' :: query
  | none => target

/-- The target that the matcher resolves a path to, before the query. -/
def target? (matcher : Matcher) (path : Text) : Option Text :=
  if matcher.rule.isInert then none
  else
    match matcher.pattern.scan? path with
    | some captures => some (Template.fill matcher.pattern matcher.rule.target captures)
    | none =>
      if matcher.rule.kind = .subtree ∧ matcher.pattern.isDynamic = false then
        matcher.resolveBelow? path
      else none

/-- The target that the matcher resolves a request to. -/
def resolve? (matcher : Matcher) (path : Text) (query : Option Text) : Option Text :=
  (matcher.target? path).map (withQuery · query)

/-- The literal path under which the rule is mounted. There always is one, since
a base path starts with a slash. -/
def mountBase (matcher : Matcher) : Text := (Path.literalPrefix? matcher.base).getD ['/']

/-- The mount of the rule, none at the root of the site. -/
def mount? (matcher : Matcher) : Option Text :=
  if matcher.mountBase = ['/'] then none else some matcher.mountBase

end Matcher

end RuleGateway
