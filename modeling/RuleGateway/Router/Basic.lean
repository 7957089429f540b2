import RuleGateway.Router.Matcher

/-!
# The router

The matchers of a document in the order in which they are tried: longer base
paths first, among equal lengths the lower priority, and among equal priorities
the one declared first. The candidates of a request are the matchers that
resolve it, in that order.
-/

namespace RuleGateway

/-- The base path of a slot key: it starts with a slash and has no slash at its
end, except when it is the root. -/
def baseOfKey (key : Text) : Text :=
  let base := if key.head? = some '/' then key else '/' :: key
  if 1 < base.length then Text.dropFinalSlash base else base

namespace Matcher

/-- Whether a matcher is tried before another or is the same in rank. -/
def before (a b : Matcher) : Bool :=
  if a.base.length ≠ b.base.length then b.base.length < a.base.length
  else if a.rule.priority.rank ≠ b.rule.priority.rank then
    a.rule.priority.rank < b.rule.priority.rank
  else a.sequence ≤ b.sequence

end Matcher

/-- The matchers in the order in which they are tried. -/
structure Router where
  matchers : List Matcher
  deriving Repr

namespace Router

/-- The rules of a key with its base path. Positions count from one. -/
def rulesAt (key : Text) (rules : List Declared) : List (Text × Rule) :=
  rules.zipIdx.map fun (rule, index) => (baseOfKey key, Rule.ofDeclared rule (index + 1))

/-- The rules of flattened slots with the base path of each, in declaration
order. The rules of a base path whose pattern is refused are left out. -/
def declared (compiles : Text → Bool) (slots : Slots) : List (Text × Rule) :=
  slots.flatMap fun (key, rules) => if compiles (baseOfKey key) then rulesAt key rules else []

/-- The matchers of flattened slots in declaration order. -/
def enumerate (compiles : Text → Bool) (slots : Slots) : List Matcher :=
  (declared compiles slots).zipIdx.map fun ((base, rule), sequence) => { base, rule, sequence }

/-- The router of flattened slots. -/
def ofSlots (compiles : Text → Bool) (slots : Slots) : Router :=
  { matchers := (enumerate compiles slots).mergeSort Matcher.before }

/-- The router of a document that has a slot tree. Matching engines bound the
size of a pattern; `compiles` says which base paths stay below that bound. -/
def ofDocument? (document : RuleDocument) (compiles : Text → Bool := fun _ => true) :
    Option Router :=
  document.tree?.map fun tree => ofSlots compiles (Slots.ofTree tree)

/-- The matchers that resolve a request, each with the target, in order. -/
def candidates (router : Router) (path : Text) (query : Option Text) : List (Matcher × Text) :=
  router.matchers.filterMap fun matcher => (matcher.resolve? path query).map (matcher, ·)

/-- The base paths without dynamic segments that have a rule with a target,
each once, in order. -/
def literalBases (router : Router) : List Text :=
  let bases := (router.matchers.filter fun m => !m.pattern.isDynamic && !m.rule.isInert).map
    Matcher.base
  bases.eraseDups

end Router

end RuleGateway
