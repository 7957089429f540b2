import RuleGateway.Path

/-!
# Base path patterns

A base path is matched segment by segment. A `*` segment takes any text without
a line break, slashes included; a `:name` segment takes a non-empty text without
a slash; every other segment takes itself. Where several ways of taking the
path exist, the first dynamic segment takes as much as possible, then the
second, and so on: `splits` lists the ways of cutting a text longest first.
-/

namespace RuleGateway

/-- One segment of a base path. -/
inductive Segment where
  | literal (text : Text)
  | wildcard
  | param (name : Text)
  deriving DecidableEq, Repr

namespace Segment

/-- The segment that a text between slashes stands for. -/
def ofText (text : Text) : Segment :=
  if text = ['*'] then .wildcard
  else
    match text with
    | ':' :: name => .param name
    | _ => .literal text

/-- Whether the segment takes more than one text. -/
def isDynamic : Segment → Bool
  | literal _ => false
  | wildcard | param _ => true

/-- The name under which a parameter is known, `none` for a wildcard. -/
def label? : Segment → Option (Option Text)
  | literal _ => none
  | wildcard => some none
  | param name => some (some name)

end Segment

/-- A base path as the list of its segments. -/
abbrev Pattern := List Segment

namespace Pattern

/-- The pattern of a base path. -/
def ofBase (base : Text) : Pattern := (Path.segments base).map Segment.ofText

/-- Whether some segment takes more than one text. -/
def isDynamic (pattern : Pattern) : Bool := pattern.any Segment.isDynamic

/-- The dynamic segments in order, each with the name it has, if any. The
position of a segment in this list is that of its text among the captures. -/
def labels (pattern : Pattern) : List (Option Text) := pattern.filterMap Segment.label?

/-- The parameter names in order. -/
def names (pattern : Pattern) : List Text := (labels pattern).filterMap id

/-- The ways of cutting a text in two such that the first part is made of the
given characters, the longest first part first. -/
def splits (take : Char → Bool) : Text → List (Text × Text)
  | [] => [([], [])]
  | c :: rest =>
    (if take c then (splits take rest).map fun (taken, left) => (c :: taken, left) else []) ++
      [([], c :: rest)]

/-- The texts that the dynamic segments take when the pattern takes the whole
path. -/
def captures? : Pattern → Text → Option (List Text)
  | [], [] => some []
  | .literal text :: pattern, '/' :: path => (Text.after? text path).bind (captures? pattern)
  | .wildcard :: pattern, '/' :: path =>
    (splits (· != '\n') path).findSome? fun (taken, left) =>
      (captures? pattern left).map (taken :: ·)
  | .param _ :: pattern, '/' :: path =>
    (splits (· != '/') path).findSome? fun (taken, left) =>
      if taken.isEmpty then none else (captures? pattern left).map (taken :: ·)
  | _, _ => none

end Pattern

end RuleGateway
