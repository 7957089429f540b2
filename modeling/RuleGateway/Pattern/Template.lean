import RuleGateway.Pattern.Basic

/-!
# Target templates

A target refers to the texts a pattern captured, by position (`$1`) or by name
(`:slug`). A template is read once from left to right into literal characters
and references, each reference as long as possible, and then filled; text that
was filled in is never read again. A reference to nothing is filled with
nothing.
-/

namespace RuleGateway.Template

/-- A literal character or a reference. -/
inductive Part where
  | literal (c : Char)
  | position (digits : Text)
  | name (word : Text)
  deriving DecidableEq, Repr

/-- The characters that names are made of. -/
def isWord (c : Char) : Bool := c.isAlphanum || c == '_'

/-- The reference that starts with `c` before `rest`, and the text after it. -/
def reference? (c : Char) (rest : Text) : Option (Part × Text) :=
  if c = '$' then
    match rest.takeWhile Char.isDigit with
    | [] => none
    | digits => some (.position digits, rest.dropWhile Char.isDigit)
  else if c = ':' then
    match rest.takeWhile isWord with
    | [] => none
    | word => some (.name word, rest.dropWhile isWord)
  else none

theorem length_le_of_reference? {c : Char} {rest left : Text} {part : Part}
    (h : reference? c rest = some (part, left)) : left.length ≤ rest.length := by
  unfold reference? at h
  split at h
  · split at h
    · simp at h
    · simp only [Option.some.injEq, Prod.mk.injEq] at h
      exact h.2 ▸ (List.dropWhile_sublist _).length_le
  · split at h
    · split at h
      · simp at h
      · simp only [Option.some.injEq, Prod.mk.injEq] at h
        exact h.2 ▸ (List.dropWhile_sublist _).length_le
    · simp at h

/-- The parts of a template. A `$` or `:` that starts no reference is literal. -/
def parts : Text → List Part
  | [] => []
  | c :: rest =>
    match _h : reference? c rest with
    | some (part, left) => part :: parts left
    | none => .literal c :: parts rest
termination_by text => text.length
decreasing_by
  · have := length_le_of_reference? _h
    simp
    omega
  · simp

/-- The captured text with the given number, counted from one. -/
def atPosition? (captures : List Text) (n : Nat) : Option Text :=
  if n = 0 then none else captures[n - 1]?

/-- The text captured by the first parameter of the given name. -/
def atName? (pattern : Pattern) (captures : List Text) (word : Text) : Option Text :=
  ((pattern.labels.zip captures).find? (·.1 == some word)).map (·.2)

/-- What a part is filled with. -/
def value (pattern : Pattern) (captures : List Text) : Part → Text
  | .literal c => [c]
  | .position digits => ((Text.decimal? digits).bind (atPosition? captures)).getD []
  | .name word => (atName? pattern captures word).getD []

/-- The template filled with what the pattern captured. -/
def fill (pattern : Pattern) (template : Text) (captures : List Text) : Text :=
  (parts template).flatMap (value pattern captures)

end RuleGateway.Template
