import RuleGateway.Pattern.Template
import RuleGateway.Text.Utf8

/-!
# Filling a template byte by byte

A template is kept as UTF-8, and it is filled in one pass over its bytes. The pass has two
places in them: the byte that it looks at, and where the literal text begins that it has
passed and not yet given out. A place where a reference ends is a third. Text between two
places is there only if both are between characters.
-/

namespace RuleGateway

namespace Utf8

/-- Whether a place in the bytes of a text is at an end of the text or between two
characters. -/
def isBorder (bytes : Bytes) (place : Nat) : Bool :=
  match bytes[place]? with
  | some b => b.toNat / 64 != 2
  | none => place == bytes.length

/-- The text between two places in the bytes of a text. -/
def slice? (bytes : Bytes) (start stop : Nat) : Option Text :=
  if start ≤ stop ∧ isBorder bytes start ∧ isBorder bytes stop then
    decode? ((bytes.drop start).take (stop - start))
  else none

end Utf8

namespace Pattern

/-- The parameters among dynamic segments with their numbers, which begin with the given
one. -/
def namedFrom : Nat → List (Option Text) → List (Text × Nat)
  | _, [] => []
  | n, none :: labels => namedFrom (n + 1) labels
  | n, some name :: labels => (name, n) :: namedFrom (n + 1) labels

/-- The parameters, each with its number among all dynamic segments, counted from one. -/
def namedGroups (pattern : Pattern) : List (Text × Nat) := namedFrom 1 pattern.labels

end Pattern

namespace Template

/-- The captured text with the given number, the empty text if there is none. -/
def groupText (captures : List Text) (n : Nat) : Text := (atPosition? captures n).getD []

/-- The byte that references by number begin with. -/
def dollar : UInt8 := 0x24

/-- The byte that references by name begin with. -/
def colon : UInt8 := 0x3A

/-- Whether a reference that begins with the marker goes on with the byte. -/
def goesOn (marker b : UInt8) : Bool :=
  if marker = dollar then (Char.ofNat b.toNat).isDigit else isWord (Char.ofNat b.toNat)

/-- How many bytes of a reference stand behind a marker. -/
def referenceLength (marker : UInt8) (behind : Bytes) : Nat :=
  (behind.takeWhile (goesOn marker)).length

/-- What a reference by number is filled with. A number that is larger than the largest
that can be held is none. -/
def positionText (largest : Nat) (captures : List Text) (digits : Text) : Text :=
  match Text.decimal? digits with
  | some n => if n ≤ largest then groupText captures n else []
  | none => []

/-- What a reference by name is filled with. The number of a parameter stands where its
name stands. -/
def nameText? (groups : List (Text × Nat)) (captures : List Text) (word : Text) : Option Text :=
  match (groups.map (·.1)).findIdx? (· == word) with
  | some place => (groups.map (·.2))[place]?.map (groupText captures)
  | none => some []

/-- What a reference behind the marker is filled with. -/
def referenceText? (largest : Nat) (pattern : Pattern) (captures : List Text) (marker : UInt8)
    (reference : Text) : Option Text :=
  if marker = dollar then some (positionText largest captures reference)
  else nameText? pattern.namedGroups captures reference

/-- The rest of the pass from a place on: `output` has been given out, and the literal text
from `start` on has been passed. There is no result if a text between two places or the
number of a parameter is asked for and there is none. -/
def fillFrom? (largest : Nat) (pattern : Pattern) (captures : List Text) (template : Bytes)
    (output : Text) (start place : Nat) : Option Text :=
  if h : place < template.length then
    let marker := template[place]
    let length := referenceLength marker (template.drop (place + 1))
    if marker ≠ dollar ∧ marker ≠ colon ∨ length = 0 then
      fillFrom? largest pattern captures template output start (place + 1)
    else do
      let reference ← Utf8.slice? template (place + 1) (place + 1 + length)
      let literal ← Utf8.slice? template start place
      let text ← referenceText? largest pattern captures marker reference
      fillFrom? largest pattern captures template (output ++ literal ++ text)
        (place + 1 + length) (place + 1 + length)
  else (Utf8.slice? template start template.length).map (output ++ ·)
termination_by template.length - place

/-- The bytes of a template filled with what the pattern captured. -/
def fillBytes? (largest : Nat) (pattern : Pattern) (captures : List Text) (template : Bytes) :
    Option Text :=
  fillFrom? largest pattern captures template [] 0 0

end Template

end RuleGateway
