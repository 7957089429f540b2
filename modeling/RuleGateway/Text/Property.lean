import RuleGateway.Text.Basic

/-!
# Properties of characters

A property of characters changes at some code points only. It is a list of
steps in ascending order, each with the first code point that it holds for, and
a step holds up to the next one. The tables of the library are written as words:
the first code point, a capital letter for the value, and further code points
that belong to it.
-/

namespace RuleGateway

/-- A step: the value from a code point on, and the code points that the value
refers to. -/
structure Property.Step where
  first : Nat
  value : Char
  points : List Nat := []
  deriving DecidableEq, Repr

/-- The steps of a property in ascending order. -/
abbrev Property := Array Property.Step

namespace Property

/-- The digits of code points in a table. -/
def isDigit (c : Char) : Bool := c.isDigit || ('a' ≤ c && c ≤ 'f')

/-- A code point in a table. -/
def point? (word : Text) : Option Nat := Text.number? 16 Text.hexDigit? word

/-- The step that a word of a table is. -/
def Step.ofWord? (word : Text) : Option Step := do
  let first ← point? (word.takeWhile isDigit)
  match word.dropWhile isDigit with
  | [] => none
  | [value] => some { first, value }
  | value :: rest => some { first, value, points := (Text.split ',' rest).filterMap point? }

/-- The property that a table describes. -/
def ofText (table : Text) : Property :=
  let blank (c : Char) : Bool := c == ' ' || c == '\n'
  ((Text.split ' ' (table.map fun c => if blank c then ' ' else c)).filterMap
    Step.ofWord?).toArray

/-- The place of the last step in a stretch of places that starts at or below a
code point, if the first one of the stretch does. -/
def lastUpTo (property : Property) (n low high : Nat) : Nat :=
  if low + 1 < high then
    let middle := (low + high) / 2
    if property[middle]?.any fun step => step.first ≤ n then lastUpTo property n middle high
    else lastUpTo property n low middle
  else low
termination_by high - low
decreasing_by all_goals omega

/-- The step that holds for a code point. -/
def step? (property : Property) (n : Nat) : Option Step :=
  (property[lastUpTo property n 0 property.size]?).filter (·.first ≤ n)

/-- Whether a character has a value. -/
def holds (property : Property) (value : Char) (c : Char) : Bool :=
  (property.step? c.toNat).any (·.value == value)

end Property

end RuleGateway
