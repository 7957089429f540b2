import RuleGateway.Text.Blank

/-!
# Durations

A duration is a whole number of milliseconds. It is written as a number of
seconds or as groups of a number and a unit, such as `1h30m`. The parser adds
the groups with a check at every step, so a sum that does not fit into 64 bits
is an error and never a smaller duration.
-/

namespace RuleGateway

/-- A span of time in milliseconds. -/
structure Duration where
  millis : Nat
  deriving DecidableEq, Repr

namespace Duration

/-- A number of seconds. -/
def ofSecs (secs : Nat) : Duration := { millis := secs * 1000 }

/-- The whole seconds of a duration. -/
def secs (d : Duration) : Nat := d.millis / 1000

/-- Whether the duration is no time at all. -/
def isZero (d : Duration) : Bool := d.millis == 0

/-- The numbers that a duration may be written with lie below this bound, and
so does a sum of groups. -/
def bound : Nat := Nat.pow 2 64

/-- What is wrong with a written duration. -/
inductive Problem where
  | empty
  | expectedNumber
  | numberOutOfRange
  | missingUnit
  | unknownUnit
  | overflow
  deriving DecidableEq, Repr

/-- The wording of a problem. -/
def Problem.message : Problem → Text
  | empty => "empty"
  | expectedNumber => "expected a number"
  | numberOutOfRange => "number out of range"
  | missingUnit => "missing unit"
  | unknownUnit => "unknown unit"
  | overflow => "overflow"

/-- The milliseconds of a unit. -/
def unit? (word : Text) : Option Nat :=
  if word = "ms".toList then some 1
  else if word = "s".toList then some 1000
  else if word = "m".toList then some 60000
  else if word = "h".toList then some 3600000
  else if word = "d".toList then some 86400000
  else none

/-- A number of seconds, with an optional plus sign. -/
def secs? (text : Text) : Option Nat :=
  let digits :=
    match text with
    | '+' :: rest => rest
    | _ => text
  (Text.decimal? digits).filter (· < bound)

/-- The first group of a text: its number, its unit and what follows. -/
def group (text : Text) : Text × Text × Text :=
  let rest := text.dropWhile Char.isDigit
  (text.takeWhile Char.isDigit, rest.takeWhile (!·.isDigit), rest.dropWhile (!·.isDigit))

/-- The milliseconds of a group added to a sum. -/
def addGroup (sum : Nat) (digits word : Text) : Except Problem Nat :=
  match Text.decimal? digits with
  | none => .error .expectedNumber
  | some n =>
    if bound ≤ n then .error .numberOutOfRange
    else if word.isEmpty then .error .missingUnit
    else
      match unit? word with
      | none => .error .unknownUnit
      | some size => if bound ≤ sum + n * size then .error .overflow else .ok (sum + n * size)

/-- The sum of the groups of a text behind a sum. The first argument bounds the
number of groups. -/
def addGroups : Nat → Nat → Text → Except Problem Nat
  | 0, sum, _ => .ok sum
  | _ + 1, sum, [] => .ok sum
  | fuel + 1, sum, c :: text => do
    let (digits, word, rest) := group (c :: text)
    addGroups fuel (← addGroup sum digits word) rest

/-- The duration that a text writes between blanks. -/
def read (text : Text) : Except Problem Duration :=
  let input := Text.trim text
  if input.isEmpty then .error .empty
  else
    match secs? input with
    | some secs => .ok (ofSecs secs)
    | none => (addGroups input.length 0 input).map fun millis => { millis }

/-- An unreadable duration, with the text as it was given. -/
structure Unreadable where
  input : Text
  problem : Problem
  deriving DecidableEq, Repr

/-- The wording for an unreadable duration. -/
def Unreadable.message (e : Unreadable) : Text :=
  "invalid duration '".toList ++ e.input ++ "': ".toList ++ e.problem.message

/-- The duration that a text is. -/
def parse (text : Text) : Except Unreadable Duration :=
  (read text).mapError fun problem => { input := text, problem }

/-- A count with its unit, left out when it is zero. -/
def renderCount (n : Nat) (word : Char) : Text :=
  if n = 0 then [] else Text.ofNat n ++ [word]

/-- The text of a duration: milliseconds when there is a part of a second, else
hours, minutes and seconds without the zero ones. -/
def render (d : Duration) : Text :=
  if d.millis % 1000 ≠ 0 then Text.ofNat d.millis ++ ['m', 's']
  else if d.secs = 0 then ['0', 's']
  else
    renderCount (d.secs / 3600) 'h' ++ renderCount (d.secs % 3600 / 60) 'm' ++
      renderCount (d.secs % 60) 's'

/-- The milliseconds past a whole second as a decimal fraction, without zeros at
its end. -/
def fraction (millis : Nat) : Text :=
  let digits := Text.ofNat (1000 + millis % 1000)
  ((digits.drop 1).reverse.dropWhile (· == '0')).reverse

/-- The duration in its greatest unit that is not above it, as error texts give
it. -/
def describe (d : Duration) : Text :=
  if d.secs = 0 then if d.isZero then "0ns" else Text.ofNat d.millis ++ ['m', 's']
  else
    let part := fraction d.millis
    Text.ofNat d.secs ++ (if part.isEmpty then [] else '.' :: part) ++ ['s']

end Duration

end RuleGateway
