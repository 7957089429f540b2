import RuleGateway.Number.Binary64
import RuleGateway.Text.Blank

/-!
# Decimal notation

Two readings of decimal notation as doubles. `Decimal.parse?` reads free text,
such as a status written as a string, and rounds the exact value once.
`Decimal.scale?` builds the value of a number in a document from its leading
digits and a power of ten, each a double, and so rounds twice; that is the
value rule documents are read with.
-/

namespace RuleGateway.Decimal

/-- The double nearest to `digits * 10 ^ exponent`. Outside the range of doubles
the answer is known without the power of ten. -/
def nearest (digits : Nat) (exponent : Int) : Nat :=
  let top : Int := (Nat.log2 digits : Int) / 3 + 1 + exponent
  if digits = 0 then 0
  else if 0 ≤ exponent then
    if 400 < exponent then Binary64.infinity
    else Binary64.ofQuotient (digits * Nat.pow 10 exponent.toNat) 1
  else if top < -400 then 0
  else Binary64.ofQuotient digits (Nat.pow 10 (-exponent).toNat)

/-- The exponent part of a number: nothing, or a mark, a sign and digits. -/
def exponent? : Text → Option Int
  | [] => some 0
  | c :: rest =>
    if c = 'e' ∨ c = 'E' then
      match rest with
      | '+' :: digits => (Text.decimal? digits).map fun n => (n : Int)
      | '-' :: digits => (Text.decimal? digits).map fun n => -(n : Int)
      | digits => (Text.decimal? digits).map fun n => (n : Int)
    else none

/-- The magnitude of an unsigned number: digits with at most one point among
them, at least one digit, and an exponent part. -/
def unsigned? (text : Text) : Option Nat := do
  let whole := text.takeWhile Char.isDigit
  let afterWhole := text.dropWhile Char.isDigit
  let (fraction, afterFraction) :=
    match afterWhole with
    | '.' :: rest => (rest.takeWhile Char.isDigit, rest.dropWhile Char.isDigit)
    | _ => ([], afterWhole)
  let digits ← Text.decimal? (whole ++ fraction)
  let exponent ← exponent? afterFraction
  pure (nearest digits (exponent - fraction.length))

/-- The finite double that a text writes, with an optional sign. A number too
great for a double is none. -/
def parse? (text : Text) : Option Binary64 := do
  let (negative, rest) :=
    match text with
    | '+' :: rest => (false, rest)
    | '-' :: rest => (true, rest)
    | _ => (false, text)
  let x : Binary64 := { negative, magnitude := ← unsigned? rest }
  if x.isFinite then some x else none

/-- A magnitude divided by a power of ten in steps that are doubles themselves. -/
def shrink (magnitude places : Nat) : Nat :=
  if places ≤ 308 then Binary64.div magnitude (Binary64.ofNat (Nat.pow 10 places))
  else if magnitude = 0 then 0
  else shrink (Binary64.div magnitude (Binary64.ofNat (Nat.pow 10 308))) (places - 308)
termination_by places

/-- The magnitude of `digits * 10 ^ exponent` with the digits and the power of
ten rounded first; none when it is too great. -/
def scale? (digits : Nat) (exponent : Int) : Option Nat :=
  let start := Binary64.ofNat digits
  if exponent < 0 then some (shrink start (-exponent).toNat)
  else if exponent ≤ 308 then
    let product := Binary64.mul start (Binary64.ofNat (Nat.pow 10 exponent.toNat))
    if product < Binary64.infinity then some product else none
  else if start = 0 then some 0 else none

end RuleGateway.Decimal
