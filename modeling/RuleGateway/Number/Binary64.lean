import RuleGateway.Text.Basic

/-!
# Doubles

A double is a sign and a magnitude. The magnitude is the 63-bit pattern of the
exponent and fraction fields, so magnitudes are ordered as the numbers they
stand for: finite ones lie below `infinity`. Arithmetic is exact on natural
numbers and rounds once, to the nearest double and to the even one at a tie.
-/

namespace RuleGateway

/-- A double by its sign bit and the pattern of its other bits. -/
structure Binary64 where
  negative : Bool
  magnitude : Nat
  deriving DecidableEq, Repr

namespace Binary64

/-- The magnitude of infinity, the least that is not finite. -/
def infinity : Nat := 0x7FF * Nat.pow 2 52

/-- Whether the double is a number. -/
def isFinite (x : Binary64) : Bool := x.magnitude < infinity

/-- The whole bit pattern. -/
def bits (x : Binary64) : Nat := (if x.negative then Nat.pow 2 63 else 0) + x.magnitude

/-- The quotient rounded to the nearest whole number, a half to the even one. -/
def roundHalfEven (num den : Nat) : Nat :=
  let q := num / den
  let r := num % den
  if 2 * r < den then q
  else if den < 2 * r then q + 1
  else if q % 2 = 0 then q else q + 1

/-- The exponent of the grid on which a positive quotient has its 53 binary
digits, and never finer than the grid of the smallest doubles. -/
def gridExponent (num den : Nat) : Int :=
  let guess : Int := Int.ofNat num.log2 - Int.ofNat den.log2 - 53
  let whole : Nat :=
    if 0 ≤ guess then num / (den * Nat.pow 2 guess.toNat)
    else num * Nat.pow 2 (-guess).toNat / den
  max (-1074) (if Nat.pow 2 53 ≤ whole then guess + 1 else guess)

/-- The magnitude nearest to a quotient of natural numbers; infinity when the
quotient is too great. -/
def ofQuotient (num den : Nat) : Nat :=
  if num = 0 then 0
  else
    let e := gridExponent num den
    let q : Nat :=
      if 0 ≤ e then roundHalfEven num (den * Nat.pow 2 e.toNat)
      else roundHalfEven (num * Nat.pow 2 (-e).toNat) den
    min infinity ((e + 1074).toNat * Nat.pow 2 52 + q)

/-- A natural number as the nearest magnitude. -/
def ofNat (n : Nat) : Nat := ofQuotient n 1

/-- A whole number as the nearest double. -/
def ofInt (n : Int) : Binary64 := { negative := n < 0, magnitude := ofNat n.natAbs }

/-- The significand and the exponent of a finite magnitude: it stands for
`significand * 2 ^ exponent`. -/
def parts (magnitude : Nat) : Nat × Int :=
  let field : Nat := magnitude / Nat.pow 2 52
  let fraction : Nat := magnitude % Nat.pow 2 52
  if field = 0 then (fraction, -1074) else (Nat.pow 2 52 + fraction, Int.ofNat field - 1075)

/-- A finite magnitude as a quotient of natural numbers. -/
def toQuotient (magnitude : Nat) : Nat × Nat :=
  let (m, e) := parts magnitude
  if 0 ≤ e then (m * Nat.pow 2 e.toNat, 1) else (m, Nat.pow 2 (-e).toNat)

/-- The product of two finite magnitudes. -/
def mul (a b : Nat) : Nat :=
  let (an, ad) := toQuotient a
  let (bn, bd) := toQuotient b
  ofQuotient (an * bn) (ad * bd)

/-- The quotient of two finite magnitudes, the second of them positive. -/
def div (a b : Nat) : Nat :=
  let (an, ad) := toQuotient a
  let (bn, bd) := toQuotient b
  ofQuotient (an * bd) (ad * bn)

/-- The natural number that a double is equal to, if it is one. -/
def toNat? (x : Binary64) : Option Nat :=
  let (num, den) := toQuotient x.magnitude
  if x.isFinite ∧ num % den = 0 ∧ (x.negative = false ∨ num = 0) then some (num / den) else none

/-- The place of a double in the total order of doubles: all negative ones come
before all others, and the negative zero comes just before zero. -/
def rank (x : Binary64) : Int := if x.negative then -(x.magnitude : Int) - 1 else x.magnitude

end Binary64

end RuleGateway
