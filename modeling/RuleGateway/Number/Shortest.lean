import RuleGateway.Number.Binary64

/-!
# Shortest decimal notation of a double

A double is written with the fewest digits that read back as it, and of those
with the ones nearest to it. The numbers that read back are an interval around
the double that reaches half way to its neighbours. For a growing count of
digits the two decimal numbers next to the double on the grid of that count are
tried; the first grid with a number in the interval gives the digits.
-/

namespace RuleGateway.Shortest

/-- A positive double as its significand, a binary exponent two lower, and the
interval of numbers that read back, in quarters of its last place. -/
structure Interval where
  low : Nat
  value : Nat
  high : Nat
  exponent : Int
  closed : Bool

/-- The interval of a positive finite magnitude. Below a power of two the
neighbour is twice as near; the ends belong to an even significand. -/
def Interval.ofMagnitude (magnitude : Nat) : Interval :=
  let (m, e) := Binary64.parts magnitude
  let near := magnitude % Nat.pow 2 52 = 0 ∧ Nat.pow 2 53 ≤ magnitude
  { low := 4 * m - (if near then 1 else 2), value := 4 * m, high := 4 * m + 2,
    exponent := e - 2, closed := m % 2 = 0 }

/-- Compare `a * 2 ^ e` with `b * 10 ^ k`. -/
def compareScaled (a : Nat) (e : Int) (b : Nat) (k : Int) : Ordering :=
  compare (a * Nat.pow 2 e.toNat * Nat.pow 10 (-k).toNat)
    (b * Nat.pow 10 k.toNat * Nat.pow 2 (-e).toNat)

/-- Whether `b * 10 ^ k` reads back as the double of the interval. -/
def Interval.holds (i : Interval) (b : Nat) (k : Int) : Bool :=
  let below := compareScaled i.low i.exponent b k
  let above := compareScaled i.high i.exponent b k
  if i.closed then below != .gt && above != .lt else below == .lt && above == .gt

/-- The greatest whole number of steps of `10 ^ k` below the value. -/
def Interval.steps (i : Interval) (k : Int) : Nat :=
  (i.value * Nat.pow 2 i.exponent.toNat * Nat.pow 10 (-k).toNat) /
    (Nat.pow 10 k.toNat * Nat.pow 2 (-i.exponent).toNat)

/-- The number of steps on the grid of `10 ^ k` that reads back and is nearest
to the value. -/
def Interval.on? (i : Interval) (k : Int) : Option Nat :=
  let s := i.steps k
  match i.holds s k, i.holds (s + 1) k with
  | true, true =>
    let twice := compareScaled (2 * i.value) i.exponent (2 * s + 1) k
    some (if twice = .lt ∨ (twice = .eq ∧ s % 2 = 0) then s else s + 1)
  | true, false => some s
  | false, true => some (s + 1)
  | false, false => none

/-- The grids from coarse to fine, until one has a number that reads back. -/
def search (i : Interval) : Nat → Int → Nat × Int
  | 0, k => (i.steps k, k)
  | n + 1, k =>
    match i.on? k with
    | some digits => (digits, k)
    | none => search i n (k - 1)

/-- The digits without zeros at their end and the power of ten of the last one,
for a positive finite magnitude. -/
def digits (magnitude : Nat) : Text × Int :=
  let i := Interval.ofMagnitude magnitude
  let top : Int := ((i.value.log2 : Int) + i.exponent) * 30103 / 100000 + 1
  let (n, k) := search i 20 top
  let text := Text.ofNat n
  let zeros := (text.reverse.takeWhile (· == '0')).length
  (text.take (text.length - zeros), k + zeros)

/-- How a double is written in a message: plain notation with a point while the
point stands at most sixteen places after the first digit or five places before
it, and scientific notation with a signed exponent otherwise. -/
def render (x : Binary64) : Text :=
  let sign : Text := if x.negative then ['-'] else []
  if x.magnitude = 0 then sign ++ ['0', '.', '0']
  else
    let (ds, k) := digits x.magnitude
    let count : Int := ds.length
    let point := count + k
    sign ++
      if 0 ≤ k ∧ point ≤ 16 then ds ++ List.replicate k.toNat '0' ++ ['.', '0']
      else if 0 < point ∧ point ≤ 16 then ds.take point.toNat ++ '.' :: ds.drop point.toNat
      else if -5 < point ∧ point ≤ 0 then
        ['0', '.'] ++ List.replicate (-point).toNat '0' ++ ds
      else
        let e := point - 1
        let exponent := (if e < 0 then '-' else '+') :: Text.ofNat e.natAbs
        (if ds.length ≤ 1 then ds else ds.take 1 ++ '.' :: ds.drop 1) ++ 'e' :: exponent

end RuleGateway.Shortest
