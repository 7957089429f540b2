import RuleGateway.Text.Basic

/-!
# Punycode

A label is written in ASCII as its ASCII characters followed by the places of
the others. The others are taken in order of code point; each is given by how
far a counter over code points and places has to advance, as a number of
variable length in base 36 whose digits end below a threshold that follows the
sizes of the earlier numbers.
-/

namespace RuleGateway.Punycode

/-- The digit of a value below 36. -/
def digit (n : Nat) : Char :=
  if n < 26 then Char.ofNat ('a'.toNat + n) else Char.ofNat ('0'.toNat + (n - 26))

/-- The value of a digit in either case. -/
def value? (c : Char) : Option Nat :=
  if 'a' ≤ c ∧ c ≤ 'z' then some (c.toNat - 'a'.toNat)
  else if 'A' ≤ c ∧ c ≤ 'Z' then some (c.toNat - 'A'.toNat)
  else if c.isDigit then some (c.toNat - '0'.toNat + 26)
  else none

/-- The threshold of the digit at the given place: places count from one. -/
def threshold (bias place : Nat) : Nat := min 26 (max 1 (36 * place - bias))

/-- Halving steps of the bias: `delta` divided by 35 while it is above 455. -/
def settle : Nat → Nat → Nat → Nat
  | 0, delta, sum => sum + 36 * delta / (delta + 38)
  | n + 1, delta, sum =>
    if 455 < delta then settle n (delta / 35) (sum + 36)
    else sum + 36 * delta / (delta + 38)

/-- The bias after a number, from its size and how many characters are placed. -/
def adapt (delta placed : Nat) (isFirst : Bool) : Nat :=
  let delta := if isFirst then delta / 700 else delta / 2
  let delta := delta + delta / placed
  settle delta delta 0

/-- The digits of a number. The first argument bounds their count. -/
def digits : Nat → Nat → Nat → Nat → Text
  | 0, _, _, _ => []
  | n + 1, bias, place, q =>
    let t := threshold bias place
    if q < t then [digit q]
    else digit (t + (q - t) % (36 - t)) :: digits n bias (place + 1) ((q - t) / (36 - t))

/-- The encoder between characters. -/
structure Encoder where
  output : Text
  delta : Nat
  bias : Nat
  placed : Nat

/-- One character of the label while the code point `m` is being placed. -/
def Encoder.visit (m ascii : Nat) (e : Encoder) (c : Char) : Encoder :=
  if c.toNat < m then { e with delta := e.delta + 1 }
  else if c.toNat = m then
    { output := e.output ++ digits (e.delta + 1) e.bias 1 e.delta, delta := 0
      bias := adapt e.delta (e.placed + 1) (e.placed == ascii), placed := e.placed + 1 }
  else e

/-- The encoder after the code points of the list, which ascends from `next`. -/
def Encoder.run (label : Text) (ascii : Nat) : List Nat → Nat → Encoder → Encoder
  | [], _, e => e
  | m :: rest, next, e =>
    let e := { e with delta := e.delta + (m - next) * (e.placed + 1) }
    let e := label.foldl (visit m ascii) e
    run label ascii rest (m + 1) { e with delta := e.delta + 1 }

/-- The ASCII form of a label, without the mark that goes before it. -/
def encode (label : Text) : Text :=
  let ascii := label.filter (·.toNat < 0x80)
  let others := ((label.filter (0x80 ≤ ·.toNat)).map Char.toNat).mergeSort.eraseDups
  let start : Encoder := { output := [], delta := 0, bias := 72, placed := ascii.length }
  ascii ++ (if ascii.isEmpty then [] else ['-']) ++
    (Encoder.run label ascii.length others 0x80 start).output

/-- The decoder between digits: the characters placed so far, the counter at the
last number and now, and the place and weight of the next digit. -/
structure Decoder where
  output : Text
  point : Nat
  before : Nat
  counter : Nat
  bias : Nat
  place : Nat
  weight : Nat
  inside : Bool

/-- The numbers of a label lie below this bound. -/
def bound : Nat := Nat.pow 2 32

/-- One digit. The last digit of a number places a character. -/
def Decoder.step (d : Decoder) (c : Char) : Option Decoder := do
  let v ← value? c
  let counter := d.counter + v * d.weight
  let t := threshold d.bias d.place
  if bound ≤ counter then none
  else if v < t then
    let size := d.output.length + 1
    let point := d.point + counter / size
    let slot := counter % size
    if point < 0x80 ∨ (0xD800 ≤ point ∧ point < 0xE000) ∨ 0x110000 ≤ point then none
    else
      some
        { output := d.output.take slot ++ Char.ofNat point :: d.output.drop slot, point
          before := slot + 1, counter := slot + 1
          bias := adapt (counter - d.before) size (d.before == 0), place := 1, weight := 1
          inside := false }
  else if bound ≤ d.weight * (36 - t) then none
  else
    some { d with counter, place := d.place + 1, weight := d.weight * (36 - t), inside := true }

/-- How long an ASCII form may be. -/
def maxForm : Nat := 2000

/-- The label of an ASCII form, if it is one. A hyphen behind the ASCII
characters needs such characters before it. -/
def decode? (text : Text) : Option Text := do
  let tail := (text.reverse.takeWhile (· != '-')).reverse
  let ascii := text.take (text.length - tail.length - 1)
  if maxForm < text.length ∨ (ascii.isEmpty ∧ tail.length < text.length) then none
  let start : Decoder :=
    { output := ascii, point := 0x80, before := 0, counter := 0, bias := 72, place := 1,
      weight := 1, inside := false }
  let d ← tail.foldl (fun d c => d.bind (·.step c)) (some start)
  if d.inside then none else some d.output

end RuleGateway.Punycode
