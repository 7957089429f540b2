import RuleGateway.Text.Basic

/-!
# Internet addresses

The text forms of addresses of four bytes and of eight 16-bit pieces. Reading
is strict: decimal parts have no leading zeros and at most one run of zero
pieces is left out. Writing leaves out the longest run of at least two.
-/

namespace RuleGateway.Ip

/-- A decimal part of an address of four bytes. -/
def part? (text : Text) : Option Nat := do
  let n ← Text.decimal? text
  if n ≤ 255 ∧ text.length ≤ 3 ∧ (text.length = 1 ∨ text.head? ≠ some '0') then some n else none

/-- The four bytes of a dotted address, as one number. -/
def v4? (text : Text) : Option Nat := do
  match Text.split '.' text with
  | [a, b, c, d] =>
    pure ((((← part? a) * 256 + (← part? b)) * 256 + (← part? c)) * 256 + (← part? d))
  | _ => none

/-- The dotted form of four bytes. -/
def renderV4 (address : Nat) : Text :=
  Text.join '.'
    ([address / 16777216, address / 65536 % 256, address / 256 % 256, address % 256].map
      Text.ofNat)

/-- A piece of one to four hexadecimal digits. -/
def piece? (text : Text) : Option Nat :=
  if text.length ≤ 4 then Text.number? 16 Text.hexDigit? text else none

/-- Pieces between colons. The last one may be a dotted address, which counts
for two, where that is allowed. -/
def pieces? (dotted : Bool) : List Text → Option (List Nat)
  | [] => some []
  | [last] =>
    if dotted ∧ last.contains '.' then (v4? last).map fun n => [n / 65536, n % 65536]
    else (piece? last).map ([·])
  | text :: rest => do pure ((← piece? text) :: (← pieces? dotted rest))

/-- Pieces in a text that may be empty. -/
def run? (dotted : Bool) (text : Text) : Option (List Nat) :=
  if text.isEmpty then some [] else pieces? dotted (Text.split ':' text)

/-- The text before the first pair of colons and the text after it. -/
def cutAtGap : Text → Option (Text × Text)
  | [] => none
  | ':' :: ':' :: rest => some ([], rest)
  | c :: rest => (cutAtGap rest).map fun (left, right) => (c :: left, right)

/-- The eight pieces of an address. A gap stands for at least one piece. -/
def v6? (text : Text) : Option (List Nat) :=
  match cutAtGap text with
  | some (left, right) => do
    let left ← run? false left
    let right ← run? true right
    let known := left.length + right.length
    if known ≤ 7 then some (left ++ List.replicate (8 - known) 0 ++ right) else none
  | none => do
    let pieces ← run? true text
    if pieces.length = 8 then some pieces else none

/-- A number in hexadecimal with small letters. -/
def renderHex (n : Nat) : Text := Nat.toDigits 16 n

/-- The length of the run of zeros at the start. -/
def zeros (pieces : List Nat) : Nat := (pieces.takeWhile (· == 0)).length

/-- Where the longest run of zeros starts and how long it is; the first of them
if there are several. -/
def longestGap : List Nat → Nat × Nat
  | [] => (0, 0)
  | piece :: rest =>
    let here := zeros (piece :: rest)
    let (start, length) := longestGap rest
    if length ≤ here then (0, here) else (start + 1, length)

/-- The pieces with the longest run of at least two zeros left out. -/
def renderV6 (pieces : List Nat) : Text :=
  let (start, length) := longestGap pieces
  if length < 2 then Text.join ':' (pieces.map renderHex)
  else
    Text.join ':' ((pieces.take start).map renderHex) ++ [':', ':'] ++
      Text.join ':' ((pieces.drop (start + length)).map renderHex)

end RuleGateway.Ip
