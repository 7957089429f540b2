import RuleGateway.Text.Basic

/-!
# UTF-8

A decoder reads one byte at a time. It holds the sequence it is in the middle
of and gives out a character when a sequence is complete, or a mark that a
sequence was malformed. A byte that cannot continue a sequence ends it and
starts anew, so a malformed stretch costs one mark per truncated sequence.
Strict and lenient reading differ only in what they do with the marks.
-/

namespace RuleGateway.Utf8

/-- The bytes of one character. -/
def encodeChar (c : Char) : Bytes :=
  let n := c.toNat
  if n < 0x80 then [n.toUInt8]
  else if n < 0x800 then [(0xC0 + n / 64).toUInt8, (0x80 + n % 64).toUInt8]
  else if n < 0x10000 then
    [(0xE0 + n / 4096).toUInt8, (0x80 + n / 64 % 64).toUInt8, (0x80 + n % 64).toUInt8]
  else
    [(0xF0 + n / 262144).toUInt8, (0x80 + n / 4096 % 64).toUInt8,
      (0x80 + n / 64 % 64).toUInt8, (0x80 + n % 64).toUInt8]

/-- The bytes of a text. -/
def encode (text : Text) : Bytes := text.flatMap encodeChar

/-- A sequence that has begun: the value so far, how many bytes are owed, and
the bounds on the next of them. -/
structure Pending where
  value : Nat
  owed : Nat
  low : Nat := 0x80
  high : Nat := 0xBF

/-- What the decoder gives out at one byte: complete characters, and `none`
for a malformed sequence. -/
abbrev Marks := List (Option Char)

/-- A byte between sequences. The bounds on the second byte keep out overlong
forms, surrogates and values past the last character. -/
def first (b : Nat) : Marks × Option Pending :=
  if b < 0x80 then ([some (Char.ofNat b)], none)
  else if b < 0xC2 then ([none], none)
  else if b < 0xE0 then ([], some { value := b - 0xC0, owed := 1 })
  else if b = 0xE0 then ([], some { value := 0, owed := 2, low := 0xA0 })
  else if b = 0xED then ([], some { value := 0xD, owed := 2, high := 0x9F })
  else if b < 0xF0 then ([], some { value := b - 0xE0, owed := 2 })
  else if b = 0xF0 then ([], some { value := 0, owed := 3, low := 0x90 })
  else if b < 0xF4 then ([], some { value := b - 0xF0, owed := 3 })
  else if b = 0xF4 then ([], some { value := 4, owed := 3, high := 0x8F })
  else ([none], none)

/-- One byte, between sequences or inside one. -/
def step : Option Pending → Nat → Marks × Option Pending
  | none, b => first b
  | some p, b =>
    if p.low ≤ b ∧ b ≤ p.high then
      let value := p.value * 64 + (b - 0x80)
      if p.owed ≤ 1 then ([some (Char.ofNat value)], none)
      else ([], some { value := value, owed := p.owed - 1 })
    else
      let (marks, next) := first b
      (none :: marks, next)

/-- The marks of a byte list, from the middle of a sequence or from between. -/
def marks : Option Pending → Bytes → Marks
  | none, [] => []
  | some _, [] => [none]
  | state, b :: rest =>
    let (out, next) := step state b.toNat
    out ++ marks next rest

/-- The text that the bytes are the UTF-8 form of, if they are one. -/
def decode? (bytes : Bytes) : Option Text := (marks none bytes).mapM id

/-- The text of the bytes with U+FFFD for every malformed sequence. -/
def decodeLossy (bytes : Bytes) : Text :=
  (marks none bytes).map (·.getD (Char.ofNat 0xFFFD))

end RuleGateway.Utf8
