import RuleGateway.Text.Utf8

/-!
# Percent encoding

An escape is a percent sign and two hexadecimal digits and stands for a byte.
Reading comes in two forms: `decode?` accepts only well-formed escapes, and
`decodeLoose` lets a percent sign that starts no escape stand for itself.
-/

namespace RuleGateway.Percent

/-- The capital hexadecimal digit of a value below sixteen. -/
def digit (n : Nat) : Char :=
  if n < 10 then Char.ofNat ('0'.toNat + n) else Char.ofNat ('A'.toNat + (n - 10))

/-- The escape of one byte. -/
def escape (b : UInt8) : Text := ['%', digit (b.toNat / 16), digit (b.toNat % 16)]

/-- A character with each byte of its UTF-8 form escaped. -/
def escapeChar (c : Char) : Text := (Utf8.encodeChar c).flatMap escape

/-- The text with the characters of the set escaped. Characters outside ASCII
are always escaped. -/
def encode (inSet : Char → Bool) (text : Text) : Text :=
  text.flatMap fun c => if 0x80 ≤ c.toNat || inSet c then escapeChar c else [c]

/-- The control characters of ASCII. -/
def isControl (c : Char) : Bool := c.toNat < 0x20 || c.toNat == 0x7F

/-- The byte that two hexadecimal digits write. -/
def byte? (high low : Char) : Option UInt8 := do
  let h ← Text.hexDigit? high
  let l ← Text.hexDigit? low
  pure (h * 16 + l).toUInt8

/-- The bytes of the text with escapes replaced; none when a percent sign
starts no escape. -/
def decode? : Text → Option Bytes
  | [] => some []
  | '%' :: high :: low :: rest => do pure ((← byte? high low) :: (← decode? rest))
  | '%' :: _ => none
  | c :: rest => do pure (Utf8.encodeChar c ++ (← decode? rest))

/-- The bytes of the text with well-formed escapes replaced. -/
def decodeLoose : Text → Bytes
  | [] => []
  | '%' :: high :: low :: rest =>
    match byte? high low with
    | some b => b :: decodeLoose rest
    | none => Utf8.encodeChar '%' ++ decodeLoose (high :: low :: rest)
  | c :: rest => Utf8.encodeChar c ++ decodeLoose rest

end RuleGateway.Percent
