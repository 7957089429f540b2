import RuleGateway.Json.Value
import RuleGateway.Number.Decimal

/-!
# JSON tokens

The text of a document as a list of tokens. A token that cannot be completed is
kept as such with the reason: the text ended inside it, or a character in it is
not allowed. What is wrong with the order of tokens is not decided here, so an
earlier fault of order is met before a later broken token.

Numbers follow one rule for their value: as many leading digits as fit into 64
bits are kept, the rest only count as a power of ten.
-/

namespace RuleGateway.Json

/-- Why a document is rejected: it ended too early, it is no JSON, or it is
JSON of the wrong shape. -/
inductive Fault where
  | unfinished
  | malformed
  | shape
  deriving DecidableEq, Repr

/-- A token, or what was found instead of one. -/
inductive Token where
  | openObject
  | closeObject
  | openList
  | closeList
  | colon
  | comma
  | text (value : Except Fault Text)
  | scalar (value : Except Fault Value)

namespace Token

/-- The four characters that may stand between tokens. -/
def isSpace (c : Char) : Bool := c == ' ' || c == '\n' || c == '\t' || c == '\r'

/-- The rest of a word whose first letter was read. -/
def word (value : Value) : Text → Text → Except Fault Value × Text
  | [], rest => (.ok value, rest)
  | _ :: _, [] => (.error .unfinished, [])
  | e :: expected, c :: rest =>
    if e = c then word value expected rest else (.error .malformed, rest)

/-- The 16-bit unit that four hexadecimal digits write. Fewer than four bytes
to the end of the text mean that the text ended. -/
def unit (rest : Text) : Except Fault (Nat × Text) :=
  if Text.byteLength (rest.take 4) < 4 then .error .unfinished
  else
    match rest with
    | a :: b :: c :: d :: rest =>
      match Text.hexDigit? a, Text.hexDigit? b, Text.hexDigit? c, Text.hexDigit? d with
      | some a, some b, some c, some d => .ok (((a * 16 + b) * 16 + c) * 16 + d, rest)
      | _, _, _, _ => .error .malformed
    | _ => .error .malformed

/-- The character of a `\u` escape, which is one unit or a pair of surrogates. -/
def unicode (rest : Text) : Except Fault (Char × Text) := do
  let (high, rest) ← unit rest
  if 0xDC00 ≤ high ∧ high ≤ 0xDFFF then throw .malformed
  if high < 0xD800 ∨ 0xDBFF < high then return (Char.ofNat high, rest)
  let rest ← expect '\\' rest
  let rest ← expect 'u' rest
  let (low, rest) ← unit rest
  if low < 0xDC00 ∨ 0xDFFF < low then throw .malformed
  return (Char.ofNat ((high - 0xD800) * 1024 + (low - 0xDC00) + 0x10000), rest)
where
  /-- The text after the one character that may stand here. -/
  expect (c : Char) : Text → Except Fault Text
    | [] => .error .unfinished
    | d :: rest => if c = d then .ok rest else .error .malformed

/-- The character of an escape, from after its backslash. -/
def escape : Text → Except Fault (Char × Text)
  | [] => .error .unfinished
  | 'u' :: rest => unicode rest
  | c :: rest =>
    match c with
    | '"' | '\\' | '/' => .ok (c, rest)
    | 'b' => .ok ('\x08', rest)
    | 'f' => .ok ('\x0C', rest)
    | 'n' => .ok ('\n', rest)
    | 'r' => .ok ('\r', rest)
    | 't' => .ok ('\t', rest)
    | _ => .error .malformed

/-- The characters up to the closing quote and the text after it. The first
argument bounds the number of characters read. -/
def quoted : Nat → Text → Except Fault (Text × Text)
  | 0, _ => .error .unfinished
  | _ + 1, [] => .error .unfinished
  | _ + 1, '"' :: rest => .ok ([], rest)
  | n + 1, '\\' :: rest => do
    let (c, rest) ← escape rest
    let (chars, rest) ← quoted n rest
    return (c :: chars, rest)
  | n + 1, c :: rest =>
    if c.toNat < 0x20 then .error .malformed
    else do
      let (chars, rest) ← quoted n rest
      return (c :: chars, rest)

/-- The greatest number that 64 bits hold. -/
def maxWord : Nat := Nat.pow 2 64 - 1

/-- The digits so far as a number of 64 bits, and the power of ten that counts
the digits which did not fit. -/
structure Significand where
  digits : Nat
  exponent : Int

/-- The double of a significand and a written exponent. -/
def Significand.value (s : Significand) (negative : Bool) : Except Fault Value :=
  match Decimal.scale? s.digits s.exponent with
  | some magnitude => .ok (.number (.real { negative, magnitude }))
  | none => .error .malformed

/-- The exponent part, from after its mark. An exponent past 31 bits makes the
number zero or too great. -/
def exponentPart (negative : Bool) (s : Significand) (rest : Text) : Except Fault Value × Text :=
  let (down, rest) :=
    match rest with
    | '+' :: rest => (false, rest)
    | '-' :: rest => (true, rest)
    | _ => (false, rest)
  match rest with
  | [] => (.error .unfinished, [])
  | c :: _ =>
    if c.isDigit then
      let n := (Text.decimal? (rest.takeWhile Char.isDigit)).getD 0
      let left := rest.dropWhile Char.isDigit
      if Nat.pow 2 31 ≤ n then
        if s.digits ≠ 0 ∧ !down then (.error .malformed, left)
        else (.ok (.number (.real { negative, magnitude := 0 })), left)
      else
        let shift : Int := if down then -(n : Int) else n
        (({ s with exponent := s.exponent + shift }).value negative, left)
    else (.error .malformed, rest)

/-- The digits after the point. Once a digit does not fit, it and all digits
after it are passed over. -/
def fractionDigits : Significand → Text → Significand × Text
  | s, [] => (s, [])
  | s, c :: rest =>
    match Text.digit? c with
    | none => (s, c :: rest)
    | some d =>
      if maxWord < s.digits * 10 + d then (s, rest.dropWhile Char.isDigit)
      else fractionDigits { digits := s.digits * 10 + d, exponent := s.exponent - 1 } rest

/-- What may follow the digits of a number that is a double. -/
def afterDigits (negative : Bool) (s : Significand) : Text → Except Fault Value × Text
  | [] => (s.value negative, [])
  | c :: rest =>
    if c = 'e' ∨ c = 'E' then exponentPart negative s rest else (s.value negative, c :: rest)

/-- The fraction part, from after the point. -/
def fractionPart (negative : Bool) (s : Significand) : Text → Except Fault Value × Text
  | [] => (.error .unfinished, [])
  | c :: rest =>
    if c.isDigit then
      let (s, left) := fractionDigits s (c :: rest)
      afterDigits negative s left
    else (.error .malformed, c :: rest)

/-- A whole number with its sign. A negative zero and a number below the range
of 64 bits become doubles. -/
def wholeValue (negative : Bool) (digits : Nat) : Value :=
  if !negative then .number (.whole digits)
  else if digits = 0 ∨ Nat.pow 2 63 < digits then
    .number (.real { negative, magnitude := Binary64.ofNat digits })
  else .number (.whole (-(digits : Int)))

/-- The whole digits of a number and what follows them. When a digit does not
fit into 64 bits, it and the digits after it count as a power of ten. -/
def wholeDigits (negative : Bool) : Nat → Text → Except Fault Value × Text
  | digits, [] => (.ok (wholeValue negative digits), [])
  | digits, c :: rest =>
    match Text.digit? c with
    | some d =>
      if maxWord < digits * 10 + d then
        let more := (c :: rest).takeWhile Char.isDigit
        let left := (c :: rest).dropWhile Char.isDigit
        let s : Significand := { digits, exponent := more.length }
        match left with
        | '.' :: left => fractionPart negative s left
        | _ => afterDigits negative s left
      else wholeDigits negative (digits * 10 + d) rest
    | none =>
      let s : Significand := { digits, exponent := 0 }
      if c = '.' then fractionPart negative s rest
      else if c = 'e' ∨ c = 'E' then exponentPart negative s rest
      else (.ok (wholeValue negative digits), c :: rest)

/-- A number, from after its sign. A leading zero stands alone. -/
def number (negative : Bool) : Text → Except Fault Value × Text
  | [] => (.error .unfinished, [])
  | '0' :: rest =>
    match rest with
    | c :: _ => if c.isDigit then (.error .malformed, rest) else wholeDigits negative 0 rest
    | [] => wholeDigits negative 0 []
  | c :: rest =>
    if c.isDigit then wholeDigits negative 0 (c :: rest) else (.error .malformed, rest)

/-- The token that starts with a character, and the text after it. -/
def start (c : Char) (rest : Text) : Token × Text :=
  match c with
  | '\x7b' => (.openObject, rest)
  | '\x7d' => (.closeObject, rest)
  | '[' => (.openList, rest)
  | ']' => (.closeList, rest)
  | ':' => (.colon, rest)
  | ',' => (.comma, rest)
  | '"' =>
    match quoted (rest.length + 1) rest with
    | .ok (chars, rest) => (.text (.ok chars), rest)
    | .error fault => (.text (.error fault), [])
  | 'n' => scalarToken (word .null ['u', 'l', 'l'] rest)
  | 't' => scalarToken (word (.bool true) ['r', 'u', 'e'] rest)
  | 'f' => scalarToken (word (.bool false) ['a', 'l', 's', 'e'] rest)
  | '-' => scalarToken (number true rest)
  | _ =>
    if c.isDigit then scalarToken (number false (c :: rest))
    else (.scalar (.error .malformed), rest)
where
  /-- A scalar with the text after it. -/
  scalarToken (found : Except Fault Value × Text) : Token × Text := (.scalar found.1, found.2)

/-- Whether reading stopped inside the token. -/
def isBroken : Token → Bool
  | text (.error _) | scalar (.error _) => true
  | _ => false

/-- The tokens of a text up to the first broken one. The first argument bounds
their number. -/
def scan : Nat → Text → List Token
  | 0, _ => []
  | _ + 1, [] => []
  | n + 1, c :: rest =>
    if isSpace c then scan n rest
    else
      let (token, left) := start c rest
      if token.isBroken then [token] else token :: scan n left

/-- The tokens of a text. -/
def ofText (text : Text) : List Token := scan (text.length + 1) text

end Token

end RuleGateway.Json
