/-!
# Texts and bytes

A text is the list of its characters and a body is the list of its bytes, so
every operation of the gateway is an ordinary function on lists and its laws
are laws of lists.
-/

namespace RuleGateway

/-- Characters in reading order. -/
abbrev Text := List Char

/-- Bytes in transmission order. -/
abbrev Bytes := List UInt8

/-- A literal stands for its characters. -/
instance : Coe String Text := ⟨String.toList⟩

namespace Text

/-- The text with ASCII capitals made small; every other character stays. -/
def lower (text : Text) : Text := text.map Char.toLower

/-- Equality up to the case of ASCII letters. -/
def sameLetters (a b : Text) : Bool := lower a == lower b

/-- What follows `lead` in a text that starts with it. -/
def after? : Text → Text → Option Text
  | [], text => some text
  | _ :: _, [] => none
  | l :: lead, c :: text => if l = c then after? lead text else none

theorem after?_append (lead rest : Text) : after? lead (lead ++ rest) = some rest := by
  induction lead with
  | nil => rfl
  | cons l lead ih => simp [after?, ih]

theorem after?_eq_some_iff {lead text rest : Text} :
    after? lead text = some rest ↔ text = lead ++ rest := by
  constructor
  · intro h
    induction lead generalizing text with
    | nil => simpa [after?] using h
    | cons l lead ih =>
      cases text with
      | nil => simp [after?] at h
      | cons c text =>
        by_cases hc : l = c
        · simp [after?, hc] at h
          simp [hc, ih h]
        · simp [after?, hc] at h
  · rintro rfl
    exact after?_append lead rest

/-- Whether the text starts with `lead`. -/
def startsWith (text lead : Text) : Bool := (after? lead text).isSome

/-- Whether the text contains the part. -/
def hasPart : Text → Text → Bool
  | [], part => part.isEmpty
  | c :: text, part => startsWith (c :: text) part || hasPart text part

/-- Whether the last character is `c`. -/
def endsWith (text : Text) (c : Char) : Bool := text.getLast? == some c

/-- The text unless it is empty. -/
def nonempty? (text : Text) : Option Text := if text.isEmpty then none else some text

/-- The text without one slash at its end, if it has one. -/
def dropFinalSlash (text : Text) : Text :=
  if endsWith text '/' then text.dropLast else text

/-- The parts of a text between occurrences of `sep`; there is always one more
part than there are separators. -/
def split (sep : Char) : Text → List Text
  | [] => [[]]
  | c :: rest =>
    if c = sep then [] :: split sep rest
    else
      match split sep rest with
      | [] => [[c]]
      | part :: parts => (c :: part) :: parts

/-- The parts with `sep` between neighbours. -/
def join (sep : Char) : List Text → Text
  | [] => []
  | [part] => part
  | part :: parts => part ++ sep :: join sep parts

/-- The number in decimal notation. -/
def ofNat (n : Nat) : Text := Nat.toDigits 10 n

/-- The value of a decimal digit. -/
def digit? (c : Char) : Option Nat :=
  if c.isDigit then some (c.toNat - '0'.toNat) else none

/-- The value of a hexadecimal digit in either case. -/
def hexDigit? (c : Char) : Option Nat :=
  if c.isDigit then some (c.toNat - '0'.toNat)
  else if 'a' ≤ c ∧ c ≤ 'f' then some (c.toNat - 'a'.toNat + 10)
  else if 'A' ≤ c ∧ c ≤ 'F' then some (c.toNat - 'A'.toNat + 10)
  else none

/-- The number written with the digits that `value?` knows in the given base;
no number when there is no digit or a character is none. -/
def number? (base : Nat) (value? : Char → Option Nat) : Text → Option Nat
  | [] => none
  | text => text.foldl (fun sum c => do pure ((← sum) * base + (← value? c))) (some 0)

/-- A non-empty run of decimal digits as a number. -/
def decimal? (text : Text) : Option Nat := number? 10 digit? text

/-- How many bytes the UTF-8 form of a character has. -/
def utf8Size (c : Char) : Nat :=
  if c.toNat < 0x80 then 1 else if c.toNat < 0x800 then 2 else if c.toNat < 0x10000 then 3 else 4

/-- How many bytes the UTF-8 form of the text has. -/
def byteLength : Text → Nat
  | [] => 0
  | c :: rest => utf8Size c + byteLength rest

/-- The start of the text whose UTF-8 form has `n` bytes, none where no start
has that many. -/
def takeBytes? (n : Nat) (text : Text) : Option Text :=
  if n = 0 then some []
  else
    match text with
    | [] => none
    | c :: rest =>
      if utf8Size c ≤ n then (takeBytes? (n - utf8Size c) rest).map (c :: ·) else none

theorem utf8Size_pos (c : Char) : 0 < utf8Size c := by
  unfold utf8Size
  repeat' split
  all_goals omega

theorem takeBytes?_append (lead rest : Text) :
    takeBytes? (byteLength lead) (lead ++ rest) = some lead := by
  induction lead with
  | nil =>
    unfold takeBytes?
    simp [byteLength]
  | cons c lead ih =>
    have h := utf8Size_pos c
    unfold takeBytes?
    rw [byteLength, if_neg (by omega), List.cons_append]
    simp only [Nat.le_add_right, if_true, Nat.add_sub_cancel_left, ih, Option.map_some]

/-- Whether every character is ASCII. -/
def isAscii (text : Text) : Bool := text.all (·.toNat < 0x80)

end Text

end RuleGateway
