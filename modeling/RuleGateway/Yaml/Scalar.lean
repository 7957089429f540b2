import RuleGateway.Yaml.Cursor

/-!
# YAML scalars

Plain and quoted scalars may go on over several lines. Blanks around a line
break disappear; one break reads as a space and more as one break fewer than
there are, except that a separator of Unicode is never folded. `Gap` is what
stands between two words of a scalar, and its text.
-/

namespace RuleGateway.Yaml

/-- What was passed since the last word of a scalar, last character first:
blanks in a line, a line break and those after it, or the line breaks after an
escaped one. -/
inductive Gap where
  | blanks (reversed : Text)
  | folded (first : Char) (reversed : Text)
  | joined (reversed : Text)

namespace Gap

/-- No gap. -/
def none : Gap := .blanks []

/-- The gap after one more blank. Blanks behind a line break are dropped. -/
def blank (gap : Gap) (c : Char) : Gap :=
  match gap with
  | blanks reversed => .blanks (c :: reversed)
  | gap => gap

/-- The gap after one more line break. Blanks before it are dropped. -/
def lineBreak (gap : Gap) (c : Char) : Gap :=
  match gap with
  | blanks _ => .folded c []
  | folded first reversed => .folded first (c :: reversed)
  | joined reversed => .joined (c :: reversed)

/-- Whether there is a line break in the gap. -/
def breaks : Gap → Bool
  | blanks _ => false
  | _ => true

/-- Whether there is nothing in the gap. -/
def isNone : Gap → Bool
  | blanks [] => true
  | _ => false

/-- What the gap reads as, last character first. -/
def reversedText : Gap → Text
  | blanks reversed => reversed
  | folded '\n' [] => [' ']
  | folded '\n' reversed => reversed
  | folded first reversed => reversed ++ [first]
  | joined reversed => reversed

end Gap

namespace Scalar

/-- The characters that brackets are made of. -/
def isBracketing (c : Char) : Bool := [',', '[', ']', '\x7b', '\x7d'].contains c

/-- The characters that no plain scalar starts with. -/
def isIndicator (c : Char) : Bool :=
  isBracketing c || ['#', '&', '*', '!', '|', '>', '\'', '"', '%', '@', '\x60'].contains c

/-- Whether a plain scalar ends before the text. -/
def endsPlain (inBrackets : Bool) : Text → Bool
  | [] => true
  | c :: rest => (c == ':' && atGap rest) || (inBrackets && isBracketing c)

/-- Whether the text starts with a colon that may not stand in a plain scalar
inside brackets. -/
def isLostColon : Text → Bool
  | ':' :: d :: _ => isBracketing d || d == '?'
  | _ => false

/-- What is left to read of a plain scalar: the words so far, last character
first, and the gap behind them. Outside brackets it ends where a line starts
left of the column `floor`, and nowhere may a tab stand left of it. With the
scalar comes whether a line break was passed behind it. -/
def plainFrom (inBrackets : Bool) (floor : Nat) :
    Text → Gap → Place → Text → Option (Text × Bool × Cursor)
  | word, gap, place, [] => some (word.reverse, gap.breaks, ⟨place, []⟩)
  | word, gap, place, c :: rest =>
    let here : Cursor := ⟨place, c :: rest⟩
    let outdented : Bool := gap.breaks && place.column < floor
    if isBreak c then plainFrom inBrackets floor word (gap.lineBreak c) (place.next c) rest
    else if isBlank c then
      if c = '\t' ∧ outdented then none
      else plainFrom inBrackets floor word (gap.blank c) (place.next c) rest
    else if (outdented ∧ !inBrackets) ∨ (gap.breaks ∧ here.atAnyMarker) ∨
        (c = '#' ∧ !gap.isNone) then
      some (word.reverse, gap.breaks, here)
    else if inBrackets ∧ isLostColon (c :: rest) then none
    else if endsPlain inBrackets (c :: rest) then some (word.reverse, gap.breaks, here)
    else
      plainFrom inBrackets floor (c :: (gap.reversedText ++ word)) .none (place.next c) rest

/-- The plain scalar that starts here, whether a line break was passed behind
it, and the place of what follows. -/
def plain? (inBrackets : Bool) (floor : Nat) (cursor : Cursor) : Option (Text × Bool × Cursor) :=
  plainFrom inBrackets floor [] .none cursor.place cursor.rest

/-- The character of an escape of one letter. -/
def escape? : Char → Option Char
  | '0' => some '\x00'
  | 'a' => some '\x07'
  | 'b' => some '\x08'
  | 't' => some '\t'
  | '\t' => some '\t'
  | 'n' => some '\n'
  | 'v' => some '\x0b'
  | 'f' => some '\x0c'
  | 'r' => some '\r'
  | 'e' => some '\x1b'
  | ' ' => some ' '
  | '"' => some '"'
  | '/' => some '/'
  | '\\' => some '\\'
  | 'N' => some '\u0085'
  | '_' => some '\u00a0'
  | 'L' => some '\u2028'
  | 'P' => some '\u2029'
  | _ => none

/-- How many hexadecimal digits follow the letter of an escape. -/
def escapeDigits? : Char → Option Nat
  | 'x' => some 2
  | 'u' => some 4
  | 'U' => some 8
  | _ => none

/-- The character with a code, unless the code is a surrogate or too great. -/
def charOf? (code : Nat) : Option Char :=
  if 0xD800 ≤ code ∧ code ≤ 0xDFFF ∨ 0x10FFFF < code then none else some (Char.ofNat code)

/-- The character of an escape behind its backslash, and how many characters the
escape has there. -/
def escapeAt? : Text → Option (Char × Nat)
  | [] => none
  | c :: rest =>
    match escapeDigits? c with
    | some n => do
      let digits := rest.take n
      if digits.length < n then none
      else some (← charOf? (← Text.number? 16 Text.hexDigit? digits), n + 1)
    | none => (escape? c).map (·, 1)

/-- What is left to read of a quoted scalar. The first argument tells how many
characters are still part of an escape that was read already. -/
def quotedFrom (quote : Char) : Nat → Text → Gap → Place → Text → Option (Text × Cursor)
  | _, _, _, _, [] => none
  | skipped + 1, word, gap, place, c :: rest =>
    quotedFrom quote skipped word gap (place.next c) rest
  | 0, word, gap, place, c :: rest =>
    let next := place.next c
    if gap.breaks ∧ Cursor.atAnyMarker ⟨place, c :: rest⟩ then none
    else if isBreak c then quotedFrom quote 0 word (gap.lineBreak c) next rest
    else if isBlank c then quotedFrom quote 0 word (gap.blank c) next rest
    else
      let word := gap.reversedText ++ word
      if c = quote then
        if quote = '\'' ∧ rest.head? = some quote then
          quotedFrom quote 1 (quote :: word) .none next rest
        else some (word.reverse, ⟨next, rest⟩)
      else if c = '\\' ∧ quote = '"' then
        if rest.head?.any isBreak then quotedFrom quote 1 word (.joined []) next rest
        else
          match escapeAt? rest with
          | some (d, n) => quotedFrom quote n (d :: word) .none next rest
          | none => none
      else quotedFrom quote 0 (c :: word) .none next rest

/-- The quoted scalar that starts here, and the place behind it. -/
def quoted? (cursor : Cursor) : Option (Text × Cursor) :=
  match cursor.rest with
  | quote :: rest => quotedFrom quote 0 [] .none (cursor.place.next quote) rest
  | [] => none

end Scalar

end RuleGateway.Yaml
