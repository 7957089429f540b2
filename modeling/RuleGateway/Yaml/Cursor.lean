import RuleGateway.Text.Basic

/-!
# A place in a YAML text

Indentation carries structure in YAML, and a key may be no longer than a certain
number of bytes, so a reader knows the line, the column and the byte it is at.
A line ends at a line feed or at one of two separators of Unicode; other ways of
ending a line are written as line feeds before a text is read.
-/

namespace RuleGateway.Yaml

/-- Whether a character separates: a space or a tab. -/
def isBlank (c : Char) : Bool := c == ' ' || c == '\t'

/-- Whether a character ends a line. -/
def isBreak (c : Char) : Bool := c == '\n' || c == '\u2028' || c == '\u2029'

/-- Whether the text ends here or goes on with a blank or a line break. -/
def atGap : Text → Bool
  | [] => true
  | c :: _ => isBlank c || isBreak c

/-- A place in a text. -/
structure Place where
  byte : Nat := 0
  line : Nat := 0
  column : Nat := 0
  deriving DecidableEq, Repr

/-- The place after a character. -/
def Place.next (place : Place) (c : Char) : Place :=
  let byte := place.byte + Text.utf8Size c
  if isBreak c then { byte, line := place.line + 1, column := 0 }
  else { place with byte, column := place.column + 1 }

/-- A place with what is left of the text. -/
structure Cursor where
  place : Place := {}
  rest : Text

namespace Cursor

/-- The place some characters on. -/
def advance : Nat → Cursor → Cursor
  | n + 1, ⟨place, c :: rest⟩ => advance n ⟨place.next c, rest⟩
  | _, cursor => cursor

/-- The marker before a document. -/
def startMarker : Text := ['-', '-', '-']

/-- The marker after a document. -/
def endMarker : Text := ['.', '.', '.']

/-- Whether a marker of three characters stands here at the start of a line. -/
def atMarker (cursor : Cursor) (marker : Text) : Bool :=
  cursor.place.column == 0 && Text.startsWith cursor.rest marker && atGap (cursor.rest.drop 3)

/-- Whether a marker of a document stands here. -/
def atAnyMarker (cursor : Cursor) : Bool :=
  cursor.atMarker startMarker || cursor.atMarker endMarker

end Cursor

end RuleGateway.Yaml
