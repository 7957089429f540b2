import RuleGateway.Yaml.Scalar

/-!
# YAML tokens

A text is a list of tokens: the marks that are written, the scalars, and the
starts and ends of blocks, which only columns show. Outside brackets a block
starts with the first dash or key in a column to the right of the block around
it, and ends where the text goes on to the left of it.

Whether something is a key is known only at the colon behind it. The reader
therefore remembers, for every level of brackets, where a key may have started,
and puts the mark of a key there when its colon comes. A key ends in the line it
starts in and within 1024 bytes.
-/

namespace RuleGateway.Yaml

/-- A token. -/
inductive Token where
  | documentStart
  | documentEnd
  | startItems
  | startEntries
  | endBlock
  | openList
  | closeList
  | openMapping
  | closeMapping
  | comma
  | dash
  | key
  | colon
  | plain (text : Text)
  | quoted (text : Text)
  deriving DecidableEq, Repr

/-- Where a key may have started: its place, how many tokens are before it, and
whether nothing but a key may stand there. -/
structure KeyStart where
  place : Place
  number : Nat
  required : Bool

/-- How many bytes a key may have. -/
def maxKey : Nat := 1024

/-- Whether what started there can no longer be a key at a later place. -/
def KeyStart.isStale (start : KeyStart) (place : Place) : Bool :=
  start.place.line < place.line || start.place.byte + maxKey < place.byte

/-- The reader between tokens: the tokens so far, last one first, and their
number; the columns of the open blocks and the starts of keys in each level of
brackets, innermost first; and whether a key may start here. -/
structure Lexer where
  cursor : Cursor
  tokens : List Token := []
  count : Nat := 0
  columns : List Nat := []
  keys : List (Option KeyStart) := [none]
  keyAllowed : Bool := true

namespace Lexer

/-- Whether some bracket is open. -/
def inBrackets (lexer : Lexer) : Bool := 1 < lexer.keys.length

/-- The first column to the right of the innermost block. -/
def floor (lexer : Lexer) : Nat := (lexer.columns.head?.map (· + 1)).getD 0

/-- The column of the next character. -/
def column (lexer : Lexer) : Nat := lexer.cursor.place.column

/-- One more token behind the given number of tokens. -/
def insert (lexer : Lexer) (number : Nat) (token : Token) : Lexer :=
  let later := lexer.count - number
  { lexer with
    tokens := lexer.tokens.take later ++ token :: lexer.tokens.drop later,
    count := lexer.count + 1 }

/-- One more token. -/
def emit (lexer : Lexer) (token : Token) : Lexer := lexer.insert lexer.count token

/-- One more token of the given number of characters, after which a key may
start or not. -/
def emitMark (lexer : Lexer) (token : Token) (length : Nat) (keyAllowed : Bool) : Lexer :=
  { lexer.emit token with cursor := lexer.cursor.advance length, keyAllowed }

section Gaps

/-- The place of the next character that is neither blank nor part of a comment,
and whether a key may start there: behind a line break it may, outside brackets.
Where a key may start a tab is no blank. A byte order mark may start a line. -/
def skipFrom (inBrackets : Bool) : Bool → Bool → Place → Text → Cursor × Bool
  | _, keyAllowed, place, [] => (⟨place, []⟩, keyAllowed)
  | comment, keyAllowed, place, c :: rest =>
    if isBreak c then
      skipFrom inBrackets false (keyAllowed || !inBrackets) (place.next c) rest
    else if comment ∨ (c = '\ufeff' ∧ place.column = 0) ∨ c = ' ' ∨
        (c = '\t' ∧ (inBrackets ∨ !keyAllowed)) then
      skipFrom inBrackets comment keyAllowed (place.next c) rest
    else if c = '#' then skipFrom inBrackets true keyAllowed (place.next c) rest
    else (⟨place, c :: rest⟩, keyAllowed)

/-- The reader at the next content. -/
def skip (lexer : Lexer) : Lexer :=
  let (cursor, keyAllowed) :=
    skipFrom lexer.inBrackets false lexer.keyAllowed lexer.cursor.place lexer.cursor.rest
  { lexer with cursor, keyAllowed }

end Gaps

section BlocksAndKeys

/-- The reader with a block that starts in a column, unless one is open there.
Inside brackets there are no blocks. -/
def openBlock (lexer : Lexer) (column number : Nat) (token : Token) : Lexer :=
  if !lexer.inBrackets && lexer.floor ≤ column then
    { lexer.insert number token with columns := column :: lexer.columns }
  else lexer

/-- The reader with the blocks ended that are to the right of a column. -/
def closeBlocks (lexer : Lexer) (isRight : Nat → Bool) : Lexer :=
  if lexer.inBrackets then lexer
  else
    let closed := (lexer.columns.takeWhile isRight).length
    { lexer with
      tokens := List.replicate closed .endBlock ++ lexer.tokens,
      count := lexer.count + closed, columns := lexer.columns.drop closed }

/-- The reader without the start of a key in the innermost brackets. It fails if
there has to be a key. -/
def dropKey? (lexer : Lexer) : Option Lexer :=
  match lexer.keys with
  | some start :: keys => if start.required then none else some { lexer with keys := none :: keys }
  | _ => some lexer

/-- The reader with a key that may start here. A key has to start in the column
of its block. -/
def noteKey? (lexer : Lexer) : Option Lexer :=
  if !lexer.keyAllowed then some lexer
  else do
    let lexer ← lexer.dropKey?
    let required := !lexer.inBrackets && lexer.columns.head? == some lexer.column
    let start : KeyStart := { place := lexer.cursor.place, number := lexer.count, required }
    return { lexer with keys := some start :: lexer.keys.drop 1 }

/-- The reader without the starts of keys that can no longer be keys. It fails
if one of them has to be. -/
def dropStale? (lexer : Lexer) : Option Lexer := do
  let keys ← lexer.keys.mapM fun key =>
    match key with
    | some start =>
      if start.isStale lexer.cursor.place then if start.required then none else some none
      else some (some start)
    | none => some none
  return { lexer with keys }

end BlocksAndKeys

section Marks

/-- A marker of a document. -/
def marker? (lexer : Lexer) (token : Token) : Option Lexer := do
  let lexer ← (lexer.closeBlocks fun _ => true).dropKey?
  return lexer.emitMark token 3 false

/-- An opening bracket. A key may start with one. -/
def opening? (lexer : Lexer) (token : Token) : Option Lexer := do
  let lexer ← lexer.noteKey?
  return { lexer with keys := none :: lexer.keys }.emitMark token 1 true

/-- A closing bracket. -/
def closing? (lexer : Lexer) (token : Token) : Option Lexer := do
  let lexer ← lexer.dropKey?
  let keys := if lexer.inBrackets then lexer.keys.drop 1 else lexer.keys
  return { lexer with keys }.emitMark token 1 false

/-- A comma. -/
def comma? (lexer : Lexer) : Option Lexer := do
  return (← lexer.dropKey?).emitMark .comma 1 true

/-- Whether a mark may start a block here. -/
def mayStart (lexer : Lexer) : Bool := lexer.inBrackets || lexer.keyAllowed

/-- A dash. -/
def dash? (lexer : Lexer) : Option Lexer := do
  if !lexer.mayStart then none
  let lexer ← (lexer.openBlock lexer.column lexer.count .startItems).dropKey?
  return lexer.emitMark .dash 1 true

/-- A question mark before a key. -/
def question? (lexer : Lexer) : Option Lexer := do
  if !lexer.mayStart then none
  let lexer ← (lexer.openBlock lexer.column lexer.count .startEntries).dropKey?
  return lexer.emitMark .key 1 (!lexer.inBrackets)

/-- A colon: behind a key it makes it one, elsewhere the key is what a question
mark stands before. -/
def colon? (lexer : Lexer) : Option Lexer :=
  match lexer.keys with
  | some start :: keys =>
    let lexer := { lexer with keys := none :: keys }.insert start.number .key
    some ((lexer.openBlock start.place.column start.number .startEntries).emitMark .colon 1 false)
  | _ =>
    if !lexer.mayStart then none
    else
      let lexer := lexer.openBlock lexer.column lexer.count .startEntries
      some (lexer.emitMark .colon 1 (!lexer.inBrackets))

end Marks

/-- A scalar, plain or quoted. A key may start with it, and none may follow it
in its line. -/
def scalar? (lexer : Lexer) (c : Char) : Option Lexer := do
  let lexer ← lexer.noteKey?
  if c = '\'' ∨ c = '"' then
    let (text, cursor) ← Scalar.quoted? lexer.cursor
    return { lexer.emit (.quoted text) with cursor, keyAllowed := false }
  else if isBlank c || Scalar.isIndicator c then none
  else
    let (text, broken, cursor) ← Scalar.plain? lexer.inBrackets lexer.floor lexer.cursor
    return { lexer.emit (.plain text) with cursor, keyAllowed := broken }

/-- The next token, which starts with the given character. -/
def next? (lexer : Lexer) (c : Char) (rest : Text) : Option Lexer :=
  if lexer.cursor.atMarker Cursor.startMarker then lexer.marker? .documentStart
  else if lexer.cursor.atMarker Cursor.endMarker then lexer.marker? .documentEnd
  else
    let apart : Bool := lexer.inBrackets || atGap rest
    match c with
    | '[' => lexer.opening? .openList
    | ']' => lexer.closing? .closeList
    | '\x7b' => lexer.opening? .openMapping
    | '\x7d' => lexer.closing? .closeMapping
    | ',' => lexer.comma?
    | '-' => if atGap rest then lexer.dash? else lexer.scalar? c
    | '?' => if apart then lexer.question? else lexer.scalar? c
    | ':' => if apart then lexer.colon? else lexer.scalar? c
    | _ => lexer.scalar? c

/-- All tokens of a text. The first argument bounds how many are read one by
one. -/
def run? : Nat → Lexer → Option (List Token)
  | 0, _ => none
  | fuel + 1, lexer => do
    let lexer ← lexer.skip.dropStale?
    let lexer := lexer.closeBlocks (lexer.column < ·)
    match lexer.cursor.rest with
    | [] => return (← (lexer.closeBlocks fun _ => true).dropKey?).tokens.reverse
    | c :: rest => run? fuel (← lexer.next? c rest)

end Lexer

/-- The tokens of a text whose lines end in one way. Every token but those that
columns show takes a character. -/
def Token.ofText? (text : Text) : Option (List Token) :=
  Lexer.run? (text.length + 1) { cursor := { rest := text } }

end RuleGateway.Yaml
