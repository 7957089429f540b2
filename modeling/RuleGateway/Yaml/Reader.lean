import RuleGateway.Yaml.Node
import RuleGateway.Yaml.Token

/-!
# Reading YAML

A document is read from the tokens of its text by recursive descent. What is
left out, the value of a key, the item of a dash, is the empty node, and every
place where something may be left out knows the tokens that show it. The first
argument of each function bounds the nesting and the number of entries, for which
the number of tokens is always enough.
-/

namespace RuleGateway.Yaml

/-- What was read, and the tokens behind it. -/
abbrev Found (α : Type) := α × List Token

/-- The part that one of the given tokens shows to be left out. -/
def orEmpty (absent : List Token) (node : List Token → Option (Found Node)) (tokens : List Token) :
    Option (Found Node) :=
  match tokens with
  | token :: _ => if absent.contains token then some (.empty, tokens) else node tokens
  | [] => node tokens

/-- The tokens behind a colon, if one is there. -/
def behindColon? : List Token → Option (List Token)
  | .colon :: tokens => some tokens
  | _ => none

/-- The tokens of the next item or entry inside brackets: there is a comma before
all but the first one. -/
def behindComma? (first : Bool) : List Token → Option (List Token)
  | .comma :: tokens => if first then some (.comma :: tokens) else some tokens
  | tokens => if first then some tokens else none

/-- The tokens that show that an item of a list in brackets has no key or no
value. -/
def absentInList : List Token := [.comma, .closeList]

/-- The tokens that show that an entry of a mapping in brackets has no key or no
value. -/
def absentInMapping : List Token := [.comma, .closeMapping]

/-- The tokens that show that an entry of a block has no key or no value. -/
def absentInEntries : List Token := [.key, .colon, .endBlock]

mutual

/-- A node. Blocks may stand outside brackets only, and dashes in the column of
their key only behind that key. -/
def node (blocks dashes : Bool) : Nat → List Token → Option (Found Node)
  | 0, _ => none
  | fuel + 1, tokens =>
    match tokens with
    | .plain text :: rest => some (.plain text, rest)
    | .quoted text :: rest => some (.quoted text, rest)
    | .openList :: rest => (listItems true fuel rest).map fun (items, rest) => (.list items, rest)
    | .openMapping :: rest =>
      (mappingEntries true fuel rest).map fun (entries, rest) => (.mapping entries, rest)
    | .startItems :: rest =>
      if blocks then (blockItems fuel rest).map fun (items, rest) => (.list items, rest) else none
    | .startEntries :: rest =>
      if blocks then (blockEntries fuel rest).map fun (entries, rest) => (.mapping entries, rest)
      else none
    | .dash :: _ =>
      if dashes then (bareItems fuel tokens).map fun (items, rest) => (.list items, rest) else none
    | _ => none

/-- The items of a list up to its closing bracket. -/
def listItems (first : Bool) : Nat → List Token → Option (Found (List Node))
  | 0, _ => none
  | fuel + 1, tokens =>
    match tokens with
    | .closeList :: rest => some ([], rest)
    | _ => do
      let tokens ← behindComma? first tokens
      match tokens with
      | .closeList :: rest => return ([], rest)
      | .key :: rest =>
        let (item, rest) ← listEntry fuel rest
        let (items, rest) ← listItems false fuel rest
        return (item :: items, rest)
      | _ =>
        let (item, rest) ← node false false fuel tokens
        let (items, rest) ← listItems false fuel rest
        return (item :: items, rest)

/-- An item of a list that is one key with its value. A key that is left out
takes the token that shows it with it. -/
def listEntry : Nat → List Token → Option (Found Node)
  | 0, _ => none
  | fuel + 1, tokens => do
    let (key, rest) ←
      match tokens with
      | .colon :: rest | .comma :: rest | .closeList :: rest => some (.empty, rest)
      | _ => node false false fuel tokens
    let (value, rest) ←
      match behindColon? rest with
      | some rest => orEmpty absentInList (node false false fuel) rest
      | none => some (.empty, rest)
    return (.mapping [(key, value)], rest)

/-- The entries of a mapping up to its closing bracket. A node that is not marked
as a key is one without a value. -/
def mappingEntries (first : Bool) : Nat → List Token → Option (Found (List (Node × Node)))
  | 0, _ => none
  | fuel + 1, tokens =>
    match tokens with
    | .closeMapping :: rest => some ([], rest)
    | _ => do
      let tokens ← behindComma? first tokens
      match tokens with
      | .closeMapping :: rest => return ([], rest)
      | .key :: rest =>
        let (key, rest) ← orEmpty (.colon :: absentInMapping) (node false false fuel) rest
        let (value, rest) ←
          match behindColon? rest with
          | some rest => orEmpty absentInMapping (node false false fuel) rest
          | none => some (.empty, rest)
        let (entries, rest) ← mappingEntries false fuel rest
        return ((key, value) :: entries, rest)
      | _ =>
        let (key, rest) ← node false false fuel tokens
        let (entries, rest) ← mappingEntries false fuel rest
        return ((key, .empty) :: entries, rest)

/-- The items of a block of dashes. -/
def blockItems : Nat → List Token → Option (Found (List Node))
  | 0, _ => none
  | fuel + 1, tokens =>
    match tokens with
    | .dash :: rest => do
      let (item, rest) ← orEmpty [.dash, .endBlock] (node true false fuel) rest
      let (items, rest) ← blockItems fuel rest
      return (item :: items, rest)
    | .endBlock :: rest => some ([], rest)
    | _ => none

/-- The items of dashes in the column of their key, which end with the last
dash. -/
def bareItems : Nat → List Token → Option (Found (List Node))
  | 0, _ => none
  | fuel + 1, tokens =>
    match tokens with
    | .dash :: rest => do
      let (item, rest) ← orEmpty (.dash :: absentInEntries) (node true false fuel) rest
      let (items, rest) ← bareItems fuel rest
      return (item :: items, rest)
    | _ => some ([], tokens)

/-- The entries of a block of keys. -/
def blockEntries : Nat → List Token → Option (Found (List (Node × Node)))
  | 0, _ => none
  | fuel + 1, tokens =>
    match tokens with
    | .key :: rest => do
      let (key, rest) ← orEmpty absentInEntries (node true true fuel) rest
      let (value, rest) ←
        match behindColon? rest with
        | some rest => orEmpty absentInEntries (node true true fuel) rest
        | none => some (.empty, rest)
      let (entries, rest) ← blockEntries fuel rest
      return ((key, value) :: entries, rest)
    | .endBlock :: rest => some ([], rest)
    | _ => none

end

/-- The only document of a list of tokens. No tokens are the empty node, and so
is a document without content behind its marker. -/
def document? (tokens : List Token) : Option Node := do
  let read := node true false (4 * tokens.length + 4)
  let (found, rest) ←
    match tokens with
    | [] => some (.empty, [])
    | [.documentStart] => some (.empty, [])
    | .documentStart :: rest => orEmpty [.documentStart, .documentEnd] read rest
    | _ => read tokens
  if rest.all (· == .documentEnd) then some found else none

/-- The characters that may stand in a text. -/
def isPrintable (c : Char) : Bool :=
  let n := c.toNat
  n == 0x09 || n == 0x0A || n == 0x0D || (0x20 ≤ n && n ≤ 0x7E) || n == 0x85 ||
    (0xA0 ≤ n && n ≤ 0xFFFD) || 0x10000 ≤ n

/-- The text with a line feed for every other way to end a line, the separators
of Unicode apart. -/
def normalizeBreaks : Text → Text
  | [] => []
  | '\r' :: '\n' :: rest => '\n' :: normalizeBreaks rest
  | c :: rest => (if c = '\r' ∨ c = '\u0085' then '\n' else c) :: normalizeBreaks rest

/-- The only document of a text. -/
def parse? (text : Text) : Option Node :=
  if text.all isPrintable then (Token.ofText? (normalizeBreaks text)).bind document? else none

end RuleGateway.Yaml
