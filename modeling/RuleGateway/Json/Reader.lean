import RuleGateway.Json.Token

/-!
# Reading JSON

A document is read token by token with a stack of the lists and objects that
are open. The stack holds at most 127 of them. A fault is reported where it is
met first; a text that ends while something is open, or before there is a
value, is unfinished.
-/

namespace RuleGateway.Json

/-- A list or an object that is open, with what it holds so far, last item
first for a list. -/
inductive Frame where
  | list (items : List Value)
  | object (members : Members)
  | member (members : Members) (key : Text)

/-- What the reader waits for. -/
inductive Awaiting where
  | value
  | itemOrEnd
  | keyOrEnd
  | key
  | colon
  | separator
  deriving DecidableEq

/-- The reader between tokens: the open frames, what is awaited, and the value
once the outermost one is complete. -/
structure Reader where
  frames : List Frame := []
  awaiting : Awaiting := .value
  done : Option Value := none

namespace Reader

/-- How many lists and objects may be open. -/
def depthLimit : Nat := 127

/-- The reader after a complete value. -/
def take (reader : Reader) (value : Value) : Reader :=
  match reader.frames with
  | [] => { reader with done := some value }
  | .list items :: frames =>
    { reader with frames := .list (value :: items) :: frames, awaiting := .separator }
  | .member members key :: frames =>
    { reader with frames := .object (members.set key value) :: frames, awaiting := .separator }
  | .object _ :: _ => reader

/-- The reader inside a new list or object. -/
def enter (reader : Reader) (frame : Frame) (awaiting : Awaiting) : Except Fault Reader :=
  if reader.frames.length < depthLimit then
    .ok { reader with frames := frame :: reader.frames, awaiting }
  else .error .malformed

/-- The reader after the innermost list is closed. -/
def closeList (reader : Reader) : Except Fault Reader :=
  match reader.frames with
  | .list items :: frames => .ok (take { reader with frames } (.list items.reverse))
  | _ => .error .malformed

/-- The reader after the innermost object is closed. -/
def closeObject (reader : Reader) : Except Fault Reader :=
  match reader.frames with
  | .object members :: frames => .ok (take { reader with frames } (.object members))
  | _ => .error .malformed

/-- A token where a value may start. -/
def startValue (reader : Reader) : Token → Except Fault Reader
  | .openObject => reader.enter (.object []) .keyOrEnd
  | .openList => reader.enter (.list []) .itemOrEnd
  | .text value => do pure (reader.take (.text (← value)))
  | .scalar value => do pure (reader.take (← value))
  | _ => .error .malformed

/-- A token where the key of a member must stand. -/
def startMember (reader : Reader) : Token → Except Fault Reader
  | .text key => do
    match reader.frames with
    | .object members :: frames =>
      pure { reader with frames := .member members (← key) :: frames, awaiting := .colon }
    | _ => throw .malformed
  | _ => .error .malformed

/-- One token. -/
def step (reader : Reader) (token : Token) : Except Fault Reader :=
  if reader.done.isSome then .error .malformed
  else
    match reader.awaiting, token with
    | .value, token => reader.startValue token
    | .itemOrEnd, .closeList => reader.closeList
    | .itemOrEnd, token => reader.startValue token
    | .keyOrEnd, .closeObject => reader.closeObject
    | .keyOrEnd, token => reader.startMember token
    | .key, token => reader.startMember token
    | .colon, .colon => .ok { reader with awaiting := .value }
    | .separator, .closeList => reader.closeList
    | .separator, .closeObject => reader.closeObject
    | .separator, .comma =>
      match reader.frames with
      | .list _ :: _ => .ok { reader with awaiting := .value }
      | _ => .ok { reader with awaiting := .key }
    | _, _ => .error .malformed

/-- The value that the tokens make up. -/
def run (reader : Reader) : List Token → Except Fault Value
  | [] =>
    match reader.done with
    | some value => .ok value
    | none => .error .unfinished
  | token :: tokens => do (← reader.step token).run tokens

end Reader

/-- The value that a text is. -/
def parse (text : Text) : Except Fault Value := Reader.run {} (Token.ofText text)

/-- The object that a text is. A text that starts as another value has the
wrong shape, whatever comes after that value. -/
def parseObject (text : Text) : Except Fault Members :=
  let tokens := Token.ofText text
  match tokens with
  | .openList :: _ => .error .shape
  | .text (.ok _) :: _ => .error .shape
  | .scalar (.ok _) :: _ => .error .shape
  | _ =>
    match Reader.run {} tokens with
    | .ok (.object members) => .ok members
    | .ok _ => .error .shape
    | .error fault => .error fault

end RuleGateway.Json
