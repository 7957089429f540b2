import RuleGateway.Rule.Basic

/-!
# Rule documents

A rule document is a JSON object with a tree of slots. A key of the tree that
starts with a slash is a base path and its value declares rules; every other
key names a group, whose object is part of the tree. Flattening walks the tree
depth first in document order and gathers the rules of each base path.
-/

namespace RuleGateway

namespace Declared

/-- The declaration that a value is: a text or an object. -/
def ofValue? : Json.Value → Option Declared
  | .text text => some (.target text)
  | .object members => some (.fields members)
  | _ => none

/-- The declarations that a slot holds: one, or a list. Values that are no
declaration are passed over. -/
def listOfValue : Json.Value → List Declared
  | .list items => items.filterMap ofValue?
  | value => (ofValue? value).toList

end Declared

/-- Base paths with the rules declared for them, in order of first appearance. -/
abbrev Slots := Table (List Declared)

namespace Slots

/-- The slots with rules added to those of a key. A key appears when it gets
its first rule. -/
def push (slots : Slots) (key : Text) (rules : List Declared) : Slots :=
  if rules.isEmpty then slots else add slots
where
  /-- The rules behind those of the key, or behind all keys. -/
  add : Slots → Slots
    | [] => [(key, rules)]
    | (k, old) :: rest => if k = key then (k, old ++ rules) :: rest else (k, old) :: add rest

/-- Each slot of the tree with the rules that its value declares, depth first
in document order. -/
def stream : Json.Members → Slots
  | [] => []
  | (key, value) :: rest =>
    (if key.head? = some '/' then [(key, Declared.listOfValue value)]
    else
      match value with
      | .object group => stream group
      | _ => []) ++ stream rest

/-- The flattened slot tree. -/
def ofTree (tree : Json.Members) : Slots :=
  (stream tree).foldl (fun slots entry => slots.push entry.1 entry.2) []

end Slots

/-- A rule document: the members of its object. Only the slot tree is read. -/
structure RuleDocument where
  members : Json.Members

namespace RuleDocument

/-- The document that a text is. -/
def parse (text : Text) : Except Json.Fault RuleDocument := do
  pure { members := ← Json.parseObject text }

/-- The keys that may hold the slot tree. -/
def treeKeys : List Text := ["Slots", "slots", "SLOT"]

/-- The slot tree: the first of the keys whose value is an object. -/
def tree? (document : RuleDocument) : Option Json.Members :=
  treeKeys.findSome? fun key => (document.members.get? key).bind Json.Value.members?

end RuleDocument

end RuleGateway
