import RuleGateway.Rule.Slots

/-!
# Slots with an index

Every rule list of a tree is put behind the rules that its key has already. The
place of the slot of a key is kept in an index, so that the slot is not searched
for. An index is worth something only as long as it is in step with the slots:
it is changed when a slot is added and at no other time.
-/

namespace RuleGateway

/-- Slots in order of first appearance and the place of each key among them. -/
structure IndexedSlots where
  slots : Slots
  places : Table Nat

namespace IndexedSlots

/-- No slots. -/
def empty : IndexedSlots := { slots := [], places := [] }

/-- Rules added to the slot at the place of their key, or as a slot of their own
behind all others. Nothing is added for a key without rules. -/
def push (indexed : IndexedSlots) (key : Text) (rules : List Declared) : IndexedSlots :=
  if rules.isEmpty then indexed
  else
    match indexed.places.get? key with
    | some place =>
      { indexed with slots := indexed.slots.modify place fun (k, old) => (k, old ++ rules) }
    | none =>
      { slots := indexed.slots ++ [(key, rules)]
        places := indexed.places.set key indexed.slots.length }

/-- The rules at the place of a key. -/
def get? (indexed : IndexedSlots) (key : Text) : Option (List Declared) :=
  (indexed.places.get? key).bind fun place => indexed.slots[place]?.map (·.2)

/-- The slots of a tree added to others, depth first in document order. -/
def addTree : Json.Members → IndexedSlots → IndexedSlots
  | [], indexed => indexed
  | (key, value) :: rest, indexed =>
    if key.head? = some '/' then addTree rest (indexed.push key (Declared.listOfValue value))
    else
      match value with
      | .object group => addTree rest (addTree group indexed)
      | _ => addTree rest indexed

/-- The flattened slot tree with its index. -/
def ofTree (tree : Json.Members) : IndexedSlots := addTree tree empty

end IndexedSlots

end RuleGateway
