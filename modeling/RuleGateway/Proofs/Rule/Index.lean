import RuleGateway.Proofs.Rule.Flattening
import RuleGateway.Proofs.Table
import RuleGateway.Rule.Index

/-!
# The index stays in step

`IsIndexed` says when an index belongs to its slots: it has a place for a key exactly
if the slot of the key stands there. No slots have that index, and adding rules keeps
it, so every flattened tree has it. From it follows that the walk with the index
gathers the same slots as the search through all of them, and that looking a key up
through the index finds the slot that it has in the list.
-/

namespace RuleGateway

namespace Slots

/-- Rules for a key that has a slot go behind those that stand in it. -/
theorem add_of_getElem? {slots : Slots} {key : Text} {place : Nat} (rules : List Declared)
    (hkeys : (slots.map (·.1)).Nodup) (hplace : (slots.map (·.1))[place]? = some key) :
    push.add key rules slots = slots.modify place fun slot => (slot.1, slot.2 ++ rules) := by
  induction slots generalizing place with
  | nil => cases hplace
  | cons slot slots ih =>
    obtain ⟨k, old⟩ := slot
    rw [List.map_cons, List.nodup_cons] at hkeys
    cases place with
    | zero =>
      obtain rfl : k = key := Option.some.inj hplace
      rw [push.add, if_pos rfl]
      rfl
    | succ place =>
      have hlater : (slots.map (·.1))[place]? = some key := hplace
      have hne : k ≠ key := by
        rintro rfl
        exact hkeys.1 (List.mem_of_getElem? hlater)
      rw [push.add, if_neg hne, ih hkeys.2 hlater, List.modify_succ_cons]

end Slots

namespace IndexedSlots

variable {indexed : IndexedSlots} {key : Text} {rules : List Declared} {place : Nat}

/-- The keys that have a slot, in order of first appearance. -/
def keys (indexed : IndexedSlots) : List Text := indexed.slots.map (·.1)

/-- The index has a place for a key exactly if the slot of the key stands there. -/
def IsIndexed (indexed : IndexedSlots) : Prop :=
  ∀ key place, indexed.places.get? key = some place ↔ indexed.keys[place]? = some key

theorem isIndexed_empty : empty.IsIndexed := by
  intro key place
  exact ⟨fun h => (by cases h), fun h => (by cases h)⟩

theorem IsIndexed.nodup_keys (h : indexed.IsIndexed) : indexed.keys.Nodup := by
  rw [List.nodup_iff_pairwise_ne, List.pairwise_iff_getElem]
  intro i j hi hj hij hsame
  have hfirst := (h _ i).2 (List.getElem?_eq_getElem hi)
  have hlast := (h _ j).2 (List.getElem?_eq_getElem hj)
  rw [hsame, hlast, Option.some.injEq] at hfirst
  omega

theorem IsIndexed.not_mem_keys (h : indexed.IsIndexed) (hnone : indexed.places.get? key = none) :
    key ∉ indexed.keys := by
  intro hmem
  obtain ⟨place, hplace⟩ := List.mem_iff_getElem?.1 hmem
  rw [(h key place).2 hplace] at hnone
  cases hnone

theorem getElem?_concat_eq_some_iff {keys : List Text} {key other : Text} {i : Nat} :
    (keys ++ [key])[i]? = some other ↔ keys[i]? = some other ∨ i = keys.length ∧ key = other := by
  rw [List.getElem?_append]
  split
  · rename_i hlt
    exact ⟨.inl, fun h => h.resolve_right fun hlast => by omega⟩
  · rename_i hge
    rw [List.getElem?_eq_none (Nat.le_of_not_lt hge), List.getElem?_singleton]
    by_cases hi : i = keys.length
    · simp [hi]
    · simp [hi, show i - keys.length ≠ 0 by omega]

/-- Rules that go into a slot that is there change no key. -/
theorem keys_modify (slots : Slots) (place : Nat) (rules : List Declared) :
    (slots.modify place fun slot => (slot.1, slot.2 ++ rules)).map (·.1) = slots.map (·.1) := by
  apply List.ext_getElem?
  intro i
  rw [List.getElem?_map, List.getElem?_map, List.getElem?_modify]
  cases slots[i]? with
  | none => rfl
  | some slot => by_cases hi : place = i <;> simp [hi]

theorem push_of_isEmpty (h : rules.isEmpty) : indexed.push key rules = indexed := if_pos h

theorem push_of_place (h : rules.isEmpty = false) (hplace : indexed.places.get? key = some place) :
    indexed.push key rules =
      { indexed with
        slots := indexed.slots.modify place fun slot => (slot.1, slot.2 ++ rules) } := by
  rw [push, if_neg (by simp [h]), hplace]

theorem push_of_no_place (h : rules.isEmpty = false) (hnone : indexed.places.get? key = none) :
    indexed.push key rules =
      { slots := indexed.slots ++ [(key, rules)]
        places := indexed.places.set key indexed.slots.length } := by
  rw [push, if_neg (by simp [h]), hnone]

/-- Adding rules keeps the index in step. -/
theorem IsIndexed.push (h : indexed.IsIndexed) (key : Text) (rules : List Declared) :
    (indexed.push key rules).IsIndexed := by
  cases hrules : rules.isEmpty with
  | true => rwa [push_of_isEmpty hrules]
  | false =>
    cases hplace : indexed.places.get? key with
    | some place =>
      rw [push_of_place hrules hplace]
      intro other i
      rw [keys, keys_modify]
      exact h other i
    | none =>
      have hfresh := h.not_mem_keys hplace
      rw [push_of_no_place hrules hplace]
      intro other i
      rw [Table.get?_set, keys, List.map_append, List.map_singleton, getElem?_concat_eq_some_iff,
        List.length_map]
      by_cases hother : key = other
      · subst hother
        rw [if_pos rfl, Option.some.injEq]
        constructor
        · rintro rfl
          exact .inr ⟨rfl, rfl⟩
        · rintro (hold | ⟨rfl, -⟩)
          · exact absurd (List.mem_of_getElem? hold) hfresh
          · rfl
      · rw [if_neg hother, h other i]
        exact ⟨.inl, fun hold => hold.resolve_right fun hnew => hother hnew.2⟩

/-- The search through the slots adds the rules where the index says. -/
theorem IsIndexed.slots_push (h : indexed.IsIndexed) (key : Text) (rules : List Declared) :
    (indexed.push key rules).slots = indexed.slots.push key rules := by
  cases hrules : rules.isEmpty with
  | true => rw [push_of_isEmpty hrules, Slots.push, if_pos hrules]
  | false =>
    have hadd : indexed.slots.push key rules = Slots.push.add key rules indexed.slots := by
      rw [Slots.push, if_neg (by simp [hrules])]
    cases hplace : indexed.places.get? key with
    | some place =>
      rw [push_of_place hrules hplace, hadd,
        Slots.add_of_getElem? rules h.nodup_keys ((h key place).1 hplace)]
    | none =>
      rw [push_of_no_place hrules hplace, hadd, Slots.add_of_fresh rules (h.not_mem_keys hplace)]

section Walk

variable {key : Text} {value : Json.Value} {group rest : Json.Members}

theorem addTree_nil (indexed : IndexedSlots) : addTree [] indexed = indexed := by rw [addTree]

theorem addTree_of_slash (h : key.head? = some '/') :
    addTree ((key, value) :: rest) indexed =
      addTree rest (indexed.push key (Declared.listOfValue value)) := by
  cases value <;> rw [addTree, if_pos h] <;> simp

theorem addTree_group (h : key.head? ≠ some '/') :
    addTree ((key, .object group) :: rest) indexed = addTree rest (addTree group indexed) := by
  rw [addTree, if_neg h]

theorem addTree_other (h : key.head? ≠ some '/') (hvalue : ∀ group, value ≠ .object group) :
    addTree ((key, value) :: rest) indexed = addTree rest indexed := by
  rw [addTree, if_neg h]
  exact hvalue

end Walk

/-- What the walk through a tree does to slots with their index. -/
structure Grows (tree : Json.Members) (indexed grown : IndexedSlots) : Prop where
  inStep : grown.IsIndexed
  slots_eq : grown.slots =
    (Slots.stream tree).foldl (fun slots slot => slots.push slot.1 slot.2) indexed.slots

/-- The walk keeps the index in step and adds the slots of the tree one by one. -/
theorem IsIndexed.addTree (h : indexed.IsIndexed) (tree : Json.Members) :
    Grows tree indexed (addTree tree indexed) := by
  induction tree, indexed using IndexedSlots.addTree.induct with
  | case1 indexed =>
    rw [addTree_nil]
    exact ⟨h, by rw [Slots.stream_nil, List.foldl_nil]⟩
  | case2 key value rest indexed hslash ih =>
    obtain ⟨hstep, hslots⟩ := ih (h.push key (Declared.listOfValue value))
    rw [addTree_of_slash hslash]
    refine ⟨hstep, ?_⟩
    rw [hslots, h.slots_push, Slots.stream_of_slash hslash, List.foldl_cons]
  | case3 key rest indexed hslash group ihGroup ihRest =>
    obtain ⟨hgroup, hslotsGroup⟩ := ihGroup h
    obtain ⟨hstep, hslots⟩ := ihRest hgroup
    rw [addTree_group hslash]
    refine ⟨hstep, ?_⟩
    rw [hslots, hslotsGroup, Slots.stream_group hslash, List.foldl_append]
  | case4 key value rest indexed hslash hvalue ih =>
    obtain ⟨hstep, hslots⟩ := ih h
    rw [addTree_other hslash hvalue]
    refine ⟨hstep, ?_⟩
    rw [hslots, Slots.stream_other hslash hvalue]

theorem ofTree_grows (tree : Json.Members) : Grows tree empty (ofTree tree) :=
  isIndexed_empty.addTree tree

/-- The walk with the index gathers what the search through the slots does. -/
theorem slots_ofTree (tree : Json.Members) : (ofTree tree).slots = Slots.ofTree tree :=
  (ofTree_grows tree).slots_eq

/-- A key is found through the index with the rules of its slot. -/
theorem IsIndexed.get?_eq_some_iff (h : indexed.IsIndexed) :
    indexed.get? key = some rules ↔ (key, rules) ∈ indexed.slots := by
  rw [get?, Option.bind_eq_some_iff, List.mem_iff_getElem?]
  refine exists_congr fun place => ?_
  rw [h key place, keys, List.getElem?_map]
  cases indexed.slots[place]? with
  | none => simp
  | some slot =>
    obtain ⟨k, old⟩ := slot
    simp

/-- What is found through the index is what a search through the slots finds. -/
theorem IsIndexed.get?_eq (h : indexed.IsIndexed) (key : Text) :
    indexed.get? key = indexed.slots.get? key := by
  apply Option.ext
  intro rules
  rw [h.get?_eq_some_iff, Table.get?_eq_some_iff h.nodup_keys]

end IndexedSlots

end RuleGateway
