import Mathlib.Data.List.Induction
import RuleGateway.Proofs.Number.Whole
import RuleGateway.Proofs.Router.Locality
import RuleGateway.Proofs.Rule.Index

/-!
# Rules under their keys

A slot tree declares rules in document order, and a key may declare rules in several
of its groups. Flattening puts them into one slot for each key. The default priority of a
rule is its place in that slot, and this is its place among the rules of its key in the
whole document, wherever the groups that they stand in are (`declared_gathered_perm`).
-/

namespace RuleGateway

/-- The priority that a declaration gives, if it gives one that can be read. -/
def Declared.priority? : Declared → Option Binary64
  | .target _ => none
  | .fields members => (members.get? "priority").bind Rule.number?

theorem Rule.priority_ofDeclared (declared : Declared) (position : Nat) :
    (ofDeclared declared position).priority = declared.priority?.getD (priorityOf position) := by
  cases declared <;> rfl

/-- Positions that a double can tell apart are their own priorities. -/
theorem Rule.toNat?_priorityOf {position : Nat} (h : position ≤ 2 ^ 53) :
    (priorityOf position).toNat? = some position := by
  have hsmall : Int.bmod position (Nat.pow 2 64) = position := by
    apply Int.bmod_eq_of_le
    · simp
    · simp
      omega
  rw [priorityOf, hsmall]
  exact Binary64.toNat?_ofInt h

namespace Slots

/-- Keys without repetitions stand in the order in which they first appear. -/
theorem pairwise_idxOf_eraseDups (keys : List Text) :
    keys.eraseDups.Pairwise fun a b => keys.idxOf a < keys.idxOf b := by
  induction keys using List.reverseRecOn with
  | nil => simp
  | append_singleton keys key ih =>
    have hold : keys.eraseDups.Pairwise fun a b =>
        (keys ++ [key]).idxOf a < (keys ++ [key]).idxOf b := by
      apply ih.imp_of_mem
      intro a b ha hb hab
      rw [List.idxOf_append_of_mem (List.mem_eraseDups.1 ha),
        List.idxOf_append_of_mem (List.mem_eraseDups.1 hb)]
      exact hab
    rw [List.eraseDups_append]
    by_cases hkey : key ∈ keys
    · simpa [List.removeAll, hkey] using hold
    · have hnew : ([key].removeAll keys).eraseDups = [key] := by
        simp [List.removeAll, hkey, List.eraseDups_cons]
      rw [hnew, List.pairwise_append]
      refine ⟨hold, List.pairwise_singleton .., ?_⟩
      intro a ha b hb
      obtain rfl := List.mem_singleton.1 hb
      have hmem := List.mem_eraseDups.1 ha
      have hlength := List.idxOf_lt_length_of_mem hmem
      rw [List.idxOf_append_of_mem hmem, List.idxOf_append_of_notMem hkey]
      omega

end Slots

namespace Router

variable (compiles : Text → Bool)

/-- The declared rules in document order, each at its base path and with its place among
the rules of its key. Rules at base paths without a pattern are left out, and count for
the places of no others. -/
def placedRules (declared : List (Text × Declared)) : List (Text × Rule) :=
  (declared.zipIdx.filter fun numbered => compiles (baseOfKey numbered.1.1)).map (ruleOf declared)

/-- What a slot tree makes of one more declared rule whose key has a number of them. -/
def placedNext (key : Text) (rule : Declared) (earlier : Nat) : List (Text × Rule) :=
  if compiles (baseOfKey key) then [(baseOfKey key, Rule.ofDeclared rule (earlier + 1))] else []

theorem placedRules_append (declared : List (Text × Declared)) (key : Text) (rule : Declared) :
    placedRules compiles (declared ++ [(key, rule)]) =
      placedRules compiles declared ++
        placedNext compiles key rule (declared.countP (·.1 == key)) := by
  have hold : (declared.zipIdx.filter fun numbered => compiles (baseOfKey numbered.1.1)).map
        (ruleOf (declared ++ [(key, rule)])) = placedRules compiles declared := by
    apply List.map_congr_left
    rintro ⟨⟨other, declaration⟩, i⟩ hmem
    have hlt : i < declared.length := (List.mem_zipIdx' (List.mem_filter.1 hmem).1).1
    rw [ruleOf, ruleOf, positionOf, positionOf, List.take_append_of_le_length hlt]
  have hnew : ruleOf (declared ++ [(key, rule)]) ((key, rule), declared.length) =
      (baseOfKey key, Rule.ofDeclared rule (declared.countP (·.1 == key) + 1)) := by
    have hall : (declared ++ [(key, rule)]).take (declared.length + 1) =
        declared ++ [(key, rule)] := List.take_of_length_le (by simp)
    rw [ruleOf, positionOf, hall, List.countP_append]
    simp
  rw [placedRules, List.zipIdx_append, List.filter_append, List.map_append, hold]
  congr 1
  rw [List.zipIdx_singleton, Nat.zero_add, placedNext]
  by_cases hc : compiles (baseOfKey key)
  · rw [if_pos hc, ← hnew]
    simp [hc]
  · rw [if_neg hc]
    simp [hc]

/-- One more rule of a key gets the next place in the slot of the key. -/
theorem declared_add_perm (slots : Slots) (key : Text) (rule : Declared) :
    (declared compiles (Slots.push.add key [rule] slots)).Perm
      (declared compiles slots ++
        placedNext compiles key rule ((slots.get? key).getD []).length) := by
  induction slots with
  | nil =>
    rw [Slots.push.add, declared_cons, Table.get?]
    exact List.Perm.of_eq (List.append_nil _)
  | cons slot slots ih =>
    obtain ⟨k, old⟩ := slot
    rw [Slots.push.add, declared_cons, Table.get?]
    by_cases hk : k = key
    · subst hk
      rw [if_pos rfl, if_pos rfl, declared_cons, placedNext]
      by_cases hc : compiles (baseOfKey k)
      · have hnext : rulesAt k (old ++ [rule]) =
            rulesAt k old ++ [(baseOfKey k, Rule.ofDeclared rule (old.length + 1))] := by
          simp [rulesAt, List.zipIdx_append]
        rw [if_pos hc, if_pos hc, if_pos hc, hnext, List.append_assoc, List.append_assoc]
        exact List.perm_append_comm.append_left _
      · rw [if_neg hc, if_neg hc, if_neg hc, List.append_nil]
    · rw [if_neg hk, if_neg hk, declared_cons, List.append_assoc]
      exact ih.append_left _

theorem get?_gathered (declared : List (Text × Declared)) (key : Text) :
    ((Slots.gathered declared).get? key).getD [] = Slots.rulesOf declared key := by
  by_cases hkey : key ∈ Slots.firstKeys declared
  · have hkeys : ((Slots.gathered declared).map (·.1)).Nodup := by
      rw [Slots.keys_gathered]
      exact Slots.nodup_firstKeys declared
    have hslot : (key, Slots.rulesOf declared key) ∈ Slots.gathered declared :=
      List.mem_map.2 ⟨key, hkey, rfl⟩
    rw [Table.get?_of_mem hkeys hslot, Option.getD_some]
  · have hnone : (Slots.gathered declared).get? key = none := by
      rw [← Option.not_isSome_iff_eq_none, Table.isSome_get?_iff, Slots.keys_gathered]
      exact hkey
    have hfresh : ∀ entry ∈ declared, entry.1 ≠ key := by
      rintro entry hentry rfl
      exact hkey (Slots.mem_firstKeys.2 ⟨entry.2, hentry⟩)
    rw [hnone, Option.getD_none, Slots.rulesOf_of_fresh hfresh]

/-- The places of the rules in their slots are those that the document gives them. -/
theorem declared_gathered_perm (sources : List (Text × Declared)) :
    (declared compiles (Slots.gathered sources)).Perm (placedRules compiles sources) := by
  induction sources using List.reverseRecOn with
  | nil => exact List.Perm.refl _
  | append_singleton sources source ih =>
    obtain ⟨key, rule⟩ := source
    have hpush : Slots.gathered (sources ++ [(key, rule)]) =
        Slots.push.add key [rule] (Slots.gathered sources) :=
      (Slots.push_gathered sources key [rule]).symm
    have hplace : (((Slots.gathered sources).get? key).getD []).length =
        sources.countP (·.1 == key) := by
      rw [get?_gathered, Slots.rulesOf, List.length_map, List.countP_eq_length_filter]
    rw [hpush, placedRules_append, ← hplace]
    exact (declared_add_perm compiles _ key rule).trans (ih.append_right _)

/-- The matchers of slots hold the rules that the slots declare. -/
theorem map_matchers_perm (slots : Slots) :
    ((ofSlots compiles slots).matchers.map fun m => (m.base, m.rule)).Perm
      (declared compiles slots) := by
  rw [map_matchers]
  exact List.mergeSort_perm ..

end Router

namespace IndexedSlots

/-- What flattening makes of the rules that are declared in document order. -/
structure IsFlattening (declared : List (Text × Declared)) (indexed : IndexedSlots) : Prop where
  complete : ∀ key, key ∈ indexed.keys ↔ ∃ rule, (key, rule) ∈ declared
  once : indexed.keys.Nodup
  ordered : indexed.keys.Pairwise fun a b =>
    (declared.map (·.1)).idxOf a < (declared.map (·.1)).idxOf b
  rules : ∀ slot ∈ indexed.slots, slot.2 = (declared.filter (·.1 == slot.1)).map (·.2)
  nonempty : ∀ slot ∈ indexed.slots, slot.2 ≠ []
  found : ∀ key rules, indexed.get? key = some rules ↔ (key, rules) ∈ indexed.slots
  missed : ∀ key, indexed.get? key = none ↔ key ∉ indexed.keys

/-- Slots with an index in step that are gathered from declared rules. -/
theorem IsIndexed.isFlattening {indexed : IndexedSlots} {declared : List (Text × Declared)}
    (h : indexed.IsIndexed) (hslots : indexed.slots = Slots.gathered declared) :
    IsFlattening declared indexed := by
  have hkeys : indexed.keys = Slots.firstKeys declared := by
    rw [keys, hslots, Slots.keys_gathered]
  have hslot : ∀ slot ∈ indexed.slots,
      slot.1 ∈ indexed.keys ∧ slot.2 = Slots.rulesOf declared slot.1 := by
    intro slot hmem
    rw [hslots] at hmem
    obtain ⟨key, hkey, rfl⟩ := List.mem_map.1 hmem
    exact ⟨hkeys ▸ hkey, rfl⟩
  refine
    { complete := ?_
      once := h.nodup_keys
      ordered := ?_
      rules := fun slot hmem => (hslot slot hmem).2
      nonempty := ?_
      found := fun key rules => h.get?_eq_some_iff
      missed := ?_ }
  · intro key
    rw [hkeys]
    exact Slots.mem_firstKeys
  · rw [hkeys]
    exact Slots.pairwise_idxOf_eraseDups _
  · intro slot hmem
    obtain ⟨hkey, hrules⟩ := hslot slot hmem
    rw [hkeys] at hkey
    obtain ⟨rule, hrule⟩ := Slots.mem_firstKeys.1 hkey
    have hown : rule ∈ slot.2 := by
      rw [hrules]
      exact List.mem_map.2 ⟨(slot.1, rule), List.mem_filter.2 ⟨hrule, by simp⟩, rfl⟩
    exact List.ne_nil_of_mem hown
  · intro key
    rw [h.get?_eq, ← Option.not_isSome_iff_eq_none, Table.isSome_get?_iff]
    exact Iff.rfl

/-- Flattening a slot tree, whatever groups are nested in it and wherever a key recurs:
each key that declares a rule has one slot with all its rules, in order; looking it up
through the index or by a search finds that slot; and the n-th rule of a key has the
priority n unless it gives one. -/
theorem ofTree_flattens (tree : Json.Members) :
    IsFlattening (Slots.declarations tree) (ofTree tree) ∧
      (ofTree tree).slots = Slots.ofTree tree ∧
      (∀ key, (ofTree tree).get? key = (Slots.ofTree tree).get? key) ∧
      (∀ compiles,
        ((Router.ofSlots compiles (Slots.ofTree tree)).matchers.map fun m => (m.base, m.rule)).Perm
          (Router.placedRules compiles (Slots.declarations tree))) ∧
      ∀ (rule : Declared) (n : Nat),
        (Rule.ofDeclared rule n).priority = rule.priority?.getD (Rule.priorityOf n) ∧
          (n ≤ 2 ^ 53 → (Rule.priorityOf n).toNat? = some n) := by
  have hinStep := (ofTree_grows tree).inStep
  have hslots := slots_ofTree tree
  refine ⟨hinStep.isFlattening (hslots.trans (Slots.ofTree_eq_gathered tree)), hslots, ?_, ?_, ?_⟩
  · intro key
    rw [hinStep.get?_eq, hslots]
  · intro compiles
    have hplaced := Router.declared_gathered_perm compiles (Slots.declarations tree)
    rw [← Slots.ofTree_eq_gathered] at hplaced
    exact (Router.map_matchers_perm compiles _).trans hplaced
  · intro rule n
    exact ⟨Rule.priority_ofDeclared rule n, Rule.toNat?_priorityOf⟩

end IndexedSlots

end RuleGateway
