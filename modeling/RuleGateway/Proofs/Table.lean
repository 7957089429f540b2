import Mathlib.Data.List.Basic
import RuleGateway.Table

/-!
# Keys and entries of tables

What a look-up finds is an entry of the table. With each key there once, every entry
is found.
-/

namespace RuleGateway.Table

variable {α : Type}

theorem mem_of_mem_set {table : Table α} {key : Text} {value : α} {entry : Text × α}
    (h : entry ∈ table.set key value) : entry = (key, value) ∨ entry ∈ table := by
  induction table with
  | nil => exact .inl (List.mem_singleton.1 h)
  | cons first rest ih =>
    obtain ⟨k, old⟩ := first
    rw [set] at h
    split at h
    · rename_i hk
      rcases List.mem_cons.1 h with rfl | hrest
      · exact .inl (hk ▸ rfl)
      · exact .inr (List.mem_cons_of_mem _ hrest)
    · rcases List.mem_cons.1 h with rfl | hrest
      · exact .inr List.mem_cons_self
      · exact (ih hrest).imp_right (List.mem_cons_of_mem _)

/-- Setting a key keeps the keys that are there, in their order. -/
theorem keys_prefix_set (table : Table α) (key : Text) (value : α) :
    table.map (·.1) <+: (table.set key value).map (·.1) := by
  induction table with
  | nil => exact List.nil_prefix
  | cons first rest ih =>
    obtain ⟨k, old⟩ := first
    rw [set]
    split
    · exact List.prefix_rfl
    · exact List.prefix_cons_inj k |>.2 ih

theorem isSome_get?_iff {table : Table α} {key : Text} :
    (table.get? key).isSome ↔ key ∈ table.map (·.1) := by
  induction table with
  | nil => simp [get?]
  | cons first rest ih =>
    obtain ⟨k, old⟩ := first
    by_cases hk : k = key
    · simp [get?, hk]
    · simpa [get?, hk, Ne.symm hk] using ih

theorem mem_of_get?_eq_some {table : Table α} {key : Text} {value : α}
    (h : table.get? key = some value) : (key, value) ∈ table := by
  induction table with
  | nil => cases h
  | cons first rest ih =>
    obtain ⟨k, old⟩ := first
    rw [get?] at h
    split at h
    · rename_i hk
      cases h
      exact hk ▸ List.mem_cons_self
    · exact List.mem_cons_of_mem _ (ih h)

/-- Where each of some steps writes one value at its key, their run writes it at all of
their keys and nothing else. -/
theorem get?_foldl {step : Table α → Text → Table α} {written : Option α}
    (hstep : ∀ table key other,
      (step table key).get? other = if key = other then written else table.get? other)
    (keys : List Text) (table : Table α) (key : Text) :
    (keys.foldl step table).get? key = if key ∈ keys then written else table.get? key := by
  induction keys generalizing table with
  | nil => rfl
  | cons first keys ih =>
    rw [List.foldl_cons, ih, hstep]
    by_cases hkey : key ∈ keys
    · rw [if_pos hkey, if_pos (List.mem_cons_of_mem first hkey)]
    · by_cases hfirst : first = key
      · rw [if_neg hkey, if_pos hfirst, if_pos (List.mem_cons.2 (.inl hfirst.symm))]
      · have hnone : key ∉ first :: keys := by simp [hkey, Ne.symm hfirst]
        rw [if_neg hkey, if_neg hfirst, if_neg hnone]

/-- Setting a key leaves each key there once. -/
theorem nodup_keys_set {table : Table α} (h : (table.map (·.1)).Nodup) (key : Text) (value : α) :
    ((table.set key value).map (·.1)).Nodup := by
  induction table with
  | nil => simp [set]
  | cons first rest ih =>
    obtain ⟨k, old⟩ := first
    rw [List.map_cons, List.nodup_cons] at h
    rw [set]
    split
    · exact List.nodup_cons.2 h
    · rename_i hk
      refine List.nodup_cons.2 ⟨fun hmem => ?_, ih h.2⟩
      obtain ⟨entry, hentry, hkey⟩ := List.mem_map.1 hmem
      rcases mem_of_mem_set hentry with rfl | hrest
      · exact hk hkey.symm
      · exact h.1 (List.mem_map.2 ⟨entry, hrest, hkey⟩)

theorem get?_of_mem {table : Table α} (h : (table.map (·.1)).Nodup) {key : Text} {value : α}
    (hmem : (key, value) ∈ table) : table.get? key = some value := by
  induction table with
  | nil => cases hmem
  | cons first rest ih =>
    obtain ⟨k, old⟩ := first
    rw [List.map_cons, List.nodup_cons] at h
    rw [get?]
    rcases List.mem_cons.1 hmem with heq | hrest
    · cases heq
      exact if_pos rfl
    · have hk : k ≠ key := fun hk => h.1 (List.mem_map.2 ⟨_, hrest, hk.symm⟩)
      rw [if_neg hk]
      exact ih h.2 hrest

theorem get?_eq_some_iff {table : Table α} (h : (table.map (·.1)).Nodup) {key : Text} {value : α} :
    table.get? key = some value ↔ (key, value) ∈ table :=
  ⟨mem_of_get?_eq_some, get?_of_mem h⟩

/-- Where each key is there once, what a part of the table has is what was there. -/
theorem get?_of_sublist {table part : Table α} (h : (table.map (·.1)).Nodup)
    (hpart : part.Sublist table) {key : Text} {value : α} (hvalue : part.get? key = some value) :
    table.get? key = some value :=
  get?_of_mem h (hpart.subset (mem_of_get?_eq_some hvalue))

/-- Where each key is there once, to filter the entries is to filter what a look-up finds. -/
theorem get?_filter {table : Table α} (h : (table.map (·.1)).Nodup) (kept : Text × α → Bool)
    (key : Text) :
    get? (table.filter kept) key = (table.get? key).filter fun value => kept (key, value) := by
  induction table with
  | nil => rfl
  | cons first rest ih =>
    obtain ⟨k, value⟩ := first
    rw [List.map_cons, List.nodup_cons] at h
    by_cases hk : k = key
    · subst hk
      -- there is no second entry behind one that is left out
      have hnone : get? (rest.filter kept) k = none := by
        rw [← Option.not_isSome_iff_eq_none, isSome_get?_iff]
        exact fun hmem => h.1 ((List.filter_sublist.map _).subset hmem)
      rw [List.filter_cons, get?, if_pos rfl, Option.filter_some]
      split
      · exact if_pos rfl
      · exact hnone
    · rw [List.filter_cons, get?, if_neg hk, ← ih h.2]
      split
      · exact if_neg hk
      · rfl

end RuleGateway.Table
