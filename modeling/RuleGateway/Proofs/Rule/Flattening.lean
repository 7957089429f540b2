import RuleGateway.Rule.Slots

/-!
# Flattening a slot tree

Flattening walks the tree and puts the rules of each slot behind those that its
key already has. The main statement, `ofTree_eq_gathered`, says what comes out
without the walk: the keys in the order in which they first declare a rule, each
with all the rules it declares anywhere in the tree, in document order. No rule
is lost or doubled on the way (`flatten_gathered_perm`).
-/

namespace RuleGateway.Slots

/-- Declared rules with their keys, slot after slot. -/
def flatten (slots : Slots) : List (Text × Declared) :=
  slots.flatMap fun (key, rules) => rules.map (key, ·)

/-- The rules that a slot tree declares, with their keys, in document order. -/
def declarations (tree : Json.Members) : List (Text × Declared) := flatten (stream tree)

/-- The keys of declared rules in order of first appearance. -/
def firstKeys (declared : List (Text × Declared)) : List Text := (declared.map (·.1)).eraseDups

/-- The rules declared for a key, in document order. -/
def rulesOf (declared : List (Text × Declared)) (key : Text) : List Declared :=
  (declared.filter (·.1 == key)).map (·.2)

/-- Declared rules gathered under their keys. -/
def gathered (declared : List (Text × Declared)) : Slots :=
  (firstKeys declared).map fun key => (key, rulesOf declared key)

section Walk

variable {key : Text} {value : Json.Value} {group rest : Json.Members}

theorem stream_nil : stream [] = [] := by rw [stream]

theorem stream_of_slash (h : key.head? = some '/') :
    stream ((key, value) :: rest) = (key, Declared.listOfValue value) :: stream rest := by
  cases value <;> simp [stream, h]

theorem stream_group (h : key.head? ≠ some '/') :
    stream ((key, .object group) :: rest) = stream group ++ stream rest := by
  rw [stream, if_neg h]

theorem stream_other (h : key.head? ≠ some '/') (hvalue : ∀ group, value ≠ .object group) :
    stream ((key, value) :: rest) = stream rest := by
  cases value <;> simp_all [stream]

end Walk

@[simp] theorem flatten_nil : flatten [] = [] := rfl

@[simp] theorem flatten_cons (key : Text) (rules : List Declared) (slots : Slots) :
    flatten ((key, rules) :: slots) = rules.map (key, ·) ++ flatten slots := rfl

theorem flatten_append (front back : Slots) :
    flatten (front ++ back) = flatten front ++ flatten back := by
  simp [flatten]

theorem nodup_eraseDups (keys : List Text) : keys.eraseDups.Nodup := by
  induction hn : keys.length using Nat.strongRecOn generalizing keys with
  | ind n ih =>
    cases keys with
    | nil => simp
    | cons key keys =>
      rw [List.eraseDups_cons, List.nodup_cons]
      refine ⟨by simp, ih _ ?_ _ rfl⟩
      rw [← hn, List.length_cons]
      exact Nat.lt_succ_of_le (List.length_filter_le _ _)

theorem nodup_firstKeys (declared : List (Text × Declared)) : (firstKeys declared).Nodup :=
  nodup_eraseDups _

theorem keys_gathered (declared : List (Text × Declared)) :
    (gathered declared).map (·.1) = firstKeys declared := by
  simp [gathered, Function.comp_def]

theorem mem_firstKeys {declared : List (Text × Declared)} {key : Text} :
    key ∈ firstKeys declared ↔ ∃ rule, (key, rule) ∈ declared := by
  simp [firstKeys]

theorem rulesOf_append (front back : List (Text × Declared)) (key : Text) :
    rulesOf (front ++ back) key = rulesOf front key ++ rulesOf back key := by
  simp [rulesOf]

theorem rulesOf_map_same (rules : List Declared) (key : Text) :
    rulesOf (rules.map (key, ·)) key = rules := by
  induction rules with
  | nil => rfl
  | cons rule rules ih => simpa [rulesOf] using ih

theorem rulesOf_map_other (rules : List Declared) {key other : Text} (h : key ≠ other) :
    rulesOf (rules.map (key, ·)) other = [] := by
  simp [rulesOf, h]

theorem eraseDups_replicate (key : Text) (n : Nat) :
    (List.replicate (n + 1) key).eraseDups = [key] := by
  rw [List.replicate_succ, List.eraseDups_cons]
  simp

/-- A key that declares rules for the first time comes behind all others. -/
theorem firstKeys_append_same (declared : List (Text × Declared)) (key : Text)
    {rules : List Declared} (h : rules ≠ []) :
    firstKeys (declared ++ rules.map (key, ·)) =
      firstKeys declared ++ if key ∈ firstKeys declared then [] else [key] := by
  obtain ⟨n, hn⟩ : ∃ n, rules.length = n + 1 :=
    Nat.exists_eq_succ_of_ne_zero (by simpa using h)
  have hkeys : (rules.map (key, ·)).map (·.1) = List.replicate (n + 1) key := by
    rw [List.map_map, ← hn]
    exact List.map_const' ..
  rw [firstKeys, List.map_append, hkeys, List.eraseDups_append]
  by_cases hm : key ∈ declared.map (·.1)
  · have hgone : (List.replicate (n + 1) key).removeAll (declared.map (·.1)) = [] := by
      simpa [List.removeAll] using hm
    simp [hgone, firstKeys, hm]
  · have hkept : (List.replicate (n + 1) key).removeAll (declared.map (·.1)) =
        List.replicate (n + 1) key := by
      simpa [List.removeAll] using hm
    simp [hkept, eraseDups_replicate, firstKeys, hm]

theorem add_of_fresh {slots : Slots} {key : Text} (rules : List Declared)
    (h : key ∉ slots.map (·.1)) : push.add key rules slots = slots ++ [(key, rules)] := by
  induction slots with
  | nil => rfl
  | cons slot slots ih =>
    obtain ⟨k, old⟩ := slot
    rw [List.map_cons, List.mem_cons, not_or] at h
    rw [push.add, if_neg (Ne.symm h.1), ih h.2, List.cons_append]

/-- Adding rules to slots with distinct keys: behind the rules of their key, or
as a slot of their own behind all others. -/
theorem add_map (key : Text) (rules : List Declared) (f : Text → List Declared)
    {keys : List Text} (h : keys.Nodup) :
    push.add key rules (keys.map fun k => (k, f k)) =
      if key ∈ keys then keys.map fun k => (k, if k = key then f k ++ rules else f k)
      else (keys.map fun k => (k, f k)) ++ [(key, rules)] := by
  induction keys with
  | nil => rfl
  | cons k keys ih =>
    rw [List.nodup_cons] at h
    by_cases hk : k = key
    · subst hk
      have hrest : (keys.map fun k' => (k', if k' = k then f k' ++ rules else f k')) =
          keys.map fun k' => (k', f k') := by
        apply List.map_congr_left
        intro k' hk'
        have hne : k' ≠ k := by
          rintro rfl
          exact h.1 hk'
        rw [if_neg hne]
      simp [push.add, hrest]
    · rw [List.map_cons, push.add, if_neg hk, ih h.2]
      by_cases hm : key ∈ keys <;> simp [hm, hk, Ne.symm hk]

/-- One slot of the walk: gathering goes on as if its rules had been declared
behind all others. -/
theorem push_gathered (declared : List (Text × Declared)) (key : Text) (rules : List Declared) :
    (gathered declared).push key rules = gathered (declared ++ rules.map (key, ·)) := by
  by_cases hr : rules = []
  · simp [push, hr]
  have hsame (k : Text) : rulesOf (declared ++ rules.map (key, ·)) k =
      if k = key then rulesOf declared k ++ rules else rulesOf declared k := by
    rw [rulesOf_append]
    by_cases hk : k = key
    · subst hk
      rw [rulesOf_map_same, if_pos rfl]
    · rw [rulesOf_map_other rules (Ne.symm hk), List.append_nil, if_neg hk]
  rw [push, if_neg (by simpa using hr), gathered, add_map key rules _ (nodup_firstKeys declared),
    gathered, firstKeys_append_same declared key hr]
  by_cases hm : key ∈ firstKeys declared
  · simp [hm, hsame]
  · have hnone : rulesOf declared key = [] := by
      rw [rulesOf, List.map_eq_nil_iff, List.filter_eq_nil_iff]
      rintro ⟨k, rule⟩ hentry hk
      obtain rfl : k = key := by simpa using hk
      exact hm (mem_firstKeys.2 ⟨rule, hentry⟩)
    have hold :
        (firstKeys declared).map (fun k => (k, rulesOf (declared ++ rules.map (key, ·)) k)) =
          (firstKeys declared).map fun k => (k, rulesOf declared k) := by
      apply List.map_congr_left
      intro k hk
      have hne : k ≠ key := by
        rintro rfl
        exact hm hk
      rw [hsame, if_neg hne]
    rw [if_neg hm, if_neg hm, List.map_append, hold, List.map_singleton, hsame, if_pos rfl, hnone,
      List.nil_append]

theorem foldl_push_gathered (slots : Slots) (declared : List (Text × Declared)) :
    slots.foldl (fun slots entry => slots.push entry.1 entry.2) (gathered declared) =
      gathered (declared ++ flatten slots) := by
  induction slots generalizing declared with
  | nil => simp
  | cons entry slots ih =>
    rw [List.foldl_cons, push_gathered, ih, flatten_cons, List.append_assoc]

/-- The flattened slot tree is what the tree declares, gathered under its keys. -/
theorem ofTree_eq_gathered (tree : Json.Members) : ofTree tree = gathered (declarations tree) := by
  have h := foldl_push_gathered (stream tree) []
  rwa [List.nil_append] at h

theorem map_rulesOf (declared : List (Text × Declared)) (key : Text) :
    (rulesOf declared key).map (key, ·) = declared.filter (·.1 == key) := by
  have hsame : ∀ entry ∈ declared.filter (·.1 == key), (key, entry.2) = id entry := by
    rintro ⟨k, rule⟩ hentry
    obtain rfl : k = key := by simpa using (List.mem_filter.1 hentry).2
    rfl
  rw [rulesOf, List.map_map]
  exact (List.map_congr_left hsame).trans (List.map_id _)

theorem filter_mem_cons_perm (declared : List (Text × Declared)) {key : Text} {keys : List Text}
    (h : key ∉ keys) :
    (declared.filter (·.1 == key) ++ declared.filter (·.1 ∈ keys)).Perm
      (declared.filter (·.1 ∈ key :: keys)) := by
  induction declared with
  | nil => simp
  | cons entry declared ih =>
    obtain ⟨k, rule⟩ := entry
    by_cases hk : k = key
    · subst hk
      simpa [h] using ih
    · by_cases hm : k ∈ keys
      · simpa [hk, hm] using List.perm_middle.trans (ih.cons _)
      · simpa [hk, hm] using ih

/-- The rules of the keys that are listed, one key after the other, are those
rules declared for one of them. -/
theorem flatten_map_perm (declared : List (Text × Declared)) {keys : List Text}
    (h : keys.Nodup) :
    (flatten (keys.map fun key => (key, rulesOf declared key))).Perm
      (declared.filter (·.1 ∈ keys)) := by
  induction keys with
  | nil => simp
  | cons key keys ih =>
    rw [List.nodup_cons] at h
    rw [List.map_cons, flatten_cons, map_rulesOf]
    exact ((ih h.2).append_left _).trans (filter_mem_cons_perm declared h.1)

/-- Gathering loses no rule and doubles none. -/
theorem flatten_gathered_perm (declared : List (Text × Declared)) :
    (flatten (gathered declared)).Perm declared := by
  have h := flatten_map_perm declared (nodup_firstKeys declared)
  rwa [List.filter_eq_self.2 fun entry hentry => by
    simpa using mem_firstKeys.2 ⟨entry.2, hentry⟩] at h

end RuleGateway.Slots
