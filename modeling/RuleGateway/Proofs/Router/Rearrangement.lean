import Mathlib.Data.List.Pairwise
import RuleGateway.Proofs.Router.Nesting

/-!
# Rearranged rule documents

Where a slot stands in a document says nothing about how specific it is. With
base paths that are literal and distinct, the candidates of a request do not
depend on it: base paths that accept one path have different lengths, so the
numbers that follow the order of declaration decide only between rules of one
slot. The main statement, `candidates_rearranged`, says this of any two documents
that have the same slots, however they are ordered and grouped, and that a rule
at a longer base path always comes before one at a shorter.
-/

namespace RuleGateway

namespace Slots

/-- Slots whose base paths are distinct and have no dynamic segments. -/
structure Separate (slots : Slots) : Prop where
  distinct : (slots.map fun slot => baseOfKey slot.1).Nodup
  literal : ∀ slot ∈ slots, (Pattern.ofBase (baseOfKey slot.1)).isDynamic = false

theorem Separate.nodup_keys {slots : Slots} (h : slots.Separate) : (slots.map (·.1)).Nodup := by
  have hbases := h.distinct
  rw [← Function.comp_def, ← List.map_map] at hbases
  exact hbases.of_map

theorem Separate.perm {slots other : Slots} (h : slots.Separate) (hperm : other.Perm slots) :
    other.Separate where
  distinct := (hperm.map _).nodup_iff.2 h.distinct
  literal slot hslot := h.literal slot (hperm.subset hslot)

/-- Slots with distinct keys are gathered as they are, those without rules left
out. -/
theorem foldl_push_of_nodup (slots : Slots) {front : Slots}
    (h : ((front ++ slots).map (·.1)).Nodup) :
    slots.foldl (fun slots slot => slots.push slot.1 slot.2) front =
      front ++ slots.filter fun slot => !slot.2.isEmpty := by
  induction slots generalizing front with
  | nil => simp
  | cons slot slots ih =>
    obtain ⟨key, rules⟩ := slot
    have hrest : ((front ++ slots).map (·.1)).Nodup := by
      refine h.sublist (List.Sublist.map _ ?_)
      exact (List.Sublist.refl front).append (List.sublist_cons_self _ _)
    have hkey : key ∉ front.map (·.1) := by
      rw [List.map_append, List.nodup_append] at h
      intro hkey
      exact h.2.2 key hkey key (by simp) rfl
    rw [List.foldl_cons, push]
    by_cases hrules : rules.isEmpty
    · rw [if_pos hrules, ih hrest]
      simp [hrules]
    · rw [if_neg hrules, add_of_fresh rules hkey, ih (by simpa using h)]
      simp [hrules]

theorem ofTree_of_separate {tree : Json.Members} (h : (stream tree).Separate) :
    ofTree tree = (stream tree).filter fun slot => !slot.2.isEmpty := by
  have hkeys : ((([] : Slots) ++ stream tree).map (·.1)).Nodup := h.nodup_keys
  exact foldl_push_of_nodup (stream tree) hkeys

theorem ofTree_perm {tree other : Json.Members} (h : (stream tree).Separate)
    (hperm : (stream other).Perm (stream tree)) : (ofTree other).Perm (ofTree tree) := by
  rw [ofTree_of_separate h, ofTree_of_separate (h.perm hperm)]
  exact hperm.filter _

theorem separate_ofTree {tree : Json.Members} (h : (stream tree).Separate) :
    (ofTree tree).Separate := by
  rw [ofTree_of_separate h]
  exact ⟨h.distinct.sublist (List.filter_sublist.map _),
    fun slot hslot => h.literal slot (List.mem_of_mem_filter hslot)⟩

end Slots

/-- A rule at its base path with its place among the rules of its slot. -/
abbrev Placed := (Text × Rule) × Nat

/-- The matcher of a placed rule when it is numbered. -/
def Placed.matcher (placed : Placed) (sequence : Nat) : Matcher :=
  { base := placed.1.1, rule := placed.1.2, sequence }

/-- The target that a placed rule resolves a request to, which its number has no
part in. -/
def Placed.target? (placed : Placed) (path : Text) (query : Option Text) : Option Text :=
  (placed.matcher 0).resolve? path query

theorem Placed.resolve?_matcher (placed : Placed) (sequence : Nat) (path : Text)
    (query : Option Text) :
    (placed.matcher sequence).resolve? path query = placed.target? path query := rfl

namespace Router

/-- The rules of flattened slots with their places, in declaration order. -/
def placed (compiles : Text → Bool) (slots : Slots) : List Placed :=
  slots.flatMap fun (key, rules) =>
    if compiles (baseOfKey key) then (rulesAt key rules).zipIdx else []

/-- The placed rules with their numbers in the order in which they are tried. -/
def ranked (compiles : Text → Bool) (slots : Slots) : List (Placed × Nat) :=
  (placed compiles slots).zipIdx.mergeSort fun a b =>
    (a.1.matcher a.2).before (b.1.matcher b.2)

/-- The placed rules that accept a path, with their targets, in the order in which
they are tried. -/
def accepting (compiles : Text → Bool) (slots : Slots) (path : Text) (query : Option Text) :
    List (Placed × Text) :=
  ((ranked compiles slots).map (·.1)).filterMap fun place =>
    (place.target? path query).map (place, ·)

/-- What a candidate shows: its base path, its rule and the target. -/
def shown (candidate : Matcher × Text) : Text × Rule × Text :=
  (candidate.1.base, candidate.1.rule, candidate.2)

variable {compiles : Text → Bool} {slots : Slots}

theorem map_fst_placed (compiles : Text → Bool) (slots : Slots) :
    (placed compiles slots).map (·.1) = declared compiles slots := by
  rw [placed, List.map_flatMap, declared]
  congr 1
  funext ⟨key, rules⟩
  by_cases hc : compiles (baseOfKey key) <;> simp [hc]

theorem matchers_eq_map_ranked :
    (ofSlots compiles slots).matchers =
      (ranked compiles slots).map fun entry => entry.1.matcher entry.2 := by
  have henumerate : enumerate compiles slots =
      (placed compiles slots).zipIdx.map fun entry => entry.1.matcher entry.2 := by
    rw [enumerate, ← map_fst_placed, List.zipIdx_map, List.map_map]
    rfl
  rw [ranked, List.map_mergeSort (s := Matcher.before) fun a _ b _ => rfl, ← henumerate]
  rfl

/-- The candidates show what the placed rules that accept the path show. -/
theorem map_shown_candidates (path : Text) (query : Option Text) :
    ((ofSlots compiles slots).candidates path query).map shown =
      (accepting compiles slots path query).map fun entry =>
        (entry.1.1.1, entry.1.1.2, entry.2) := by
  rw [candidates, matchers_eq_map_ranked, accepting, List.filterMap_map, List.filterMap_map,
    List.map_filterMap, List.map_filterMap]
  congr 1
  funext entry
  simp only [Function.comp_apply, Placed.resolve?_matcher, Option.map_map]
  rfl

theorem map_fst_ranked_perm :
    ((ranked compiles slots).map (·.1)).Perm (placed compiles slots) := by
  have h := (List.mergeSort_perm (placed compiles slots).zipIdx fun a b =>
    (a.1.matcher a.2).before (b.1.matcher b.2)).map (·.1)
  rwa [List.zipIdx_map_fst] at h

theorem base_of_mem_placedAt {key : Text} {rules : List Declared} {place : Placed}
    (h : place ∈ (rulesAt key rules).zipIdx) : place.1.1 = baseOfKey key := by
  obtain ⟨⟨rule, i⟩, -, hrule⟩ := List.mem_map.1 (List.fst_mem_of_mem_zipIdx h)
  rw [← hrule]

/-- Every placed rule is one of a slot. -/
theorem exists_slot_of_mem_placed {place : Placed} (h : place ∈ placed compiles slots) :
    ∃ slot ∈ slots, place.1.1 = baseOfKey slot.1 := by
  obtain ⟨⟨key, rules⟩, hslot, hplace⟩ := List.mem_flatMap.1 h
  dsimp only at hplace
  split at hplace
  · exact ⟨_, hslot, base_of_mem_placedAt hplace⟩
  · contradiction

/-- With distinct base paths, the rules of one base path are placed in the order
in which they are declared. -/
theorem placed_pairwise (h : (slots.map fun slot => baseOfKey slot.1).Nodup) :
    (placed compiles slots).Pairwise fun a b => a.1.1 = b.1.1 → a.2 < b.2 := by
  rw [placed, List.pairwise_flatMap]
  constructor
  · rintro ⟨key, rules⟩ -
    dsimp only
    split
    · have hplaces : ((rulesAt key rules).zipIdx.map (·.2)).Pairwise (· < ·) := by
        rw [List.zipIdx_map_snd]
        exact List.pairwise_lt_range'
      refine List.Pairwise.imp ?_ (List.pairwise_map.1 hplaces)
      intro a b hlt _
      exact hlt
    · exact List.Pairwise.nil
  · refine (List.pairwise_map.1 h).imp ?_
    rintro ⟨key, rules⟩ ⟨key', rules'⟩ hne a ha b hb hsame
    dsimp only at ha hb hne
    split at ha
    · split at hb
      · rw [base_of_mem_placedAt ha, base_of_mem_placedAt hb] at hsame
        exact absurd hsame hne
      · contradiction
    · contradiction

/-- A base path and a place in it name one placed rule. -/
theorem eq_of_mem_placed (h : (slots.map fun slot => baseOfKey slot.1).Nodup) {a b : Placed}
    (ha : a ∈ placed compiles slots) (hb : b ∈ placed compiles slots) (hbase : a.1.1 = b.1.1)
    (hplace : a.2 = b.2) : a = b := by
  by_contra hne
  have hsym : Std.Symm fun a b : Placed => a.1.1 = b.1.1 → a.2 ≠ b.2 :=
    ⟨fun _ _ h hbase hplace => h hbase.symm hplace.symm⟩
  have hdiffer : (placed compiles slots).Pairwise fun a b => a.1.1 = b.1.1 → a.2 ≠ b.2 :=
    (placed_pairwise h).imp fun h hbase => Nat.ne_of_lt (h hbase)
  exact hdiffer.forall ha hb hne hbase hplace

/-- The order in which placed rules are tried, as far as it does not depend on
where slots stand: rules of one base path are tried in the order of their places
where their priority is the same. -/
def Settled (a b : Placed) : Prop :=
  b.1.1.length < a.1.1.length ∨
    a.1.1.length = b.1.1.length ∧
      (a.1.2.priority.rank < b.1.2.priority.rank ∨
        a.1.2.priority.rank = b.1.2.priority.rank ∧ (a.1.1 = b.1.1 → a.2 ≤ b.2))

theorem place_le_of_settled {a b : Placed} (hbase : a.1.1 = b.1.1) (hab : Settled a b)
    (hba : Settled b a) : a.2 ≤ b.2 := by
  unfold Settled at hab hba
  rw [hbase] at hab hba
  rcases hab with hlength | ⟨-, hrank | ⟨hrank, hplace⟩⟩
  · exact absurd hlength (Nat.lt_irrefl _)
  · omega
  · exact hplace rfl

theorem ranked_pairwise_settled (h : (slots.map fun slot => baseOfKey slot.1).Nodup) :
    ((ranked compiles slots).map (·.1)).Pairwise Settled := by
  have hbefore : (ranked compiles slots).Pairwise fun a b =>
      (a.1.matcher a.2).before (b.1.matcher b.2) :=
    List.pairwise_mergeSort
      (fun a b c => Matcher.before_trans (a.1.matcher a.2) (b.1.matcher b.2) (c.1.matcher c.2))
      (fun a b => Matcher.before_total (a.1.matcher a.2) (b.1.matcher b.2)) _
  rw [List.pairwise_map]
  refine hbefore.imp_of_mem ?_
  rintro ⟨a, i⟩ ⟨b, j⟩ ha hb hab
  rw [Matcher.before_iff] at hab
  -- The numbers of two rules of one base path are in the order of their places.
  have hplace (hnumber : i ≤ j) (hbase : a.1.1 = b.1.1) : a.2 ≤ b.2 := by
    obtain ⟨hi, hget⟩ := List.mem_zipIdx' ((List.mergeSort_perm _ _).subset ha)
    obtain ⟨hj, hget'⟩ := List.mem_zipIdx' ((List.mergeSort_perm _ _).subset hb)
    rcases Nat.lt_or_eq_of_le hnumber with hlt | rfl
    · have hpair := List.pairwise_iff_getElem.1 (placed_pairwise h) i j hi hj hlt
      rw [← hget, ← hget'] at hpair
      exact Nat.le_of_lt (hpair hbase)
    · rw [hget, hget']
  rcases hab with hlength | ⟨hlength, hrank | ⟨hrank, hnumber⟩⟩
  · exact .inl hlength
  · exact .inr ⟨hlength, .inl hrank⟩
  · exact .inr ⟨hlength, .inr ⟨hrank, hplace hnumber⟩⟩

theorem mem_accepting {path : Text} {query : Option Text} {entry : Placed × Text}
    (h : entry ∈ accepting compiles slots path query) :
    entry.1 ∈ placed compiles slots ∧ entry.1.target? path query = some entry.2 := by
  obtain ⟨place, hplace, htarget⟩ := List.mem_filterMap.1 h
  obtain ⟨target, hfound, rfl⟩ := Option.map_eq_some_iff.1 htarget
  exact ⟨map_fst_ranked_perm.subset hplace, hfound⟩

section Separate

variable (h : slots.Separate)

include h

/-- A placed rule accepts only paths under its base path. -/
theorem isUnder_of_mem_accepting {path : Text} {query : Option Text} {entry : Placed × Text}
    (hentry : entry ∈ accepting compiles slots path query) :
    entry.1.1.1.head? = some '/' ∧ Path.isUnder path entry.1.1.1 := by
  obtain ⟨hplace, htarget⟩ := mem_accepting hentry
  obtain ⟨slot, hslot, hbase⟩ := exists_slot_of_mem_placed hplace
  have hhead : entry.1.1.1.head? = some '/' := by
    rw [hbase]
    exact baseOfKey_head? slot.1
  have hliteral : (entry.1.matcher 0).pattern.isDynamic = false := by
    rw [Matcher.pattern, Placed.matcher, hbase]
    exact h.literal slot hslot
  exact ⟨hhead, Matcher.isUnder_of_resolve? hhead hliteral htarget⟩

/-- Placed rules that accept one path have the same base path or nested ones. -/
theorem nested_of_mem_accepting {path : Text} {query : Option Text} {a b : Placed × Text}
    (ha : a ∈ accepting compiles slots path query) (hb : b ∈ accepting compiles slots path query)
    (hne : a.1.1.1 ≠ b.1.1.1) :
    a.1.1.1.length ≠ b.1.1.1.length ∧
      (b.1.1.1.length < a.1.1.1.length → Path.steps b.1.1.1 <+: Path.steps a.1.1.1) := by
  obtain ⟨hhead, hunder⟩ := isUnder_of_mem_accepting h ha
  obtain ⟨hhead', hunder'⟩ := isUnder_of_mem_accepting h hb
  exact Path.nested_of_isUnder hhead hhead' hunder hunder' hne

theorem accepting_pairwise_settled (path : Text) (query : Option Text) :
    (accepting compiles slots path query).Pairwise fun a b => Settled a.1 b.1 := by
  rw [accepting, List.pairwise_filterMap]
  refine (ranked_pairwise_settled h.distinct).imp ?_
  intro a b hab x hx y hy
  obtain ⟨-, -, rfl⟩ := Option.map_eq_some_iff.1 hx
  obtain ⟨-, -, rfl⟩ := Option.map_eq_some_iff.1 hy
  exact hab

/-- Whatever the order and the grouping of the slots, the same placed rules
accept a path, in the same order. -/
theorem accepting_eq_of_perm {other : Slots} (hperm : other.Perm slots) (path : Text)
    (query : Option Text) :
    accepting compiles other path query = accepting compiles slots path query := by
  have hother : other.Separate := h.perm hperm
  have hplaced : (placed compiles other).Perm (placed compiles slots) := hperm.flatMap_right _
  have hsame : (accepting compiles other path query).Perm (accepting compiles slots path query) :=
    ((map_fst_ranked_perm.trans hplaced).trans map_fst_ranked_perm.symm).filterMap _
  refine hsame.eq_of_pairwise ?_ (accepting_pairwise_settled hother path query)
    (accepting_pairwise_settled h path query)
  -- Two rules that are settled both ways have base paths of one length, and so one base path.
  intro a b ha hb hab hba
  have ha' := hsame.subset ha
  have hbase : a.1.1.1 = b.1.1.1 := by
    by_contra hne
    have hlength := (nested_of_mem_accepting h ha' hb hne).1
    unfold Settled at hab hba
    omega
  have hplace : a.1.2 = b.1.2 :=
    Nat.le_antisymm (place_le_of_settled hbase hab hba) (place_le_of_settled hbase.symm hba hab)
  obtain ⟨hmem, htarget⟩ := mem_accepting ha'
  obtain ⟨hmem', htarget'⟩ := mem_accepting hb
  have hplaced := eq_of_mem_placed h.distinct hmem hmem' hbase hplace
  rw [hplaced, htarget'] at htarget
  exact Prod.ext hplaced (Option.some.inj htarget).symm

end Separate

/-- What the candidates of a request show where they are nested: base paths that
differ have different lengths, the segments of the shorter are the first ones of
the longer, and the longer comes first. -/
structure Nested (candidates : List (Text × Rule × Text)) : Prop where
  lengths : ∀ a ∈ candidates, ∀ b ∈ candidates, a.1 ≠ b.1 → a.1.length ≠ b.1.length
  within : ∀ a ∈ candidates, ∀ b ∈ candidates, b.1.length < a.1.length →
    Path.steps b.1 <+: Path.steps a.1
  longer_first : candidates.Pairwise fun a b => a.1 ≠ b.1 → b.1.length < a.1.length

theorem candidates_nested (h : slots.Separate) (path : Text) (query : Option Text) :
    Nested (((ofSlots compiles slots).candidates path query).map shown) := by
  rw [map_shown_candidates]
  constructor
  case lengths =>
    intro a ha b hb hne
    obtain ⟨x, hx, rfl⟩ := List.mem_map.1 ha
    obtain ⟨y, hy, rfl⟩ := List.mem_map.1 hb
    exact (nested_of_mem_accepting h hx hy hne).1
  case within =>
    intro a ha b hb hlength
    obtain ⟨x, hx, rfl⟩ := List.mem_map.1 ha
    obtain ⟨y, hy, rfl⟩ := List.mem_map.1 hb
    dsimp only at hlength ⊢
    have hne : x.1.1.1 ≠ y.1.1.1 := by
      intro hbase
      rw [hbase] at hlength
      exact Nat.lt_irrefl _ hlength
    exact (nested_of_mem_accepting h hx hy hne).2 hlength
  case longer_first =>
    rw [List.pairwise_map]
    refine (accepting_pairwise_settled h path query).imp_of_mem ?_
    intro a b ha hb hab hne
    have hlength := (nested_of_mem_accepting h ha hb hne).1
    rcases hab with hlt | ⟨heq, -⟩
    · exact hlt
    · exact absurd heq hlength

/-- Where base paths are literal and distinct, candidates are nested, and they
show the same for every document that has the same slots in another order or in
other groups. -/
theorem candidates_rearranged (compiles : Text → Bool) (document moved : RuleDocument)
    {tree other : Json.Members} (htree : document.tree? = some tree)
    (hother : moved.tree? = some other) (hseparate : (Slots.stream tree).Separate)
    (hperm : (Slots.stream other).Perm (Slots.stream tree)) (path : Text) (query : Option Text) :
    ∃ router router', ofDocument? document compiles = some router ∧
      ofDocument? moved compiles = some router' ∧
      Nested ((router.candidates path query).map shown) ∧
      (router'.candidates path query).map shown = (router.candidates path query).map shown := by
  have hslots : (Slots.ofTree tree).Separate := Slots.separate_ofTree hseparate
  refine ⟨_, _, ofDocument?_of_tree htree, ofDocument?_of_tree hother,
    candidates_nested hslots path query, ?_⟩
  rw [map_shown_candidates, map_shown_candidates,
    accepting_eq_of_perm hslots (Slots.ofTree_perm hseparate hperm)]

/-- Slots that are nested in each other. -/
def nestedTree : Json.Members :=
  [("/", .text "https://front.example".toList),
    ("/docs", .list [.text "https://docs.example".toList, .text "https://old.example".toList]),
    ("/docs/api", .object [("to", .text "https://api.example".toList)])]

/-- The slots of `nestedTree` in another order, two of them in a group. -/
def groupedTree : Json.Members :=
  [("/docs/api", .object [("to", .text "https://api.example".toList)]),
    ("pages", .object
      [("/docs", .list [.text "https://docs.example".toList, .text "https://old.example".toList]),
        ("/", .text "https://front.example".toList)])]

theorem nestedTree_candidates_rearranged :
    (RuleDocument.tree? { members := [("slots", .object nestedTree)] } = some nestedTree ∧
      RuleDocument.tree? { members := [("slots", .object groupedTree)] } = some groupedTree ∧
      (Slots.stream nestedTree).Separate ∧
      (Slots.stream groupedTree).Perm (Slots.stream nestedTree)) ∧
    ∃ router router', ofDocument? { members := [("slots", .object nestedTree)] }
        (fun _ => true) = some router ∧
      ofDocument? { members := [("slots", .object groupedTree)] } (fun _ => true) = some router' ∧
      Nested ((router.candidates "/docs/api/v1".toList none).map shown) ∧
      (router'.candidates "/docs/api/v1".toList none).map shown =
        (router.candidates "/docs/api/v1".toList none).map shown := by
  have hseparate : (Slots.stream nestedTree).Separate := by
    simp only [Slots.stream, nestedTree]
    exact ⟨by decide, by decide⟩
  have hreverse : Slots.stream groupedTree = (Slots.stream nestedTree).reverse := by
    simp [Slots.stream, groupedTree, nestedTree]
  have hperm : (Slots.stream groupedTree).Perm (Slots.stream nestedTree) := by
    rw [hreverse]
    exact List.reverse_perm _
  exact ⟨⟨rfl, rfl, hseparate, hperm⟩,
    candidates_rearranged (fun _ => true) _ _ rfl rfl hseparate hperm "/docs/api/v1".toList none⟩

end Router

end RuleGateway
