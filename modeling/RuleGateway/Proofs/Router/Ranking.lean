import Mathlib.Data.List.Nodup
import RuleGateway.Proofs.Rule.Bounds
import RuleGateway.Proofs.Rule.Flattening
import RuleGateway.Router.Basic

/-!
# The ranking of matchers

A router holds one matcher for each declared rule whose base path has a pattern,
numbered in flattened order, and tries them in a strict order: two different
matchers never rank the same, so the list is the only sorted one. `Ranks` says
all of this about a list of matchers and a slot tree, and the main statement is
that the router of every document with a slot tree ranks its rules.
-/

namespace RuleGateway

theorem baseOfKey_head? (key : Text) : (baseOfKey key).head? = some '/' := by
  have hstart (base : Text) (h : base.head? = some '/') :
      (if 1 < base.length then Text.dropFinalSlash base else base).head? = some '/' := by
    cases base with
    | nil => simp at h
    | cons c rest =>
      cases rest with
      | nil => simpa using h
      | cons d rest =>
        simp only [Text.dropFinalSlash]
        repeat' split
        all_goals simpa using h
  rw [baseOfKey]
  by_cases h : key.head? = some '/'
  · simpa [h] using hstart key h
  · simpa [h] using hstart ('/' :: key) rfl

namespace Matcher

/-- The strict order in which matchers are tried: the longer base path first,
then the lesser priority in the total order of doubles, then the one declared
first. -/
def Precedes (a b : Matcher) : Prop :=
  b.base.length < a.base.length ∨
    a.base.length = b.base.length ∧
      (a.rule.priority.Before b.rule.priority ∨
        a.rule.priority = b.rule.priority ∧ a.sequence < b.sequence)

theorem before_iff (a b : Matcher) :
    a.before b ↔ b.base.length < a.base.length ∨
      a.base.length = b.base.length ∧
        (a.rule.priority.rank < b.rule.priority.rank ∨
          a.rule.priority.rank = b.rule.priority.rank ∧ a.sequence ≤ b.sequence) := by
  rw [before]
  split
  · simp only [decide_eq_true_eq]
    omega
  · split <;> simp only [decide_eq_true_eq] <;> omega

theorem before_trans (a b c : Matcher) (hab : a.before b) (hbc : b.before c) : a.before c := by
  rw [before_iff] at hab hbc ⊢
  omega

theorem before_total (a b : Matcher) : a.before b || b.before a := by
  rw [Bool.or_eq_true, before_iff, before_iff]
  omega

theorem precedes_iff (a b : Matcher) :
    a.Precedes b ↔ b.base.length < a.base.length ∨
      a.base.length = b.base.length ∧
        (a.rule.priority.rank < b.rule.priority.rank ∨
          a.rule.priority.rank = b.rule.priority.rank ∧ a.sequence < b.sequence) := by
  have hrank : a.rule.priority.rank = b.rule.priority.rank ↔
      a.rule.priority = b.rule.priority :=
    ⟨Binary64.rank_injective, fun h => h ▸ rfl⟩
  rw [Precedes, Binary64.rank_lt_rank_iff, hrank]

theorem Precedes.asymm {a b : Matcher} (hab : a.Precedes b) : ¬ b.Precedes a := by
  rw [precedes_iff] at hab ⊢
  omega

/-- Matchers with different numbers are never tied. -/
theorem precedes_or_precedes {a b : Matcher} (h : a.sequence ≠ b.sequence) :
    a.Precedes b ∨ b.Precedes a := by
  rw [precedes_iff, precedes_iff]
  omega

theorem precedes_of_before {a b : Matcher} (hab : a.before b) (h : a.sequence ≠ b.sequence) :
    a.Precedes b := by
  rw [before_iff] at hab
  rw [precedes_iff]
  omega

theorem sequence_eq_of_before {a b : Matcher} (hab : a.before b) (hba : b.before a) :
    a.sequence = b.sequence := by
  rw [before_iff] at hab hba
  omega

end Matcher

namespace Router

/-- The declared rules that get a matcher, in flattened order: one key after the
other as they first appear, and the rules of a key in document order. The rules
of a key are left out if its base path has no pattern. -/
def sources (compiles : Text → Bool) (slots : Slots) : List (Text × Declared) :=
  (Slots.flatten slots).filter fun source => compiles (baseOfKey source.1)

/-- The place of a source among those of its key, counted from one. -/
def positionOf (sources : List (Text × Declared)) (key : Text) (number : Nat) : Nat :=
  (sources.take (number + 1)).countP (·.1 == key)

/-- The base path and the rule of the source with a number. -/
def ruleOf (sources : List (Text × Declared)) (numbered : (Text × Declared) × Nat) : Text × Rule :=
  let ((key, rule), number) := numbered
  (baseOfKey key, Rule.ofDeclared rule (positionOf sources key number))

/-- The matcher of the source with a number. -/
def matcherOf (sources : List (Text × Declared)) (numbered : (Text × Declared) × Nat) : Matcher :=
  let (base, rule) := ruleOf sources numbered
  { base, rule, sequence := numbered.2 }

variable (compiles : Text → Bool)

theorem sources_cons (key : Text) (rules : List Declared) (slots : Slots) :
    sources compiles ((key, rules) :: slots) =
      (if compiles (baseOfKey key) then rules.map (key, ·) else []) ++ sources compiles slots := by
  rw [sources, sources, Slots.flatten_cons, List.filter_append]
  by_cases h : compiles (baseOfKey key) <;> simp [h]

theorem declared_cons (key : Text) (rules : List Declared) (slots : Slots) :
    declared compiles ((key, rules) :: slots) =
      (if compiles (baseOfKey key) then rulesAt key rules else []) ++ declared compiles slots := rfl

theorem mem_keys_of_mem_sources {slots : Slots} {source : Text × Declared}
    (h : source ∈ sources compiles slots) : source.1 ∈ slots.map (·.1) := by
  obtain ⟨⟨key, rules⟩, hslot, hrule⟩ := List.mem_flatMap.1 (List.mem_filter.1 h).1
  obtain ⟨rule, -, rfl⟩ := List.mem_map.1 hrule
  exact List.mem_map.2 ⟨(key, rules), hslot, rfl⟩

/-- In the slot that stands first, positions count up from one. -/
theorem positionOf_first (key : Text) (rules : List Declared) (rest : List (Text × Declared))
    {i : Nat} (h : i < rules.length) : positionOf (rules.map (key, ·) ++ rest) key i = i + 1 := by
  have hall : ∀ rule ∈ rules.take (i + 1), ((·.1 == key) ∘ (key, ·)) rule = true := by
    intro rule _
    simp
  rw [positionOf, List.take_append_of_le_length (by simpa using Nat.succ_le_of_lt h),
    ← List.map_take, List.countP_map, List.countP_eq_length.2 hall, List.length_take]
  omega

/-- Rules of another key in front do not count. -/
theorem positionOf_behind (key : Text) (rules : List Declared) (rest : List (Text × Declared))
    {other : Text} (h : other ≠ key) (i : Nat) :
    positionOf (rules.map (key, ·) ++ rest) other ((rules.map (key, ·)).length + i) =
      positionOf rest other i := by
  have hnone : (rules.map (key, ·)).countP (·.1 == other) = 0 := by
    simp [List.countP_eq_zero, Ne.symm h]
  rw [positionOf, Nat.add_assoc, List.take_length_add_append, List.countP_append, hnone,
    Nat.zero_add, positionOf]

theorem map_ruleOf_first (key : Text) (rules : List Declared) (rest : List (Text × Declared)) :
    (rules.map (key, ·)).zipIdx.map (ruleOf (rules.map (key, ·) ++ rest)) = rulesAt key rules := by
  rw [rulesAt, List.zipIdx_map, List.map_map]
  apply List.map_congr_left
  rintro ⟨rule, i⟩ hi
  have hlt : i < rules.length := (List.mem_zipIdx' hi).1
  simp only [Function.comp_apply, Prod.map, id, ruleOf]
  rw [positionOf_first key rules rest hlt]

theorem map_ruleOf_behind (key : Text) (rules : List Declared) {rest : List (Text × Declared)}
    (h : ∀ source ∈ rest, source.1 ≠ key) :
    (rest.zipIdx (rules.map (key, ·)).length).map (ruleOf (rules.map (key, ·) ++ rest)) =
      rest.zipIdx.map (ruleOf rest) := by
  rw [List.zipIdx_eq_map_add (i := (rules.map (key, ·)).length), List.map_map]
  apply List.map_congr_left
  rintro ⟨source, i⟩ hi
  have hne : source.1 ≠ key := h source (List.fst_mem_of_mem_zipIdx hi)
  simp only [Function.comp_apply, ruleOf]
  rw [positionOf_behind key rules rest hne]

/-- With each key in one slot, the positions within a slot are those that the
sources before a rule give it. -/
theorem declared_eq_map_sources {slots : Slots} (h : (slots.map (·.1)).Nodup) :
    declared compiles slots =
      (sources compiles slots).zipIdx.map (ruleOf (sources compiles slots)) := by
  induction slots with
  | nil => rfl
  | cons slot slots ih =>
    obtain ⟨key, rules⟩ := slot
    rw [List.map_cons, List.nodup_cons] at h
    rw [sources_cons, declared_cons, ih h.2]
    by_cases hc : compiles (baseOfKey key)
    · have hother : ∀ source ∈ sources compiles slots, source.1 ≠ key := by
        rintro source hsource rfl
        exact h.1 (mem_keys_of_mem_sources compiles hsource)
      rw [if_pos hc, if_pos hc, List.zipIdx_append, List.map_append, Nat.zero_add,
        map_ruleOf_first, map_ruleOf_behind key rules hother]
    · rw [if_neg hc, if_neg hc, List.nil_append, List.nil_append]

/-- The matchers in declaration order are those of the sources, numbered. -/
theorem enumerate_eq_map_sources {slots : Slots} (h : (slots.map (·.1)).Nodup) :
    enumerate compiles slots =
      (sources compiles slots).zipIdx.map (matcherOf (sources compiles slots)) := by
  rw [enumerate, declared_eq_map_sources compiles h]
  apply List.ext_getElem
  · simp
  · intro i _ _
    simp [matcherOf]

/-- The rules that a slot tree declares at base paths with a pattern, in
flattened order. -/
def sourcesOf (tree : Json.Members) : List (Text × Declared) :=
  sources compiles (Slots.gathered (Slots.declarations tree))

theorem sourcesOf_perm (tree : Json.Members) :
    (sourcesOf compiles tree).Perm
      ((Slots.declarations tree).filter fun source => compiles (baseOfKey source.1)) :=
  (Slots.flatten_gathered_perm _).filter _

theorem enumerate_ofTree (tree : Json.Members) :
    enumerate compiles (Slots.ofTree tree) =
      (sourcesOf compiles tree).zipIdx.map (matcherOf (sourcesOf compiles tree)) := by
  have hkeys : ((Slots.gathered (Slots.declarations tree)).map (·.1)).Nodup := by
    rw [Slots.keys_gathered]
    exact Slots.nodup_firstKeys _
  rw [Slots.ofTree_eq_gathered, enumerate_eq_map_sources compiles hkeys, sourcesOf]

theorem map_sequence_enumerate (slots : Slots) :
    (enumerate compiles slots).map (·.sequence) = List.range (enumerate compiles slots).length := by
  apply List.ext_getElem
  · simp
  · intro i _ _
    simp [enumerate]

/-- What a list of matchers has to be for a slot tree: the matchers of the
declared rules, each once and numbered in flattened order, in the one order that
is strictly sorted. -/
structure Ranks (tree : Json.Members) (matchers : List Matcher) : Prop where
  declared_once : (sourcesOf compiles tree).Perm
    ((Slots.declarations tree).filter fun source => compiles (baseOfKey source.1))
  matcher_once : matchers.Perm
    ((sourcesOf compiles tree).zipIdx.map (matcherOf (sourcesOf compiles tree)))
  numbered : (matchers.map (·.sequence)).Perm (List.range matchers.length)
  sorted : matchers.Pairwise Matcher.Precedes
  untied : ∀ a ∈ matchers, ∀ b ∈ matchers, a ≠ b →
    a.Precedes b ∧ ¬ b.Precedes a ∨ b.Precedes a ∧ ¬ a.Precedes b
  unique : ∀ other : List Matcher, other.Perm matchers →
    other.Pairwise (fun a b => a.before b) → other = matchers
  settled : matchers.mergeSort Matcher.before = matchers
  rooted : ∀ m ∈ matchers, m.base.head? = some '/'
  status_bounds : ∀ m ∈ matchers, 100 ≤ m.rule.status ∧ m.rule.status ≤ 599
  finite : ∀ m ∈ matchers, m.rule.priority.isFinite

section Sorted

variable {compiles} {slots : Slots}

theorem ofSlots_perm : (ofSlots compiles slots).matchers.Perm (enumerate compiles slots) :=
  List.mergeSort_perm ..

theorem ofSlots_pairwise_before :
    (ofSlots compiles slots).matchers.Pairwise fun a b => a.before b :=
  List.pairwise_mergeSort Matcher.before_trans Matcher.before_total _

theorem ofSlots_numbered :
    ((ofSlots compiles slots).matchers.map (·.sequence)).Perm
      (List.range (ofSlots compiles slots).matchers.length) := by
  rw [ofSlots_perm.length_eq, ← map_sequence_enumerate]
  exact ofSlots_perm.map _

theorem ofSlots_nodup_sequence : ((ofSlots compiles slots).matchers.map (·.sequence)).Nodup :=
  ofSlots_numbered.nodup_iff.2 List.nodup_range

/-- Every matcher has a number of its own. -/
theorem eq_of_sequence_eq {a b : Matcher} (ha : a ∈ (ofSlots compiles slots).matchers)
    (hb : b ∈ (ofSlots compiles slots).matchers) (h : a.sequence = b.sequence) : a = b :=
  List.inj_on_of_nodup_map ofSlots_nodup_sequence ha hb h

theorem ofSlots_pairwise_precedes :
    (ofSlots compiles slots).matchers.Pairwise Matcher.Precedes := by
  have hnumbers : (ofSlots compiles slots).matchers.Pairwise fun a b => a.sequence ≠ b.sequence :=
    List.pairwise_map.1 ofSlots_nodup_sequence
  exact (ofSlots_pairwise_before.and hnumbers).imp fun h => Matcher.precedes_of_before h.1 h.2

/-- Any order of the same matchers that the sort would leave alone is the one
they have. -/
theorem eq_of_perm_of_pairwise_before {other : List Matcher}
    (hperm : other.Perm (ofSlots compiles slots).matchers)
    (hsorted : other.Pairwise fun a b => a.before b) :
    other = (ofSlots compiles slots).matchers := by
  refine hperm.eq_of_pairwise ?_ hsorted ofSlots_pairwise_before
  intro a b ha hb hab hba
  exact eq_of_sequence_eq (hperm.subset ha) hb (Matcher.sequence_eq_of_before hab hba)

/-- Every matcher was made of a key and a declaration. -/
theorem exists_declared_of_mem {m : Matcher} (h : m ∈ (ofSlots compiles slots).matchers) :
    ∃ key rule position, m.base = baseOfKey key ∧ m.rule = Rule.ofDeclared rule position := by
  have hm : m ∈ enumerate compiles slots := ofSlots_perm.subset h
  obtain ⟨⟨⟨base, rule⟩, number⟩, hnumbered, rfl⟩ := List.mem_map.1 hm
  have hentry : (base, rule) ∈ declared compiles slots := List.fst_mem_of_mem_zipIdx hnumbered
  obtain ⟨⟨key, rules⟩, -, hslot⟩ := List.mem_flatMap.1 hentry
  by_cases hc : compiles (baseOfKey key)
  · simp only [hc, if_true] at hslot
    obtain ⟨⟨declaration, i⟩, -, hrule⟩ := List.mem_map.1 hslot
    cases hrule
    exact ⟨key, declaration, i + 1, rfl, rfl⟩
  · simp [hc] at hslot

end Sorted

variable {compiles} in
/-- A document with a slot tree has the router of the flattened tree. -/
theorem ofDocument?_of_tree {document : RuleDocument} {tree : Json.Members}
    (h : document.tree? = some tree) :
    ofDocument? document compiles = some (ofSlots compiles (Slots.ofTree tree)) := by
  rw [ofDocument?, h]
  rfl

/-- A document whose only slot makes one matcher. -/
theorem ofDocument?_of_lone {document : RuleDocument} {tree : Json.Members} {slots : Slots}
    {matcher : Matcher} (h : document.tree? = some tree) (hslots : Slots.ofTree tree = slots)
    (hmatcher : enumerate compiles slots = [matcher]) :
    ofDocument? document compiles = some { matchers := [matcher] } := by
  rw [ofDocument?_of_tree h, hslots, ofSlots, hmatcher, List.mergeSort_singleton]

/-- The candidates are the matchers that resolve the request, with the targets. -/
theorem mem_candidates_iff {router : Router} {matcher : Matcher} {path target : Text}
    {query : Option Text} :
    (matcher, target) ∈ router.candidates path query ↔
      matcher ∈ router.matchers ∧ matcher.resolve? path query = some target := by
  rw [candidates, List.mem_filterMap]
  constructor
  · rintro ⟨found, hfound, hresolve⟩
    obtain ⟨resolved, hresolved, hpair⟩ := Option.map_eq_some_iff.1 hresolve
    cases hpair
    exact ⟨hfound, hresolved⟩
  · rintro ⟨hmatcher, htarget⟩
    refine ⟨matcher, hmatcher, ?_⟩
    rw [htarget, Option.map_some]

/-- The router of a document ranks the rules that its slot tree declares. -/
theorem exists_ofDocument?_ranks (document : RuleDocument) {tree : Json.Members}
    (h : document.tree? = some tree) :
    ∃ router, ofDocument? document compiles = some router ∧
      Ranks compiles tree router.matchers := by
  refine ⟨_, ofDocument?_of_tree h, ?_⟩
  refine
    { declared_once := sourcesOf_perm compiles tree
      matcher_once := enumerate_ofTree compiles tree ▸ ofSlots_perm
      numbered := ofSlots_numbered
      sorted := ofSlots_pairwise_precedes
      untied := ?_
      unique := fun other => eq_of_perm_of_pairwise_before
      settled := List.mergeSort_of_pairwise ofSlots_pairwise_before
      rooted := ?_
      status_bounds := ?_
      finite := ?_ }
  · intro a ha b hb hne
    have hnumber : a.sequence ≠ b.sequence := fun heq => hne (eq_of_sequence_eq ha hb heq)
    rcases Matcher.precedes_or_precedes hnumber with hab | hba
    · exact .inl ⟨hab, hab.asymm⟩
    · exact .inr ⟨hba, hba.asymm⟩
  · intro m hm
    obtain ⟨key, -, -, hbase, -⟩ := exists_declared_of_mem hm
    rw [hbase]
    exact baseOfKey_head? key
  · intro m hm
    obtain ⟨-, rule, position, -, hrule⟩ := exists_declared_of_mem hm
    rw [hrule]
    exact Rule.status_ofDeclared_bounds rule position
  · intro m hm
    obtain ⟨-, rule, position, -, hrule⟩ := exists_declared_of_mem hm
    rw [hrule]
    exact Rule.isFinite_priority_ofDeclared rule position

/-- A slot tree that declares rules of one key in two places. -/
def scatteredTree : Json.Members :=
  [("/a", .list [.text "/x".toList, .number (.whole 7)]),
    ("/b/*", .text "/z".toList),
    ("group", .object [("/a", .object [("to", .text "/y".toList)]), ("/c", .bool true)])]

theorem scatteredTree_ranks :
    RuleDocument.tree? { members := [("slots", .object scatteredTree)] } = some scatteredTree ∧
      ∃ router, ofDocument? { members := [("slots", .object scatteredTree)] }
          (fun base => base != "/b/*".toList) = some router ∧
        Ranks (fun base => base != "/b/*".toList) scatteredTree router.matchers :=
  ⟨rfl, exists_ofDocument?_ranks _ _ rfl⟩

example : (sourcesOf (fun _ => true) scatteredTree).map (·.1) =
    ["/a".toList, "/a".toList, "/b/*".toList] := by cbv

end Router

end RuleGateway
