import RuleGateway.Proofs.Router.Rearrangement

/-!
# Rules that a path does not meet

Rules are sorted, and sorting is stable: what is left of the sorted rules when some
are taken out is what the others are sorted to. A slot whose rules do not accept a
path is therefore as good as absent for it, wherever the slot stands and however its
rules rank. The main statement, `candidates_inserted`, says so of flattened slots and
of a slot that is put into the tree of a document, at any place and in any group.
-/

namespace RuleGateway

section Stable

variable {α : Type} {le : α → α → Bool} (htrans : ∀ a b c, le a b → le b c → le a c)
variable (htotal : ∀ a b, le a b || le b a)

include htrans htotal

/-- An element is sorted in behind those that come strictly before it. -/
theorem mergeSort_cons_eq (a : α) (l : List α) :
    (a :: l).mergeSort le =
      (l.mergeSort le).filter (!le a ·) ++ a :: (l.mergeSort le).filter (le a ·) := by
  obtain ⟨front, back, hcons, hrest, hfront⟩ := List.mergeSort_cons htrans htotal a l
  have hsorted := List.pairwise_mergeSort htrans htotal (a :: l)
  rw [hcons, List.pairwise_append, List.pairwise_cons] at hsorted
  have hback : ∀ b ∈ back, le a b := hsorted.2.1.1
  have hnone : back.filter (!le a ·) = [] := by simpa [List.filter_eq_nil_iff] using hback
  have hnone' : front.filter (le a ·) = [] := by simpa [List.filter_eq_nil_iff] using hfront
  rw [hcons, hrest, List.filter_append, List.filter_append, hnone, hnone',
    List.filter_eq_self.2 hfront, List.filter_eq_self.2 hback, List.append_nil, List.nil_append]

/-- It is the same to take elements out before sorting and after it. -/
theorem filter_mergeSort (p : α → Bool) (l : List α) :
    (l.mergeSort le).filter p = (l.filter p).mergeSort le := by
  induction l with
  | nil => simp
  | cons a l ih =>
    by_cases ha : p a
    · have hcomm (q : α → Bool) :
          ((l.mergeSort le).filter q).filter p = ((l.filter p).mergeSort le).filter q := by
        rw [← ih, List.filter_comm]
      rw [mergeSort_cons_eq htrans htotal, List.filter_append, List.filter_cons_of_pos ha, hcomm,
        hcomm, List.filter_cons_of_pos ha, mergeSort_cons_eq htrans htotal]
    · obtain ⟨front, back, hcons, hrest, -⟩ := List.mergeSort_cons htrans htotal a l
      rw [hcons, List.filter_append, List.filter_cons_of_neg ha, List.filter_cons_of_neg ha, ← ih,
        hrest, List.filter_append]

/-- What becomes of nothing has no part in what the sorted elements become. -/
theorem filterMap_mergeSort_append {β : Type} {f : α → Option β} {front middle back : List α}
    (h : ∀ a ∈ middle, f a = none) :
    ((front ++ (middle ++ back)).mergeSort le).filterMap f =
      ((front ++ back).mergeSort le).filterMap f := by
  have hkept (l : List α) : l.filterMap f = (l.filter fun a => (f a).isSome).filterMap f := by
    rw [List.filterMap_filter]
    congr 1
    funext a
    cases f a <;> rfl
  have hmiddle : middle.filter (fun a => (f a).isSome) = [] := by
    rw [List.filter_eq_nil_iff]
    intro a ha
    simp [h a ha]
  rw [hkept, hkept ((front ++ back).mergeSort le), filter_mergeSort htrans htotal,
    filter_mergeSort htrans htotal, List.filter_append, List.filter_append, hmiddle,
    List.nil_append, List.filter_append]

end Stable

namespace Router

/-- Whether a rule at its base path is tried before another or has the same rank.
Rules of the same rank are tried in the order of declaration. -/
def ahead (a b : Text × Rule) : Bool :=
  b.1.length < a.1.length ||
    a.1.length == b.1.length && a.2.priority.rank ≤ b.2.priority.rank

/-- What a rule at its base path shows as a candidate, if it is one. -/
def candidate? (path : Text) (query : Option Text) (declared : Text × Rule) :
    Option (Text × Rule × Text) :=
  (Matcher.resolve? { base := declared.1, rule := declared.2, sequence := 0 } path query).map
    (declared.1, declared.2, ·)

theorem ahead_iff (a b : Text × Rule) :
    ahead a b ↔ b.1.length < a.1.length ∨
      a.1.length = b.1.length ∧ a.2.priority.rank ≤ b.2.priority.rank := by
  simp [ahead]

theorem ahead_trans (a b c : Text × Rule) (hab : ahead a b) (hbc : ahead b c) : ahead a c := by
  rw [ahead_iff] at hab hbc ⊢
  omega

theorem ahead_total (a b : Text × Rule) : ahead a b || ahead b a := by
  rw [Bool.or_eq_true, ahead_iff, ahead_iff]
  omega

/-- The number of a matcher decides where its rank does not. -/
theorem before_eq_zipIdxLE (a b : (Text × Rule) × Nat) :
    Matcher.before { base := a.1.1, rule := a.1.2, sequence := a.2 }
        { base := b.1.1, rule := b.1.2, sequence := b.2 } =
      List.zipIdxLE ahead a b := by
  rw [Bool.eq_iff_iff, Matcher.before_iff, List.zipIdxLE]
  dsimp only
  split
  · rename_i hahead
    rw [ahead_iff] at hahead
    split
    · rename_i hbehind
      rw [ahead_iff] at hbehind
      rw [decide_eq_true_iff]
      omega
    · rename_i hbehind
      rw [ahead_iff] at hbehind
      exact iff_of_true (by omega) rfl
  · rename_i hahead
    rw [ahead_iff] at hahead
    exact iff_of_false (by omega) Bool.false_ne_true

variable (compiles : Text → Bool)

/-- The matchers are the declared rules in the order of their ranks. -/
theorem map_matchers (slots : Slots) :
    (ofSlots compiles slots).matchers.map (fun m => (m.base, m.rule)) =
      (declared compiles slots).mergeSort ahead := by
  have hsorted : (ofSlots compiles slots).matchers =
      ((declared compiles slots).zipIdx.mergeSort (List.zipIdxLE ahead)).map
        fun entry => { base := entry.1.1, rule := entry.1.2, sequence := entry.2 } := by
    rw [List.map_mergeSort (s := Matcher.before) fun a _ b _ => (before_eq_zipIdxLE a b).symm]
    rfl
  rw [hsorted, List.map_map, ← List.mergeSort_zipIdx (l := declared compiles slots)]
  rfl

/-- The candidates show the declared rules that accept the path, in that order. -/
theorem shown_candidates (slots : Slots) (path : Text) (query : Option Text) :
    ((ofSlots compiles slots).candidates path query).map shown =
      ((declared compiles slots).mergeSort ahead).filterMap (candidate? path query) := by
  rw [← map_matchers, List.filterMap_map, candidates, List.map_filterMap]
  congr 1
  funext matcher
  rw [Option.map_map]
  rfl

end Router

namespace Slots

variable {key : Text} {value : Json.Value} {tree grown : Json.Members}

/-- A tree gains a slot at some place, which may be in one of its groups or in a group
that it gains with the slot. -/
inductive Gains (key : Text) (value : Json.Value) : Json.Members → Json.Members → Prop
  | here (rest : Json.Members) : Gains key value rest ((key, value) :: rest)
  | later (entry : Text × Json.Value) {rest grown : Json.Members}
      (h : Gains key value rest grown) : Gains key value (entry :: rest) (entry :: grown)
  | within {name : Text} (hname : name.head? ≠ some '/') {group grown : Json.Members}
      (rest : Json.Members) (h : Gains key value group grown) :
      Gains key value ((name, .object group) :: rest) ((name, .object grown) :: rest)
  | grouped {name : Text} (hname : name.head? ≠ some '/') {group : Json.Members}
      (rest : Json.Members) (h : Gains key value [] group) :
      Gains key value rest ((name, .object group) :: rest)

theorem stream_cons (key : Text) (value : Json.Value) (rest : Json.Members) :
    stream ((key, value) :: rest) = stream [(key, value)] ++ stream rest := by
  cases value <;> simp [stream]

/-- The slot stands somewhere among the others when the tree is walked. -/
theorem Gains.exists_stream (hslash : key.head? = some '/') (h : Gains key value tree grown) :
    ∃ front back, stream tree = front ++ back ∧
      stream grown = front ++ (key, Declared.listOfValue value) :: back := by
  induction h with
  | here rest =>
    have hslot : stream [(key, value)] = [(key, Declared.listOfValue value)] := by
      cases value <;> simp [stream, hslash]
    refine ⟨[], stream rest, rfl, ?_⟩
    rw [stream_cons, hslot]
    rfl
  | later entry _ ih =>
    obtain ⟨name, old⟩ := entry
    obtain ⟨front, back, hstream, hgrown⟩ := ih
    refine ⟨stream [(name, old)] ++ front, back, ?_, ?_⟩
    · rw [stream_cons, hstream, List.append_assoc]
    · rw [stream_cons, hgrown, List.append_assoc]
  | within hname rest _ ih =>
    obtain ⟨front, back, hstream, hgrown⟩ := ih
    refine ⟨front, back ++ stream rest, ?_, ?_⟩
    · simp [stream, hname, hstream]
    · simp [stream, hname, hgrown]
  | grouped hname rest _ ih =>
    obtain ⟨front, back, hstream, hgrown⟩ := ih
    rw [stream] at hstream
    obtain ⟨rfl, rfl⟩ := List.nil_eq_append_iff.1 hstream
    exact ⟨[], stream rest, rfl, by simp [stream, hname, hgrown]⟩

section Fresh

variable {rules : List Declared} {front back : List (Text × Declared)}

theorem rulesOf_of_fresh {declared : List (Text × Declared)}
    (h : ∀ entry ∈ declared, entry.1 ≠ key) : rulesOf declared key = [] := by
  rw [rulesOf, List.map_eq_nil_iff, List.filter_eq_nil_iff]
  intro entry hentry
  simpa using h entry hentry

/-- The keys that declarations add to those that came before. -/
def laterKeys (front back : List (Text × Declared)) : List Text :=
  ((back.map (·.1)).removeAll (front.map (·.1))).eraseDups

theorem firstKeys_append (front back : List (Text × Declared)) :
    firstKeys (front ++ back) = firstKeys front ++ laterKeys front back := by
  rw [firstKeys, List.map_append, List.eraseDups_append]
  rfl

/-- A key that no other declaration has comes between those before and those behind. -/
theorem firstKeys_append_fresh (hfresh : ∀ entry ∈ front ++ back, entry.1 ≠ key)
    (hrules : rules ≠ []) :
    firstKeys (front ++ rules.map (key, ·) ++ back) =
      firstKeys front ++ key :: laterKeys front back := by
  have hfront : key ∉ firstKeys front := fun hmem => by
    obtain ⟨rule, hrule⟩ := mem_firstKeys.1 hmem
    exact hfresh _ (List.mem_append_left back hrule) rfl
  have hlater : laterKeys (front ++ rules.map (key, ·)) back = laterKeys front back := by
    rw [laterKeys, laterKeys]
    congr 1
    apply List.filter_congr
    intro other hother
    obtain ⟨entry, hentry, rfl⟩ := List.mem_map.1 hother
    have hnone : ((rules.map (key, ·)).map (·.1)).contains entry.1 = false := by
      rw [← Bool.not_eq_true, List.contains_iff_mem]
      intro hmem
      obtain ⟨added, hadded, hsame⟩ := List.mem_map.1 hmem
      obtain ⟨rule, -, rfl⟩ := List.mem_map.1 hadded
      exact hfresh entry (List.mem_append_right front hentry) hsame.symm
    rw [List.map_append, List.elem_eq_contains, List.elem_eq_contains, List.contains_append, hnone,
      Bool.or_false]
  rw [firstKeys_append, firstKeys_append_same front key hrules, if_neg hfront, hlater,
    List.append_assoc, List.singleton_append]

/-- Gathering puts the rules of a key that no other declaration has into one slot and
leaves all other slots as they are. -/
theorem exists_gathered_append (hfresh : ∀ entry ∈ front ++ back, entry.1 ≠ key)
    (hrules : rules ≠ []) :
    ∃ before behind, gathered (front ++ back) = before ++ behind ∧
      gathered (front ++ rules.map (key, ·) ++ back) = before ++ (key, rules) :: behind := by
  have hfront : ∀ entry ∈ front, entry.1 ≠ key := fun entry hentry =>
    hfresh entry (List.mem_append_left back hentry)
  have hback : ∀ entry ∈ back, entry.1 ≠ key := fun entry hentry =>
    hfresh entry (List.mem_append_right front hentry)
  have hown : rulesOf (front ++ rules.map (key, ·) ++ back) key = rules := by
    rw [rulesOf_append, rulesOf_append, rulesOf_map_same, rulesOf_of_fresh hfront,
      rulesOf_of_fresh hback, List.nil_append, List.append_nil]
  have hsame (keys : List Text) (hkeys : key ∉ keys) :
      keys.map (fun k => (k, rulesOf (front ++ rules.map (key, ·) ++ back) k)) =
        keys.map fun k => (k, rulesOf (front ++ back) k) := by
    apply List.map_congr_left
    intro k hk
    have hne : key ≠ k := by
      rintro rfl
      exact hkeys hk
    rw [rulesOf_append, rulesOf_append, rulesOf_map_other rules hne, List.append_nil,
      ← rulesOf_append]
  have hnone : key ∉ firstKeys front ++ laterKeys front back := by
    rw [← firstKeys_append]
    intro hmem
    obtain ⟨rule, hrule⟩ := mem_firstKeys.1 hmem
    exact hfresh _ hrule rfl
  rw [List.mem_append, not_or] at hnone
  refine ⟨(firstKeys front).map fun k => (k, rulesOf (front ++ back) k),
    (laterKeys front back).map fun k => (k, rulesOf (front ++ back) k), ?_, ?_⟩
  · rw [gathered, firstKeys_append, List.map_append]
  · rw [gathered, firstKeys_append_fresh hfresh hrules, List.map_append, List.map_cons, hown,
      hsame _ hnone.1, hsame _ hnone.2]

end Fresh

/-- The rules of the slot stand somewhere among those that the tree declares. -/
theorem Gains.exists_declarations (hslash : key.head? = some '/')
    (h : Gains key value tree grown) :
    ∃ front back, declarations tree = front ++ back ∧
      declarations grown = front ++ (Declared.listOfValue value).map (key, ·) ++ back := by
  obtain ⟨front, back, hstream, hgrown⟩ := h.exists_stream hslash
  refine ⟨flatten front, flatten back, ?_, ?_⟩
  · rw [declarations, hstream, flatten_append]
  · rw [declarations, hgrown, flatten_append, flatten_cons, List.append_assoc]

/-- A slot with a key that no other slot has stands somewhere among the others when
the tree is flattened, unless it has no rules and does not show. -/
theorem Gains.exists_ofTree (hslash : key.head? = some '/') (h : Gains key value tree grown)
    (hfresh : key ∉ (ofTree tree).map (·.1)) :
    Declared.listOfValue value = [] ∧ ofTree grown = ofTree tree ∨
      ∃ before behind, ofTree tree = before ++ behind ∧
        ofTree grown = before ++ (key, Declared.listOfValue value) :: behind := by
  obtain ⟨front, back, htree, hgrown⟩ := h.exists_declarations hslash
  rw [ofTree_eq_gathered, ofTree_eq_gathered, htree, hgrown]
  by_cases hrules : Declared.listOfValue value = []
  · refine .inl ⟨hrules, ?_⟩
    rw [hrules, List.map_nil, List.append_nil]
  · have hother : ∀ entry ∈ front ++ back, entry.1 ≠ key := by
      rintro entry hentry rfl
      refine hfresh ?_
      rw [ofTree_eq_gathered, htree, gathered, List.map_map]
      simpa using mem_firstKeys.2 ⟨entry.2, hentry⟩
    exact .inr (exists_gathered_append hother hrules)

end Slots

namespace Router

variable (compiles : Text → Bool)

theorem declared_append (front back : Slots) :
    declared compiles (front ++ back) = declared compiles front ++ declared compiles back :=
  List.flatMap_append

section Refusing

variable {key : Text} {rules : List Declared} {path : Text} {query : Option Text}
variable (hrefuses : ∀ matcher ∈ (ofSlots compiles [(key, rules)]).matchers,
  matcher.resolve? path query = none)

include hrefuses

theorem candidate?_of_refuses {entry : Text × Rule}
    (h : entry ∈ declared compiles [(key, rules)]) : candidate? path query entry = none := by
  have hsorted : entry ∈ (declared compiles [(key, rules)]).mergeSort ahead :=
    List.mem_mergeSort.2 h
  rw [← map_matchers] at hsorted
  obtain ⟨matcher, hmatcher, rfl⟩ := List.mem_map.1 hsorted
  rw [candidate?, Option.map_eq_none_iff]
  exact hrefuses matcher hmatcher

/-- A slot whose matchers refuse a path may stand anywhere or be left out. -/
theorem shown_candidates_insert (front back : Slots) :
    ((ofSlots compiles (front ++ (key, rules) :: back)).candidates path query).map shown =
      ((ofSlots compiles (front ++ back)).candidates path query).map shown := by
  have hslot : declared compiles (front ++ (key, rules) :: back) =
      declared compiles front ++ (declared compiles [(key, rules)] ++ declared compiles back) := by
    rw [declared_append, ← List.singleton_append, declared_append]
  rw [shown_candidates, shown_candidates, hslot, declared_append]
  exact filterMap_mergeSort_append ahead_trans ahead_total fun _ hentry =>
    candidate?_of_refuses compiles hrefuses hentry

/-- A new slot, with any rules and anywhere, changes nothing about the candidates of a
path that its matchers refuse: the same rules at the same base paths answer it with
the same targets in the same order. -/
theorem candidates_inserted :
    (∀ front back : Slots,
      ((ofSlots compiles (front ++ (key, rules) :: back)).candidates path query).map shown =
        ((ofSlots compiles (front ++ back)).candidates path query).map shown) ∧
    ∀ (document extended : RuleDocument) (tree grown : Json.Members) (value : Json.Value),
      document.tree? = some tree → extended.tree? = some grown →
      Slots.Gains key value tree grown → Declared.listOfValue value = rules →
      key.head? = some '/' → key ∉ (Slots.ofTree tree).map (·.1) →
      ∃ router router', ofDocument? document compiles = some router ∧
        ofDocument? extended compiles = some router' ∧
        (router'.candidates path query).map shown = (router.candidates path query).map shown := by
  refine ⟨shown_candidates_insert compiles hrefuses, ?_⟩
  rintro document extended tree grown value htree hgrown hgains rfl hslash hfresh
  refine ⟨_, _, ofDocument?_of_tree htree, ofDocument?_of_tree hgrown, ?_⟩
  rcases hgains.exists_ofTree hslash hfresh with ⟨-, hsame⟩ | ⟨front, back, hsame, hslot⟩
  · rw [hsame]
  · rw [hsame, hslot]
    exact shown_candidates_insert compiles hrefuses front back

end Refusing

/-- Two slots whose base paths have one length and share paths. -/
def neighbours : Json.Members :=
  [("/:x/:y", .text "https://pages.example/$2".toList),
    ("/doc/*", .text "https://docs.example/$1".toList)]

/-- The slots with a third between them whose base path has the same length. -/
def crowded : Json.Members :=
  [("/:x/:y", .text "https://pages.example/$2".toList),
    ("group", .object [("/a/b/*", .text "https://third.example/$1".toList)]),
    ("/doc/*", .text "https://docs.example/$1".toList)]

theorem neighbours_candidates_inserted :
    (∀ matcher ∈ (ofSlots (fun _ => true)
        [("/a/b/*".toList, [.target "https://third.example/$1".toList])]).matchers,
      matcher.resolve? "/doc/one".toList none = none) ∧
    ∃ router router',
      ofDocument? { members := [("slots", .object neighbours)] } (fun _ => true) = some router ∧
      ofDocument? { members := [("slots", .object crowded)] } (fun _ => true) = some router' ∧
      (router'.candidates "/doc/one".toList none).map shown =
        (router.candidates "/doc/one".toList none).map shown := by
  have hrefuses : ∀ matcher ∈ (ofSlots (fun _ => true)
      [("/a/b/*".toList, [.target "https://third.example/$1".toList])]).matchers,
      matcher.resolve? "/doc/one".toList none = none := by
    intro matcher hmatcher
    obtain rfl := List.mem_singleton.1 (ofSlots_perm.subset hmatcher)
    decide
  refine ⟨hrefuses, (candidates_inserted (fun _ => true) hrefuses).2 _ _ neighbours crowded
    (.text "https://third.example/$1".toList) rfl rfl ?_ rfl rfl ?_⟩
  · exact .later _ (.grouped (by decide) _ (.here []))
  · rw [Slots.ofTree]
    simp only [Slots.stream, neighbours]
    decide

end Router

end RuleGateway
