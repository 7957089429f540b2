import RuleGateway.Proofs.Gateway.Carrying
import RuleGateway.Proofs.Router.Mount

/-!
# Literal keys and the requests for them

The key of a slot and the path of a request are brought into normal form by two
different functions. Both drop one final slash, but only the path loses repeated
slashes. A literal key is therefore reached by the request for its own text if it has
no repeated slash, and where it has, no kind of rule makes up for it. The main
statement, `reaches_key_iff`, says so of every document and of every rule of the key.
-/

namespace RuleGateway

namespace Path

variable {path base : Text}

theorem decode_of_not_mem (h : '%' ∉ path) : decode path = path := by
  rw [decode, Percent.decode?_of_not_mem h, Option.bind_some, Utf8.decode?_encode, Option.getD_some]

theorem mem_normalize {c : Char} (h : c ≠ '/') : c ∈ normalize path ↔ c ∈ path := by
  by_cases hne : path = []
  · subst hne
    simp [normalize, collapse, h]
  by_cases hroot : collapse path = ['/']
  · rw [normalize_of_root hroot, ← hroot, mem_collapse h]
  · rw [normalize_of_ne hne hroot, mem_dropFinalSlash h, mem_collapse h]

/-- A path under a base path other than the root is not shorter than it. -/
theorem length_le_of_isUnder (h : isUnder path base) (hroot : base ≠ ['/']) :
    base.length ≤ path.length := by
  have hlength := (prefix_of_isUnder h hroot).length_le
  rwa [List.length_append, List.length_append, Nat.add_le_add_iff_right] at hlength

/-- Where slashes are left out, dropping a final one does not make up for it. -/
theorem length_dropFinalSlash_collapse_lt (h : collapse path ≠ path) :
    (Text.dropFinalSlash (collapse path)).length < (Text.dropFinalSlash path).length := by
  have hshorter : (collapse path).length < path.length :=
    Nat.lt_of_le_of_ne (collapse_sublist path).length_le fun hlength =>
      h ((collapse_sublist path).eq_of_length hlength)
  by_cases hlast : path.getLast? = some '/'
  · obtain ⟨kept, hkept⟩ := List.getLast?_eq_some_iff.1 (getLast?_collapse hlast)
    obtain ⟨front, rfl⟩ := List.getLast?_eq_some_iff.1 hlast
    rw [hkept, List.length_append, List.length_append, Nat.add_lt_add_iff_right] at hshorter
    rwa [hkept, Text.dropFinalSlash_concat, Text.dropFinalSlash_concat]
  · rw [Text.dropFinalSlash_of_ne hlast]
    exact Nat.lt_of_le_of_lt (isPrefix_dropFinalSlash _).length_le hshorter

end Path

section Key

variable {key : Text}

theorem baseOfKey_of_ne (hslash : key.head? = some '/') (hroot : key ≠ ['/']) :
    baseOfKey key = Text.dropFinalSlash key := by
  obtain ⟨rest, rfl⟩ := List.head?_eq_some_iff.1 hslash
  have hlength : 1 < ('/' :: rest).length := by
    cases rest with
    | nil => contradiction
    | cons c rest => simp
  rw [baseOfKey, if_pos hslash]
  exact if_pos hlength

/-- Only two keys have the root as their base path. -/
theorem eq_of_baseOfKey_eq_root (hslash : key.head? = some '/') (h : baseOfKey key = ['/']) :
    key = ['/'] ∨ key = "//".toList := by
  by_cases hroot : key = ['/']
  · exact .inl hroot
  rw [baseOfKey_of_ne hslash hroot] at h
  by_cases hlast : key.getLast? = some '/'
  · obtain ⟨front, rfl⟩ := List.getLast?_eq_some_iff.1 hlast
    rw [Text.dropFinalSlash_concat] at h
    rw [h]
    exact .inr rfl
  · rw [Text.dropFinalSlash_of_ne hlast] at h
    exact .inl h

/-- A key without repeated slashes has its own normal form as its base path. -/
theorem normalize_eq_baseOfKey (hslash : key.head? = some '/')
    (h : Path.collapse key = key ∨ key = "//".toList) : Path.normalize key = baseOfKey key := by
  rcases h with hcollapsed | rfl
  · by_cases hroot : key = ['/']
    · subst hroot
      rfl
    · have hne : key ≠ [] := by
        rintro rfl
        cases hslash
      have hroot' : Path.collapse key ≠ ['/'] := by rwa [hcollapsed]
      rw [baseOfKey_of_ne hslash hroot, Path.normalize_of_ne hne hroot', hcollapsed]
  · decide

/-- The normal form of a key with repeated slashes is too short to lie under the base
path of the key. -/
theorem isUnder_normalize_iff (hslash : key.head? = some '/') :
    Path.isUnder (Path.normalize key) (baseOfKey key) ↔
      Path.collapse key = key ∨ key = "//".toList := by
  constructor
  · intro hunder
    by_contra hnot
    rw [not_or] at hnot
    obtain ⟨hcollapsed, hslashes⟩ := hnot
    have hroot : key ≠ ['/'] := by
      rintro rfl
      exact hcollapsed rfl
    have hne : key ≠ [] := by
      rintro rfl
      cases hslash
    have hbase : baseOfKey key ≠ ['/'] := fun hbase =>
      (eq_of_baseOfKey_eq_root hslash hbase).elim hroot hslashes
    have hlength := Path.length_le_of_isUnder hunder hbase
    by_cases hcollapse : Path.collapse key = ['/']
    · obtain ⟨rest, hrest⟩ := List.head?_eq_some_iff.1 (baseOfKey_head? key)
      rw [Path.normalize_of_root hcollapse, hrest] at hlength
      rw [hrest, List.eq_nil_of_length_eq_zero (l := rest) (by simpa using hlength)] at hbase
      contradiction
    · have hshorter := Path.length_dropFinalSlash_collapse_lt hcollapsed
      rw [Path.normalize_of_ne hne hcollapse, baseOfKey_of_ne hslash hroot] at hlength
      omega
  · intro h
    rw [normalize_eq_baseOfKey hslash h]
    exact Path.isUnder_self _

end Key

theorem Rule.isInert_ofDeclared (declaration : Declared) (i j : Nat) :
    (ofDeclared declaration i).isInert = (ofDeclared declaration j).isInert := by
  cases declaration <;> simp only [ofDeclared, isInert, ofTarget, ofMembers]

namespace Matcher

theorem requested_of_not_mem {path : Text} (h : '%' ∉ path) : requested path = Path.normalize path :=
  Path.decode_of_not_mem (by rwa [Path.mem_normalize (by decide)])

/-- Every kind of rule with a target takes its own literal base path. -/
theorem isSome_resolve?_self {matcher : Matcher} (hbase : matcher.base.head? = some '/')
    (hliteral : matcher.pattern.isDynamic = false) (hinert : matcher.rule.isInert = false)
    (query : Option Text) : (matcher.resolve? matcher.base query).isSome := by
  have hcaptures : matcher.pattern.captures? matcher.base = some [] := by
    rw [pattern, Pattern.captures?_of_not_isDynamic hbase hliteral, if_pos rfl]
  rw [resolve?, Option.isSome_map, target?, Pattern.scan?_eq_captures?, hcaptures, hinert]
  rfl

/-- A literal key is reached by a request for its own text if it has no repeated slash. -/
theorem isSome_resolve?_key_iff {matcher : Matcher} {key : Text} (hslash : key.head? = some '/')
    (hpercent : '%' ∉ key) (hbase : matcher.base = baseOfKey key)
    (hliteral : matcher.pattern.isDynamic = false) (hinert : matcher.rule.isInert = false)
    (query : Option Text) :
    (matcher.resolve? (requested key) query).isSome ↔
      Path.collapse key = key ∨ key = "//".toList := by
  have hhead : matcher.base.head? = some '/' := by
    rw [hbase]
    exact baseOfKey_head? key
  rw [requested_of_not_mem hpercent]
  constructor
  · intro h
    obtain ⟨target, htarget⟩ := Option.isSome_iff_exists.1 h
    have hunder := isUnder_of_resolve? hhead hliteral htarget
    rwa [hbase, isUnder_normalize_iff hslash] at hunder
  · intro h
    rw [normalize_eq_baseOfKey hslash h, ← hbase]
    exact isSome_resolve?_self hhead hliteral hinert query

end Matcher

namespace Router

/-- The matchers that are made of the rules of a key. -/
def matchersOf (compiles : Text → Bool) (tree : Json.Members) (key : Text) : List Matcher :=
  ((sourcesOf compiles tree).zipIdx.filter (·.1.1 == key)).map
    (matcherOf (sourcesOf compiles tree))

section Key

variable {compiles : Text → Bool} {tree : Json.Members} {key : Text} {matcher : Matcher}

theorem base_of_mem_matchersOf (h : matcher ∈ matchersOf compiles tree key) :
    matcher.base = baseOfKey key := by
  obtain ⟨⟨⟨k, rule⟩, number⟩, hmem, rfl⟩ := List.mem_map.1 h
  obtain rfl : k = key := by simpa using (List.mem_filter.1 hmem).2
  rfl

/-- Each rule of a key whose base path has a pattern gets a matcher. -/
theorem exists_mem_matchersOf {declaration : Declared}
    (h : (key, declaration) ∈ Slots.declarations tree) (hcompiles : compiles (baseOfKey key)) :
    ∃ matcher ∈ matchersOf compiles tree key, ∃ position,
      matcher.rule = Rule.ofDeclared declaration position := by
  have hsource : (key, declaration) ∈ sourcesOf compiles tree :=
    (sourcesOf_perm compiles tree).symm.subset (List.mem_filter.2 ⟨h, hcompiles⟩)
  obtain ⟨number, hnumber⟩ := List.mem_iff_getElem?.1 hsource
  have hnumbered := List.mk_mem_zipIdx_iff_getElem?.2 hnumber
  exact ⟨_, List.mem_map_of_mem (List.mem_filter.2 ⟨hnumbered, by simp⟩), _, rfl⟩

theorem mem_of_mem_matchersOf (h : matcher ∈ matchersOf compiles tree key) :
    matcher ∈ (ofSlots compiles (Slots.ofTree tree)).matchers := by
  obtain ⟨numbered, hnumbered, rfl⟩ := List.mem_map.1 h
  refine ofSlots_perm.symm.subset ?_
  rw [enumerate_ofTree]
  exact List.mem_map_of_mem (List.mem_of_mem_filter hnumbered)

end Key

/-- A literal key without percent signs that has a rule with a target is reached by a
request for its own text if it has no repeated slash, and is dead otherwise. Where it
is reached, all its rules with a target are candidates, of whatever kind. -/
theorem reaches_key_iff (compiles : Text → Bool) (document : RuleDocument) {tree : Json.Members}
    (htree : document.tree? = some tree) {key : Text} (hslash : key.head? = some '/')
    (hliteral : (Pattern.ofBase (baseOfKey key)).isDynamic = false) (hpercent : '%' ∉ key)
    (hcompiles : compiles (baseOfKey key)) {declaration : Declared}
    (hdeclared : (key, declaration) ∈ Slots.declarations tree)
    (htarget : (Rule.ofDeclared declaration 1).isInert = false) (query : Option Text) :
    ∃ router, ofDocument? document compiles = some router ∧
      ((∃ matcher ∈ matchersOf compiles tree key, ∃ target,
          (matcher, target) ∈ router.candidates (Matcher.requested key) query) ↔
        Path.collapse key = key ∨ key = "//".toList) ∧
      ((Path.collapse key = key ∨ key = "//".toList) →
        ∀ matcher ∈ matchersOf compiles tree key, matcher.rule.isInert = false →
          ∃ target, (matcher, target) ∈ router.candidates (Matcher.requested key) query) ∧
      ∀ request : Request, request.target.path = key →
        Path.isRootAsset (Matcher.requested key) = false →
        Gateway.candidatesOf router request =
          router.candidates (Matcher.requested key) request.target.query := by
  have hliteral' {matcher : Matcher} (h : matcher ∈ matchersOf compiles tree key) :
      matcher.pattern.isDynamic = false := by
    rw [Matcher.pattern, base_of_mem_matchersOf h]
    exact hliteral
  have halive {matcher : Matcher} (h : matcher ∈ matchersOf compiles tree key)
      (hinert : matcher.rule.isInert = false) :
      (∃ target, (matcher, target) ∈
        (ofSlots compiles (Slots.ofTree tree)).candidates (Matcher.requested key) query) ↔
        Path.collapse key = key ∨ key = "//".toList := by
    rw [← Matcher.isSome_resolve?_key_iff hslash hpercent (base_of_mem_matchersOf h)
      (hliteral' h) hinert query, Option.isSome_iff_exists]
    simp only [mem_candidates_iff, mem_of_mem_matchersOf h, true_and]
  refine ⟨_, ofDocument?_of_tree htree, ⟨?_, ?_⟩, ?_, ?_⟩
  · rintro ⟨matcher, hmatcher, target, hcandidate⟩
    refine (halive hmatcher ?_).1 ⟨target, hcandidate⟩
    by_contra hinert
    rw [Bool.not_eq_false] at hinert
    rw [mem_candidates_iff, Matcher.resolve?, Matcher.target?, if_pos hinert] at hcandidate
    cases hcandidate.2
  · intro hkey
    obtain ⟨matcher, hmatcher, position, hrule⟩ := exists_mem_matchersOf hdeclared hcompiles
    refine ⟨matcher, hmatcher, (halive hmatcher ?_).2 hkey⟩
    rw [hrule, Rule.isInert_ofDeclared declaration position 1]
    exact htarget
  · intro hkey matcher hmatcher hinert
    exact (halive hmatcher hinert).2 hkey
  · rintro request rfl hasset
    rw [Gateway.candidatesOf, Gateway.pathOf_of_not_asset rfl hasset, Matcher.requested]

/-- A slot whose key has a repeated slash, and one whose key has not. -/
def slashedTree : Json.Members :=
  [("/a//b", .text "https://new.example".toList), ("/c/", .text "https://new.example".toList)]

theorem stream_slashedTree : Slots.stream slashedTree =
    [("/a//b".toList, [.target "https://new.example".toList]),
      ("/c/".toList, [.target "https://new.example".toList])] := by
  simp only [Slots.stream, slashedTree]
  rfl

theorem declarations_slashedTree : Slots.declarations slashedTree =
    [("/a//b".toList, .target "https://new.example".toList),
      ("/c/".toList, .target "https://new.example".toList)] := by
  rw [Slots.declarations, stream_slashedTree]
  rfl

/-- The key without a repeated slash is reached. -/
theorem slashedTree_reaches :
    RuleDocument.tree? { members := [("slots", .object slashedTree)] } = some slashedTree ∧
    ∃ router, ofDocument? { members := [("slots", .object slashedTree)] } = some router ∧
      ∃ matcher ∈ matchersOf (fun _ => true) slashedTree "/c/", ∃ target,
        (matcher, target) ∈ router.candidates (Matcher.requested "/c/") none := by
  have hdeclared : ("/c/".toList, Declared.target "https://new.example".toList) ∈
      Slots.declarations slashedTree := by
    rw [declarations_slashedTree]
    exact List.mem_cons_of_mem _ List.mem_cons_self
  have hslash : "/c/".toList.head? = some '/' := rfl
  obtain ⟨router, hrouter, hreached, -⟩ := reaches_key_iff (fun _ => true)
    { members := [("slots", .object slashedTree)] } rfl hslash (by decide) (by decide) rfl
    hdeclared rfl none
  exact ⟨rfl, router, hrouter, hreached.2 (.inl (by decide))⟩

/-- The key with a repeated slash is dead: nothing answers a request for it. -/
theorem slashedTree_misses :
    ("/a//b".toList, Declared.target "https://new.example".toList) ∈
        Slots.declarations slashedTree ∧
      (Rule.ofDeclared (.target "https://new.example".toList) 1).isInert = false ∧
      ∃ router, ofDocument? { members := [("slots", .object slashedTree)] } = some router ∧
        router.candidates (Matcher.requested "/a//b") none = [] := by
  have hslots : Slots.ofTree slashedTree = Slots.stream slashedTree := by
    rw [Slots.ofTree, stream_slashedTree]
    rfl
  have hrefuses : ∀ matcher ∈ enumerate (fun _ => true) (Slots.ofTree slashedTree),
      matcher.resolve? (Matcher.requested "/a//b") none = none := by
    rw [hslots, stream_slashedTree]
    decide
  refine ⟨declarations_slashedTree ▸ List.mem_cons_self, rfl, _, rfl, ?_⟩
  rw [candidates, List.filterMap_eq_nil_iff]
  intro matcher hmatcher
  rw [hrefuses matcher (ofSlots_perm.subset hmatcher), Option.map_none]

end Router

end RuleGateway
