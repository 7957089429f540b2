import RuleGateway.Proofs.Url.Blanks
import RuleGateway.Router.Matcher

/-!
# The query behind a target

A target without a question mark gets the query of the request put behind it, as text.
That is the query of the address only if the target ends where its path ends: a fragment
takes the query in, and blanks at the end of the target, which count for nothing there,
become part of the path or of the authority. `parse_withQuery_iff` says so for every
target that is a web address.
-/

namespace RuleGateway

namespace Url

open Percent

variable {scheme opening zone path tail text query : Text} {url : Url}

/-- What is dropped at the end of an address and would be kept inside it. -/
def ending (text : Text) : Text := ((text.reverse.takeWhile isOuter).reverse).filter isKept

theorem isOuter_of_mem_ending {c : Char} (h : c ∈ ending text) : isOuter c := by
  have hmem := List.mem_reverse.1 (List.mem_of_mem_filter h)
  exact List.all_eq_true.1 List.all_takeWhile c hmem

/-- Something behind an address keeps what is dropped at its end. -/
theorem clean_append_visible {c : Char} (hc : isOuter c = false) (hne : clean text ≠ [])
    (back : Text) : clean (text ++ c :: back) = clean text ++ (ending text ++ c :: cleanEnd back) := by
  set inner := text.dropWhile isOuter with hinner
  have hshort : (inner.reverse.takeWhile isOuter).length ≠ inner.reverse.length := by
    intro hlength
    have hsum := congrArg List.length
      (List.takeWhile_append_dropWhile (p := isOuter) (l := inner.reverse))
    rw [List.length_append, hlength, Nat.add_eq_left, List.length_eq_zero_iff] at hsum
    rw [clean_eq, ← hinner, cleanEnd, hsum] at hne
    exact hne rfl
  have hending : ending text = ((inner.reverse.takeWhile isOuter).reverse).filter isKept := by
    have htext : text.reverse = inner.reverse ++ (text.takeWhile isOuter).reverse := by
      rw [← List.reverse_append, List.takeWhile_append_dropWhile]
    rw [ending, htext, List.takeWhile_append, if_neg hshort]
  have hkept : inner.filter isKept = clean text ++ ending text := by
    rw [clean_eq, ← hinner, cleanEnd, hending, ← List.filter_append, ← List.reverse_append,
      List.takeWhile_append_dropWhile, List.reverse_reverse]
  rw [clean_append_cons hc, ← hinner, hkept, List.append_assoc]

/-- What follows a path is nothing, a query or a fragment. -/
theorem tail_cases (h : Text.Stops isPathChar tail) :
    tail = [] ∨ (∃ rest, tail = '?' :: rest) ∨ ∃ rest, tail = '#' :: rest := by
  cases tail with
  | nil => exact .inl rfl
  | cons c rest =>
    have hc := h c rfl
    rw [isPathChar, Bool.and_eq_false_iff, bne_eq_false_iff_eq, bne_eq_false_iff_eq] at hc
    rcases hc with rfl | rfl
    · exact .inr (.inl ⟨rest, rfl⟩)
    · exact .inr (.inr ⟨rest, rfl⟩)

section Query

variable {c : Char}

theorem mem_dropWhile_iff (h : isOuter c = false) : c ∈ text.dropWhile isOuter ↔ c ∈ text := by
  refine ⟨fun hmem => (List.dropWhile_suffix _).subset hmem, fun hmem => ?_⟩
  rw [← List.takeWhile_append_dropWhile (p := isOuter) (l := text), List.mem_append] at hmem
  refine hmem.resolve_left fun hfront => ?_
  rw [List.all_eq_true.1 List.all_takeWhile c hfront] at h
  cases h

/-- Visible characters of a text are in it when it is clean. -/
theorem mem_clean_iff (h : isOuter c = false) : c ∈ clean text ↔ c ∈ text := by
  rw [clean_eq, cleanEnd, List.mem_filter, List.mem_reverse, mem_dropWhile_iff h, List.mem_reverse,
    mem_dropWhile_iff h]
  exact and_iff_left (isKept_of_not_isOuter h)

theorem slashed_append (front back : Text) : slashed (front ++ back) = slashed front ++ slashed back :=
  List.map_append

/-- With blanks at its end a path leads elsewhere. -/
theorem addSegments_rootPieces_ne {blanks : Text} (hended : Ended path) (hpath : path ≠ [])
    (hne : blanks ≠ []) (hblanks : ∀ c ∈ blanks, isOuter c) :
    addSegments [] (rootPieces (path ++ blanks)) ≠ addSegments [] (rootPieces path) := by
  obtain ⟨c, rest, rfl⟩ := List.exists_cons_of_ne_nil hpath
  obtain ⟨front, last, rfl⟩ := (List.eq_nil_or_concat blanks).resolve_left hne
  rw [List.concat_eq_append] at hblanks ⊢
  have hslashes : ∀ d ∈ front ++ [last], d ≠ '\\' ∧ d ≠ '/' := by
    intro d hd
    constructor <;> rintro rfl <;> cases hblanks _ hd
  obtain ⟨before, piece, hpieces, hwhole⟩ := Text.exists_split_append
    (fun hmem => (hslashes '/' hmem).2 rfl) (slashed rest)
  rw [rootPieces, rootPieces, List.cons_append, List.drop_succ_cons, List.drop_zero,
    List.drop_succ_cons, List.drop_zero, slashed_append,
    slashed_eq_self fun d hd => (hslashes d hd).1, hpieces, hwhole]
  exact addSegments_append_ne (hblanks last (by simp)) before piece front

theorem endsAuthority_of_isOuter (h : isOuter c) : endsAuthority .web c = false := by
  rw [Bool.eq_false_iff, Ne, endsAuthority_iff]
  rintro (rfl | rfl | rfl | rfl) <;> cases h

theorem isPathChar_of_isOuter (h : isOuter c) : isPathChar c := by
  rw [isPathChar, Bool.and_eq_true, bne_iff_ne, bne_iff_ne]
  constructor <;> rintro rfl <;> cases h

/-- A query as it may be put behind an address: nothing in it ends it or is cleaned away. -/
def IsQuery (query : Text) : Prop := ∀ c ∈ query, isOuter c = false ∧ c ≠ '#'

theorem withTail_asked (hweb : SchemeKind.of url.scheme = .web) (h : IsQuery query) :
    withTail url ('?' :: query) =
      { withTail url [] with query := some (encode (inQuerySet .web) query) } := by
  have htail : parseTail .web ('?' :: query) = (some (encode (inQuerySet .web) query), none) := by
    refine @parseTail_asked .web (some query) fun text htext hmem => ?_
    cases htext
    exact (h '#' hmem).2 rfl
  rw [withTail, hweb, htail]
  rfl

/-- Blanks between an authority and a query are in the authority, which names nobody then. -/
theorem exists_error_of_blanks {blanks : Text} (hcut : IsCut scheme opening zone [] [])
    (hne : blanks ≠ []) (hblanks : ∀ c ∈ blanks, isOuter c)
    (hclean : clean text = opening ++ (zone ++ (blanks ++ '?' :: query))) :
    ∃ error, parse text = .error error := by
  obtain ⟨front, last, rfl⟩ := (List.eq_nil_or_concat blanks).resolve_left hne
  rw [List.concat_eq_append] at hclean hblanks
  have hwithin : ∀ c ∈ zone ++ (front ++ [last]), endsAuthority .web c = false := by
    rw [List.forall_mem_append]
    exact ⟨hcut.within, fun c hc => endsAuthority_of_isOuter (hblanks c hc)⟩
  have hcut' : IsCut scheme opening (zone ++ (front ++ [last])) [] ('?' :: query) :=
    { hcut with
      named := fun hnil => hcut.named (List.append_eq_nil_iff.1 hnil).1
      within := hwithin
      in_tail := Text.stops_cons rfl query }
  rw [hcut'.parse_eq (hclean.trans (by simp))]
  rw [← List.append_assoc] at hwithin ⊢
  obtain ⟨error, herror⟩ := exists_error_parseAuthority hcut.web hwithin (hblanks last (by simp))
  rw [herror]
  exact ⟨error, rfl⟩

/-- Blanks between a path and a query are in the path, which leads elsewhere then. -/
theorem path_ne_of_blanks {blanks : Text} {asked : Url}
    (hcut : IsCut scheme opening zone path []) (hpath : path ≠ []) (hne : blanks ≠ [])
    (hblanks : ∀ c ∈ blanks, isOuter c)
    (hclean : clean text = opening ++ (zone ++ (path ++ (blanks ++ '?' :: query))))
    (hparse : parse text = .ok asked) :
    asked.path ≠ .rooted (addSegments [] (rootPieces path)) := by
  have hcut' : IsCut scheme opening zone (path ++ blanks) ('?' :: query) :=
    { hcut with
      ended := by
        obtain ⟨c, rest, rfl⟩ := List.exists_cons_of_ne_nil hpath
        exact Text.stops_cons (hcut.ended c rfl) _
      in_path := List.forall_mem_append.2
        ⟨hcut.in_path, fun c hc => isPathChar_of_isOuter (hblanks c hc)⟩
      in_tail := Text.stops_cons rfl query }
  rw [hcut'.parse_eq (hclean.trans (by simp))] at hparse
  obtain ⟨found, -, rfl⟩ := exists_of_map_eq_ok hparse
  intro hsame
  exact addSegments_rootPieces_ne hcut.ended hpath hne hblanks (UrlPath.rooted.inj hsame)

/-- What is put behind an address without a tail is its query, if no blanks are before it. -/
theorem parse_asked_iff (hcut : IsCut scheme opening zone path [])
    (hclean : clean text = opening ++ (zone ++ (path ++ []))) (hparse : parse text = .ok url)
    (hquery : IsQuery query) :
    parse (text ++ '?' :: query) =
        .ok { url with query := some (encode (inQuerySet .web) query) } ↔
      ending text = [] := by
  have hread := hcut.parse_eq hclean
  rw [hparse] at hread
  obtain ⟨found, hfound, rfl⟩ := exists_of_map_eq_ok hread.symm
  have hvisible : clean text ≠ [] := by
    rw [hclean]
    simp [hcut.named]
  have hasked : clean (text ++ '?' :: query) =
      opening ++ (zone ++ (path ++ (ending text ++ '?' :: query))) := by
    have hend : cleanEnd query = query := cleanEnd_of_visible fun c hc => (hquery c hc).1
    rw [clean_append_visible rfl hvisible, hclean, hend]
    simp
  constructor
  · intro hsame
    by_contra hne
    have hblanks : ∀ c ∈ ending text, isOuter c := fun c hc => isOuter_of_mem_ending hc
    by_cases hpath : path = []
    · subst hpath
      obtain ⟨error, herror⟩ := exists_error_of_blanks hcut hne hblanks hasked
      rw [herror] at hsame
      cases hsame
    · exact path_ne_of_blanks hcut hpath hne hblanks hasked hsame rfl
  · intro hnone
    rw [hnone, List.nil_append] at hasked
    have hcut' : IsCut scheme opening zone path ('?' :: query) := { hcut with in_tail := Text.stops_cons rfl query }
    rw [hcut'.parse_eq hasked, hfound]
    exact congrArg Except.ok (withTail_asked hcut.web hquery)

/-- What is put behind a fragment is read in the fragment. -/
theorem query_eq_none_of_fragment {rest : Text} {asked : Url}
    (hcut : IsCut scheme opening zone path ('#' :: rest))
    (hclean : clean text = opening ++ (zone ++ (path ++ '#' :: rest)))
    (hparse : parse (text ++ '?' :: query) = .ok asked) : asked.query = none := by
  have hvisible : clean text ≠ [] := by
    rw [hclean]
    simp
  have hasked : clean (text ++ '?' :: query) =
      opening ++ (zone ++ (path ++ '#' :: (rest ++ (ending text ++ '?' :: cleanEnd query)))) := by
    rw [clean_append_visible rfl hvisible, hclean]
    simp
  have hcut' : IsCut scheme opening zone path
      ('#' :: (rest ++ (ending text ++ '?' :: cleanEnd query))) :=
    { hcut with in_tail := Text.stops_cons rfl _ }
  rw [hcut'.parse_eq hasked] at hparse
  obtain ⟨found, -, rfl⟩ := exists_of_map_eq_ok hparse
  rfl

end Query

end Url

namespace Matcher

open Url

variable {target query : Text} {url : Url}

theorem withQuery_of_mem (h : '?' ∈ target) : withQuery target (some query) = target := by
  rw [withQuery, if_pos (by simp [h])]

theorem withQuery_of_not_mem (h : '?' ∉ target) (hne : query ≠ []) :
    withQuery target (some query) = target ++ '?' :: query := by
  rw [withQuery, if_neg (by simp [h, hne])]

/-- A target that is a web address without a query becomes the address with the query of the
request exactly if it has no fragment and no blanks at its end. A target with a query stays
as it is. -/
theorem parse_withQuery_iff (hparse : parse target = .ok url)
    (hweb : SchemeKind.of url.scheme = .web) (hne : query ≠ []) (hquery : IsQuery query) :
    (url.query = none →
      (parse (withQuery target (some query)) =
          .ok { url with query := some (Percent.encode (inQuerySet .web) query) } ↔
        url.fragment = none ∧ ending target = [])) ∧
    (url.query ≠ none → withQuery target (some query) = target) := by
  obtain ⟨opening, zone, path, tail, hcut, hclean⟩ := exists_isCut hweb hparse
  have hread := hcut.parse_eq hclean
  rw [hparse] at hread
  obtain ⟨found, hfound, hurl⟩ := exists_of_map_eq_ok hread.symm
  rcases tail_cases hcut.in_tail with rfl | ⟨rest, rfl⟩ | ⟨rest, rfl⟩
  · have hmark : '?' ∉ target := by
      rw [← mem_clean_iff rfl, hclean, List.append_nil]
      intro hmem
      exact absurd (hcut.front_isPathChar '?' hmem) (by decide)
    have hfragment : url.fragment = none := by rw [← hurl]; rfl
    have hnone : url.query = none := by rw [← hurl]; rfl
    refine ⟨fun _ => ?_, fun hsome => absurd hnone hsome⟩
    rw [withQuery_of_not_mem hmark hne, parse_asked_iff hcut hclean hparse hquery]
    exact (and_iff_right hfragment).symm
  · have hmark : '?' ∈ target := by
      rw [← mem_clean_iff rfl, hclean]
      simp
    have hsome : url.query ≠ none := by
      rw [← hurl]
      exact Option.some_ne_none _
    exact ⟨fun hnone => absurd hnone hsome, fun _ => withQuery_of_mem hmark⟩
  · have hfragment : url.fragment ≠ none := by
      rw [← hurl]
      exact Option.some_ne_none _
    have hnone : url.query = none := by rw [← hurl]; rfl
    refine ⟨fun _ => iff_of_false (fun hsame => ?_) fun h => hfragment h.1, ?_⟩
    · by_cases hmark : '?' ∈ target
      · rw [withQuery_of_mem hmark, hparse] at hsame
        have hquery' := congrArg Url.query (Except.ok.inj hsame)
        rw [hnone] at hquery'
        cases hquery'
      · rw [withQuery_of_not_mem hmark hne] at hsame
        cases query_eq_none_of_fragment hcut hclean hsame
    · exact fun hsome => absurd hnone hsome

/-- The address of a page. -/
def docsUrl : Url where
  scheme := "https"
  authority := some (named "up.example")
  path := .rooted ["docs".toList]

/-- The page with what may follow its path. -/
theorem parse_docs (tail : Text) (htail : Text.Stops isPathChar tail)
    (hclean : clean ("https://up.example/docs".toList ++ tail) =
      "https://".toList ++ ("up.example".toList ++ ("/docs".toList ++ tail))) :
    parse ("https://up.example/docs".toList ++ tail) = .ok (withTail docsUrl tail) := by
  have hplain : Domain.IsPlain "up.example" :=
    ⟨Text.forall_mem (by decide), Text.forall_mem (by decide), Text.forall_mem (by decide),
      by decide⟩
  have hcut : IsCut "https" "https://" "up.example" "/docs" tail :=
    { web := by decide
      opens := ⟨['/', '/'], by decide, Text.forall_mem (by decide)⟩
      in_opening := Text.forall_mem (by decide)
      named := by decide
      within := Text.forall_mem (by decide)
      ended := Text.stops_cons rfl _
      in_path := Text.forall_mem (by decide)
      in_tail := htail }
  rw [hcut.parse_eq hclean, parseAuthority_named (by decide) hplain (by decide) (by decide)]
  rfl

/-- The query of a request is the query of a page without one. -/
theorem docs_withQuery :
    parse "https://up.example/docs".toList = .ok docsUrl ∧
      SchemeKind.of docsUrl.scheme = .web ∧ "x=1".toList ≠ [] ∧ IsQuery "x=1".toList ∧
      docsUrl.query = none ∧
      parse (withQuery "https://up.example/docs".toList (some "x=1".toList)) =
        .ok { docsUrl with query := some "x=1".toList } := by
  have hparse : parse "https://up.example/docs".toList = .ok docsUrl :=
    parse_docs [] (Text.stops_nil _) (by decide)
  have hweb : SchemeKind.of docsUrl.scheme = .web := by decide
  have hquery : IsQuery "x=1".toList := Text.forall_mem (by decide)
  refine ⟨hparse, hweb, by decide, hquery, rfl, ?_⟩
  have hiff := (parse_withQuery_iff hparse hweb (by decide) hquery).1 rfl
  exact hiff.2 ⟨rfl, by decide⟩

/-- A place in a page takes the query of a request in. -/
theorem docsTop_loses_query :
    parse "https://up.example/docs#top".toList = .ok { docsUrl with fragment := some "top".toList } ∧
      withQuery "https://up.example/docs#top".toList (some "x=1".toList) =
        "https://up.example/docs#top?x=1".toList ∧
      parse "https://up.example/docs#top?x=1".toList =
        .ok { docsUrl with fragment := some "top?x=1".toList } :=
  ⟨parse_docs "#top".toList (Text.stops_cons rfl _) (by decide), by decide,
    parse_docs "#top?x=1".toList (Text.stops_cons rfl _) (by decide)⟩

end Matcher

end RuleGateway
