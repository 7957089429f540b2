import RuleGateway.Proofs.Pattern.Splitting
import RuleGateway.Proofs.Router.Nesting

/-!
# Names that can be referred to

A base path takes every character but a slash into the name of a parameter, while a
reference by name is read as long as the characters of words last. `recalls_ownName_iff`
compares the two: a parameter is filled in where it is written as in the base path if its
name is such a word, and otherwise only by the accident of a number in the name.

That a template does not give the captured text is shown on paths that differ in one
character. Such a path exists for every base path, since texts without slashes can be
captured wherever they are put.
-/

namespace RuleGateway

namespace Path

theorem count_ofSegments_cons (segment : Text) (segments : List Text) :
    (ofSegments (segment :: segments)).count '/' =
      segment.count '/' + (ofSegments segments).count '/' + 1 := by
  rw [ofSegments_cons, List.count_cons_self, List.count_append]

theorem length_le_count_ofSegments (segments : List Text) :
    segments.length ≤ (ofSegments segments).count '/' := by
  induction segments with
  | nil => exact Nat.zero_le _
  | cons segment segments ih =>
    rw [count_ofSegments_cons, List.length_cons]
    omega

/-- A path has more slashes than segments only if they are in the segments. -/
theorem count_ofSegments_eq_iff {segments : List Text} :
    (ofSegments segments).count '/' = segments.length ↔ ∀ segment ∈ segments, '/' ∉ segment := by
  induction segments with
  | nil => exact iff_of_true rfl fun segment hsegment => absurd hsegment List.not_mem_nil
  | cons segment segments ih =>
    have hle := length_le_count_ofSegments segments
    rw [List.forall_mem_cons, ← ih, ← List.count_eq_zero, count_ofSegments_cons, List.length_cons]
    omega

/-- Segments without slashes are the only ones of their number that make their path. -/
theorem eq_of_ofSegments_eq {kept others : List Text} (hkept : ∀ segment ∈ kept, '/' ∉ segment)
    (hlength : others.length = kept.length) (h : ofSegments others = ofSegments kept) :
    others = kept := by
  have hothers : ∀ segment ∈ others, '/' ∉ segment := by
    rw [← count_ofSegments_eq_iff, h, hlength]
    exact count_ofSegments_eq_iff.2 hkept
  rw [← segments_ofSegments hothers, h, segments_ofSegments hkept]

theorem not_mem_of_mem_segments {base segment : Text} (h : segment ∈ segments base) :
    '/' ∉ segment :=
  (Text.of_mem_split (List.mem_of_mem_tail h)).2

section Substitute

variable {segments texts others : List Text}

theorem length_substitute (segments texts : List Text) :
    (substitute segments texts).length = segments.length := by
  induction segments generalizing texts with
  | nil => rfl
  | cons segment segments ih =>
    rw [substitute]
    split <;> rw [List.length_cons, List.length_cons, ih]

/-- The texts in the place of the dynamic segments can be read off. -/
theorem substitute_inj (htexts : (segments.filter isDynamic).length = texts.length)
    (hothers : (segments.filter isDynamic).length = others.length)
    (h : substitute segments others = substitute segments texts) : others = texts := by
  induction segments generalizing texts others with
  | nil =>
    rw [List.length_eq_zero_iff.1 htexts.symm, List.length_eq_zero_iff.1 hothers.symm]
  | cons segment segments ih =>
    by_cases hdynamic : isDynamic segment
    · rw [List.filter_cons_of_pos hdynamic, List.length_cons] at htexts hothers
      obtain ⟨text, texts, rfl⟩ := List.exists_cons_of_length_eq_add_one htexts.symm
      obtain ⟨other, others, rfl⟩ := List.exists_cons_of_length_eq_add_one hothers.symm
      rw [substitute, if_pos hdynamic, substitute, if_pos hdynamic] at h
      obtain ⟨hhead, htail⟩ := List.cons.inj h
      rw [show other = text from hhead,
        ih (Nat.succ.inj htexts) (Nat.succ.inj hothers) htail]
    · rw [List.filter_cons_of_neg hdynamic] at htexts hothers
      rw [substitute, if_neg hdynamic, substitute, if_neg hdynamic] at h
      exact ih htexts hothers (List.cons.inj h).2

theorem not_mem_of_mem_substitute (hlength : (segments.filter isDynamic).length = texts.length)
    (hsegments : ∀ segment ∈ segments, '/' ∉ segment) (htexts : ∀ text ∈ texts, '/' ∉ text) :
    ∀ segment ∈ substitute segments texts, '/' ∉ segment := by
  induction segments generalizing texts with
  | nil => exact fun segment hsegment => absurd hsegment List.not_mem_nil
  | cons segment segments ih =>
    obtain ⟨hsegment, hsegments⟩ := List.forall_mem_cons.1 hsegments
    by_cases hdynamic : isDynamic segment
    · rw [List.filter_cons_of_pos hdynamic, List.length_cons] at hlength
      obtain ⟨text, texts, rfl⟩ := List.exists_cons_of_length_eq_add_one hlength.symm
      obtain ⟨htext, htexts⟩ := List.forall_mem_cons.1 htexts
      rw [substitute, if_pos hdynamic]
      exact List.forall_mem_cons.2 ⟨htext, ih (Nat.succ.inj hlength) hsegments htexts⟩
    · rw [List.filter_cons_of_neg hdynamic] at hlength
      rw [substitute, if_neg hdynamic]
      exact List.forall_mem_cons.2 ⟨hsegment, ih hlength hsegments htexts⟩

end Substitute

end Path

namespace Pattern

open RuleGateway.Path

/-- Texts without slashes are captured where they stand in the place of the dynamic segments. -/
theorem scan?_substitute {base : Text} {texts : List Text}
    (hfit : List.Forall₂ MayTake ((segments base).filter Path.isDynamic) texts)
    (htexts : ∀ text ∈ texts, '/' ∉ text) :
    (ofBase base).scan? (ofSegments (substitute (segments base) texts)) = some texts := by
  rw [scan?_eq_captures?, ofBase, captures?_eq_some_iff]
  refine ⟨⟨hfit, rfl⟩, ?_⟩
  intro others hothers hne
  have hslash := not_mem_of_mem_substitute hfit.length_eq
    (fun segment hsegment => not_mem_of_mem_segments hsegment) htexts
  have hlength : (substitute (segments base) others).length =
      (substitute (segments base) texts).length := by
    rw [length_substitute, length_substitute]
  have hsame := eq_of_ofSegments_eq hslash hlength hothers.gives
  exact absurd (substitute_inj hfit.length_eq hothers.fit.length_eq hsame) hne

end Pattern

namespace Template

/-- What a part of a template is filled from, if from anything: a character of its own or what
is captured for a dynamic segment. -/
inductive Source where
  | character (c : Char)
  | segment (place : Nat)
  deriving DecidableEq, Repr

/-- What a source comes to. -/
def Source.text (captures : List Text) : Source → Text
  | character c => [c]
  | segment place => captures[place]?.getD []

/-- The source of a part, given the names of the dynamic segments. -/
def source? (labels : List (Option Text)) : Part → Option Source
  | .literal c => some (.character c)
  | .position digits => (Text.decimal? digits).bind fun n =>
    if n = 0 ∨ labels.length < n then none else some (.segment (n - 1))
  | .name word => (labels.findIdx? (· == some word)).map .segment

/-- What a template is filled from, in order. -/
def sources (pattern : Pattern) (template : Text) : List Source :=
  (parts template).filterMap (source? pattern.labels)

section Sources

variable {pattern : Pattern} {captures : List Text} {source : Source} {part : Part}

theorem find?_zip_eq {labels : List (Option Text)} {captures : List Text} (word : Text)
    (hlength : labels.length = captures.length) :
    ((labels.zip captures).find? (·.1 == some word)).map (·.2) =
      (labels.findIdx? (· == some word)).bind fun place => captures[place]? := by
  induction labels generalizing captures with
  | nil => rfl
  | cons label labels ih =>
    obtain ⟨captured, captures, rfl⟩ := List.exists_cons_of_length_eq_add_one hlength.symm
    rw [List.zip_cons_cons, List.findIdx?_cons]
    by_cases hlabel : label == some word
    · rw [List.find?_cons_of_pos (by exact hlabel), if_pos hlabel]
      rfl
    · rw [List.find?_cons_of_neg (by exact hlabel), if_neg hlabel, ih (Nat.succ.inj hlength),
        Option.bind_map]
      rfl

theorem value_eq (hlength : pattern.labels.length = captures.length) (part : Part) :
    value pattern captures part =
      ((source? pattern.labels part).map (Source.text captures)).getD [] := by
  cases part with
  | literal c => rfl
  | position digits =>
    rw [value, source?]
    cases Text.decimal? digits with
    | none => rfl
    | some n =>
      rw [Option.bind_some, Option.bind_some, atPosition?]
      split <;> rename_i hn
      · rw [if_pos (.inl hn)]
        rfl
      · split <;> rename_i hout
        · rw [List.getElem?_eq_none (by omega)]
          rfl
        · rfl
  | name word =>
    rw [value, source?, atName?, find?_zip_eq word hlength]
    cases pattern.labels.findIdx? (· == some word) with
    | none => rfl
    | some place => rfl

/-- A template is filled from its sources. -/
theorem fill_eq_flatMap (hlength : pattern.labels.length = captures.length) (template : Text) :
    fill pattern template captures =
      (sources pattern template).flatMap (Source.text captures) := by
  rw [fill, sources]
  induction parts template with
  | nil => rfl
  | cons part parts ih =>
    rw [List.flatMap_cons, ih, value_eq hlength]
    cases hsource : source? pattern.labels part with
    | none =>
      rw [List.filterMap_cons_none hsource]
      rfl
    | some source =>
      rw [List.filterMap_cons_some hsource, List.flatMap_cons]
      rfl

/-- A source in a dynamic segment is in one that there is. -/
theorem lt_of_source? {labels : List (Option Text)} {place : Nat}
    (h : source? labels part = some (.segment place)) : place < labels.length := by
  cases part with
  | literal c => cases h
  | position digits =>
    obtain ⟨n, -, hn⟩ := Option.bind_eq_some_iff.1 h
    obtain ⟨hin, hplace⟩ := Option.ite_none_left_eq_some.1 hn
    cases hplace
    omega
  | name word =>
    obtain ⟨found, hfound, hplace⟩ := Option.map_eq_some_iff.1 h
    cases hplace
    exact (List.findIdx?_eq_some_iff_getElem.1 hfound).1

end Sources

/-- Whether a template is filled with what is captured for the dynamic segment at a place,
whatever the path. -/
def Recalls (base template : Text) (place : Nat) : Prop :=
  ∀ path captures, (Pattern.ofBase base).scan? path = some captures →
    captures[place]? = some (fill (Pattern.ofBase base) template captures)

section Recalls

variable {base template : Text} {place : Nat}

theorem length_labels (base : Text) :
    (Pattern.ofBase base).labels.length = ((Path.segments base).filter Path.isDynamic).length := by
  rw [Pattern.ofBase, Pattern.labels_ofSegments, List.length_map]

theorem length_captures {path : Text} {captures : List Text}
    (h : (Pattern.ofBase base).scan? path = some captures) :
    (Pattern.ofBase base).labels.length = captures.length := by
  rw [length_labels]
  rw [Pattern.scan?_eq_captures?, Pattern.ofBase] at h
  exact (Pattern.isGreediest_of_captures? h).assigns.fit.length_eq

/-- One character for each dynamic segment, which is another at one place. -/
def marked (length place : Nat) (mark : Char) : List Text :=
  (List.replicate length ['x']).set place [mark]

theorem exists_of_mem_marked {length place : Nat} {mark : Char} {text : Text}
    (h : text ∈ marked length place mark) : text = ['x'] ∨ text = [mark] := by
  rcases List.mem_or_eq_of_mem_set h with hsame | hmark
  · exact .inl (List.eq_of_mem_replicate hsame)
  · exact .inr hmark

theorem Recalls.fill_marked (h : Recalls base template place)
    (hplace : place < (Pattern.ofBase base).labels.length) (mark : Char) (hslash : mark ≠ '/')
    (hline : mark ≠ '\n') :
    (sources (Pattern.ofBase base) template).flatMap
      (Source.text (marked (Pattern.ofBase base).labels.length place mark)) = [mark] := by
  set texts := marked (Pattern.ofBase base).labels.length place mark with htexts
  have hlength : texts.length = (Pattern.ofBase base).labels.length := by
    rw [htexts, marked, List.length_set, List.length_replicate]
  have hchar : ∀ text ∈ texts, text ≠ [] ∧ '/' ∉ text ∧ '\n' ∉ text := by
    intro text htext
    rcases exists_of_mem_marked htext with rfl | rfl
    · decide
    · simp [hslash.symm, hline.symm]
  have hfit : List.Forall₂ Path.MayTake ((Path.segments base).filter Path.isDynamic) texts := by
    rw [List.forall₂_iff_zip]
    refine ⟨by rw [hlength, length_labels], ?_⟩
    intro segment text hpair
    obtain ⟨hne, hnoSlash, hnoLine⟩ := hchar text (List.of_mem_zip hpair).2
    rw [Path.MayTake]
    split
    · exact hnoLine
    · exact ⟨hne, hnoSlash⟩
  have hscan := Pattern.scan?_substitute hfit fun text htext => (hchar text htext).2.1
  have hfill := h _ texts hscan
  rw [fill_eq_flatMap hlength.symm, htexts, marked,
    List.getElem?_set_self (by rwa [List.length_replicate])] at hfill
  exact (Option.some.inj hfill).symm

/-- What a source comes to is one character where one is captured for each segment. -/
theorem exists_text_eq {length : Nat} (place : Nat) (mark : Char) {source : Source}
    (h : ∀ other, source = .segment other → other < length) :
    ∃ c, source.text (marked length place mark) = [c] := by
  cases source with
  | character c => exact ⟨c, rfl⟩
  | segment other =>
    have hlt : other < (marked length place mark).length := by
      rw [marked, List.length_set, List.length_replicate]
      exact h other rfl
    rw [Source.text, List.getElem?_eq_getElem hlt, Option.getD_some]
    rcases exists_of_mem_marked (List.getElem_mem hlt) with hx | hmark
    · exact ⟨_, hx⟩
    · exact ⟨_, hmark⟩

theorem eq_place_of_text_eq {length place other : Nat} {mark : Char} (hmark : mark ≠ 'x')
    (h : (Source.segment other).text (marked length place mark) = [mark]) : other = place := by
  by_contra hne
  rw [Source.text, marked, List.getElem?_set_ne (Ne.symm hne), List.getElem?_replicate] at h
  split at h
  · exact hmark (List.cons.inj h).1.symm
  · cases h

/-- A template is always filled with what is captured for a segment only if it is filled from
this segment and from nothing else. -/
theorem recalls_iff (hplace : place < (Pattern.ofBase base).labels.length) :
    Recalls base template place ↔
      sources (Pattern.ofBase base) template = [.segment place] := by
  constructor
  · intro h
    have hy := h.fill_marked hplace 'y' (by decide) (by decide)
    have hz := h.fill_marked hplace 'z' (by decide) (by decide)
    have hone : ∀ source ∈ sources (Pattern.ofBase base) template,
        ∀ other, source = .segment other → other < (Pattern.ofBase base).labels.length := by
      rintro source hsource other rfl
      obtain ⟨part, -, hpart⟩ := List.mem_filterMap.1 hsource
      exact lt_of_source? hpart
    cases hsources : sources (Pattern.ofBase base) template with
    | nil =>
      rw [hsources] at hy
      cases hy
    | cons source rest =>
      rw [hsources] at hy hz hone
      obtain ⟨hsource, hrest⟩ := List.forall_mem_cons.1 hone
      obtain ⟨c, hc⟩ := exists_text_eq place 'y' hsource
      obtain ⟨d, hd⟩ := exists_text_eq place 'z' hsource
      rw [List.flatMap_cons, hc] at hy
      rw [List.flatMap_cons, hd] at hz
      obtain ⟨rfl, hleft⟩ := List.cons.inj hy
      obtain ⟨rfl, -⟩ := List.cons.inj hz
      cases rest with
      | nil =>
        cases source with
        | character e =>
          have hsame : [e] = ['y'] := hc
          rw [Source.text, hsame] at hd
          exact absurd hd (by decide)
        | segment other => rw [eq_place_of_text_eq (by decide) hc]
      | cons next rest =>
        obtain ⟨e, he⟩ := exists_text_eq place 'y'
          (hrest next List.mem_cons_self)
        change (next :: rest).flatMap _ = [] at hleft
        rw [List.flatMap_cons, he] at hleft
        cases hleft
  · intro h path captures hscan
    have hlength := length_captures hscan
    rw [fill_eq_flatMap hlength, h, List.flatMap_singleton, Source.text]
    rw [hlength] at hplace
    rw [List.getElem?_eq_getElem hplace, Option.getD_some]

end Recalls

section Name

variable {base name : Text} {before behind : List Text}

theorem getElem?_labels
    (hsegments : (Path.segments base).filter Path.isDynamic = before ++ (':' :: name) :: behind) :
    (Pattern.ofBase base).labels[before.length]? = some (some name) := by
  rw [Pattern.ofBase, Pattern.labels_ofSegments, List.getElem?_map, hsegments,
    List.getElem?_append_right (Nat.le_refl _), Nat.sub_self]
  rfl

/-- Without a number in the name, only a reference by the whole name leads to a parameter. -/
theorem isWord_of_mem_sources
    (hsegments : (Path.segments base).filter Path.isDynamic = before ++ (':' :: name) :: behind)
    (hdollar : '$' ∉ name)
    (h : .segment before.length ∈ sources (Pattern.ofBase base) (':' :: name)) :
    name ≠ [] ∧ ∀ c ∈ name, isWord c := by
  obtain ⟨part, hpart, hsource⟩ := List.mem_filterMap.1 h
  have hsplit := isSplit_parts (':' :: name)
  have hformed := hsplit.formed part hpart
  cases part with
  | literal c => cases hsource
  | position digits =>
    have hmem : '$' ∈ ':' :: name := by
      rw [← hsplit.written]
      exact List.mem_flatMap_of_mem hpart List.mem_cons_self
    rcases List.mem_cons.1 hmem with hcolon | hname
    · exact absurd hcolon (by decide)
    · exact absurd hname hdollar
  | name word =>
    obtain ⟨place, hfound, hplace⟩ := Option.map_eq_some_iff.1 hsource
    cases hplace
    obtain ⟨hlt, hlabel, -⟩ := List.findIdx?_eq_some_iff_getElem.1 hfound
    have hname := getElem?_labels hsegments
    rw [List.getElem?_eq_getElem hlt, eq_of_beq hlabel] at hname
    cases hname
    exact hformed

theorem recalls_of_isWord
    (hsegments : (Path.segments base).filter Path.isDynamic = before ++ (':' :: name) :: behind)
    (hfirst : (':' :: name) ∉ before) (hne : name ≠ []) (hword : ∀ c ∈ name, isWord c) :
    Recalls base (':' :: name) before.length := by
  intro path captures hscan
  have hplace := (List.getElem?_eq_some_iff.1 (getElem?_labels hsegments)).1
  rw [length_captures hscan] at hplace
  have htext := List.getElem?_eq_getElem hplace
  rw [fill_name hne hword, atName?, Pattern.ofBase, Pattern.labels_ofSegments, hsegments,
    find?_zip_of_first hfirst htext, htext]
  rfl

/-- A parameter, written as it is in the base path, is always filled with what is captured for
it if its name is a word. Otherwise it takes a number in the name, which leads to it by
accident, and nothing around the number that is filled with anything. -/
theorem recalls_ownName_iff
    (hsegments : (Path.segments base).filter Path.isDynamic = before ++ (':' :: name) :: behind)
    (hfirst : (':' :: name) ∉ before) :
    Recalls base (':' :: name) before.length ↔
      (name ≠ [] ∧ ∀ c ∈ name, isWord c) ∨
        '$' ∈ name ∧ sources (Pattern.ofBase base) (':' :: name) = [.segment before.length] := by
  have hplace := (List.getElem?_eq_some_iff.1 (getElem?_labels hsegments)).1
  constructor
  · intro h
    have hsources := (recalls_iff hplace).1 h
    by_cases hdollar : '$' ∈ name
    · exact .inr ⟨hdollar, hsources⟩
    · refine .inl (isWord_of_mem_sources hsegments hdollar ?_)
      rw [hsources]
      exact List.mem_singleton_self _
  · rintro (⟨hne, hword⟩ | ⟨-, hsources⟩)
    · exact recalls_of_isWord hsegments hfirst hne hword
    · exact (recalls_iff hplace).2 hsources

/-- A wildcard before it and its own name behind it do not keep a parameter from being filled
in. -/
theorem twiceNamedBase_recalls :
    (Path.segments "/u/*/:id/f/:id".toList).filter Path.isDynamic =
        ["*".toList] ++ ":id".toList :: [":id".toList] ∧
      ":id".toList ∉ ["*".toList] ∧
      (Pattern.ofBase "/u/*/:id/f/:id".toList).scan? "/u/a/b/7/f/8".toList =
        some ["a/b".toList, "7".toList, "8".toList] ∧
      fill (Pattern.ofBase "/u/*/:id/f/:id".toList) ":id".toList
        ["a/b".toList, "7".toList, "8".toList] = "7".toList := by
  have hsegments : (Path.segments "/u/*/:id/f/:id".toList).filter Path.isDynamic =
      ["*".toList] ++ ":id".toList :: [":id".toList] := by decide
  have hfirst : ":id".toList ∉ ["*".toList] := by decide
  have hscan : (Pattern.ofBase "/u/*/:id/f/:id".toList).scan? "/u/a/b/7/f/8".toList =
      some ["a/b".toList, "7".toList, "8".toList] := by decide +kernel
  have hword : "id".toList ≠ [] ∧ ∀ c ∈ "id".toList, isWord c :=
    ⟨by decide, Text.forall_mem (by decide)⟩
  have hrecalls := (recalls_ownName_iff hsegments hfirst).2 (.inl hword) _ _ hscan
  exact ⟨hsegments, hfirst, hscan, (Option.some.inj hrecalls).symm⟩

/-- A name that goes on behind a hyphen is recorded, and only what stands before the hyphen is
looked for. -/
theorem hyphenBase_forgets :
    (Path.segments "/p/:my-id".toList).filter Path.isDynamic = [":my-id".toList] ∧
      (Pattern.ofBase "/p/:my-id".toList).names = ["my-id".toList] ∧
      (Pattern.ofBase "/p/:my-id".toList).scan? "/p/7".toList = some ["7".toList] ∧
      fill (Pattern.ofBase "/p/:my-id".toList) ":my-id".toList ["7".toList] = "-id".toList ∧
      ¬ Recalls "/p/:my-id".toList ":my-id".toList 0 := by
  have hscan : (Pattern.ofBase "/p/:my-id".toList).scan? "/p/7".toList = some ["7".toList] := by
    decide +kernel
  have hfill : fill (Pattern.ofBase "/p/:my-id".toList) ":my-id".toList ["7".toList] =
      "-id".toList := by decide +kernel
  refine ⟨by decide, by decide, hscan, hfill, ?_⟩
  intro h
  have htext := h _ _ hscan
  rw [hfill] at htext
  exact absurd htext (by decide)

end Name

end Template

end RuleGateway
