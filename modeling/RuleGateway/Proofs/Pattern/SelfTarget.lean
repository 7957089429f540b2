import Mathlib.Data.List.TakeWhile
import RuleGateway.Proofs.Pattern.Assignment
import RuleGateway.Proofs.Pattern.Template
import RuleGateway.Proofs.Text.Digits

/-!
# Targets that give the path back

A target may have the shape of its own base path, with a reference in the place of
each dynamic segment. What it is filled with is then the path that was taken, since
the number and the name of a dynamic segment both lead to the text that was
captured for it, wherever wildcards and parameters stand between each other.
-/

namespace RuleGateway

namespace Path

/-- The name of a dynamic segment, none for a wildcard. -/
def name? : Text → Option Text
  | ':' :: name => some name
  | _ => none

/-- What is done to all segments is done to the texts of the dynamic ones, if it
leaves the others alone. -/
theorem map_substitute {f : Text → Text} {segments texts : List Text}
    (hliteral : ∀ segment ∈ segments, isDynamic segment = false → f segment = segment)
    (hlength : (segments.filter isDynamic).length = texts.length) :
    (substitute segments texts).map f = substitute segments (texts.map f) := by
  induction segments generalizing texts with
  | nil => rfl
  | cons segment segments ih =>
    have hliteral' : ∀ other ∈ segments, isDynamic other = false → f other = other :=
      fun other hother => hliteral other (List.mem_cons_of_mem segment hother)
    by_cases hdynamic : isDynamic segment
    · rw [List.filter_cons_of_pos hdynamic, List.length_cons] at hlength
      cases texts with
      | nil => cases hlength
      | cons text texts =>
        rw [List.map_cons, substitute, if_pos hdynamic, substitute, if_pos hdynamic, List.map_cons]
        change f text :: (substitute segments texts).map f = f text :: substitute segments (texts.map f)
        rw [ih hliteral' (Nat.succ.inj hlength)]
    · rw [List.filter_cons_of_neg hdynamic] at hlength
      rw [substitute, if_neg hdynamic, substitute, if_neg hdynamic, List.map_cons,
        ih hliteral' hlength]
      rw [Bool.not_eq_true] at hdynamic
      rw [hliteral segment List.mem_cons_self hdynamic]

end Path

namespace Pattern

/-- The dynamic segments are known by their names. -/
theorem labels_ofSegments (segments : List Text) :
    labels (segments.map Segment.ofText) = (segments.filter Path.isDynamic).map Path.name? := by
  induction segments with
  | nil => rfl
  | cons segment segments ih =>
    rw [labels] at ih
    by_cases hdynamic : Path.isDynamic segment
    · rw [List.filter_cons_of_pos hdynamic, List.map_cons, List.map_cons, ← ih, labels]
      rcases Path.isDynamic_iff.1 hdynamic with rfl | ⟨name, rfl⟩
      · rw [Segment.ofText_wildcard]
        rfl
      · rw [Segment.ofText_param]
        rfl
    · rw [List.filter_cons_of_neg hdynamic, List.map_cons, ← ih, labels]
      rw [Bool.not_eq_true] at hdynamic
      rw [Segment.ofText_literal hdynamic]
      rfl

end Pattern

namespace Template

section Reference

variable {pattern : Pattern} {captures : List Text}

theorem isDigit_of_mem_ofNat {n : Nat} : ∀ c ∈ Text.ofNat n, c.isDigit := by
  intro c hc
  obtain ⟨d, hd, rfl⟩ := Text.mem_toDigits (by decide) hc
  have hdigits : ∀ d < 10, d.digitChar.isDigit := by decide
  exact hdigits d hd

/-- A number behind a dollar sign is one reference. -/
theorem fill_position (n : Nat) :
    fill pattern ('$' :: Text.ofNat n) captures = (atPosition? captures n).getD [] := by
  have hreference : reference? '$' (Text.ofNat n) = some (.position (Text.ofNat n), []) := by
    rw [reference?, if_pos rfl, List.takeWhile_eq_self_iff.2 isDigit_of_mem_ofNat,
      List.dropWhile_eq_nil_iff.2 isDigit_of_mem_ofNat]
    cases hdigits : Text.ofNat n with
    | nil => exact absurd hdigits Nat.toDigits_ne_nil
    | cons c rest => rfl
  rw [fill, parts_of_reference hreference, parts, List.flatMap_singleton, value,
    Text.decimal?_ofNat, Option.bind_some]

/-- A word behind a colon is one reference. -/
theorem fill_name {name : Text} (hne : name ≠ []) (hword : ∀ c ∈ name, isWord c) :
    fill pattern (':' :: name) captures = (atName? pattern captures name).getD [] := by
  have hreference : reference? ':' name = some (.name name, []) := by
    rw [reference?, if_neg (by decide), if_pos rfl, List.takeWhile_eq_self_iff.2 hword,
      List.dropWhile_eq_nil_iff.2 hword]
    cases name with
    | nil => exact absurd rfl hne
    | cons c rest => rfl
  rw [fill, parts_of_reference hreference, parts, List.flatMap_singleton, value]

/-- A template is filled segment by segment: no reference runs over a slash. -/
theorem fill_ofSegments (segments : List Text) :
    fill pattern (Path.ofSegments segments) captures =
      Path.ofSegments (segments.map (fill pattern · captures)) := by
  induction segments with
  | nil => exact fill_of_isPlain (isPlain_of_unmarked fun c hc => absurd hc List.not_mem_nil)
  | cons segment segments ih =>
    have hstops : Text.Stops isWord (Path.ofSegments segments) := by
      cases segments with
      | nil => exact Text.stops_nil isWord
      | cons next segments => exact Text.stops_cons (by decide) _
    have hslash : reference? '/' (segment ++ Path.ofSegments segments) = none :=
      reference?_eq_none_of_ne (by decide) (by decide)
    rw [Path.ofSegments_cons, fill_cons_of_literal hslash, fill_append hstops, ih, List.map_cons,
      Path.ofSegments_cons]

/-- Where no two labels are one name, a name leads to the text beside it. -/
theorem find?_zip_of_nodup {labels : List (Option Text)} {captures : List Text} {word text : Text}
    (hnodup : (labels.filterMap id).Nodup) (hmem : (some word, text) ∈ labels.zip captures) :
    (labels.zip captures).find? (·.1 == some word) = some (some word, text) := by
  induction labels generalizing captures with
  | nil => cases hmem
  | cons label labels ih =>
    cases captures with
    | nil => cases hmem
    | cons captured captures =>
      rw [List.zip_cons_cons, List.mem_cons] at hmem
      rw [List.zip_cons_cons]
      rcases hmem with hhere | hlater
      · cases hhere
        exact List.find?_cons_of_pos (beq_self_eq_true _)
      · have hword : word ∈ labels.filterMap id :=
          List.mem_filterMap.2 ⟨some word, (List.of_mem_zip hlater).1, rfl⟩
        have hother : label ≠ some word := by
          rintro rfl
          exact (List.nodup_cons.1 hnodup).1 hword
        have hnodup' : (labels.filterMap id).Nodup :=
          hnodup.sublist ((List.sublist_cons_self label labels).filterMap id)
        rw [List.find?_cons_of_neg (by simpa using hother)]
        exact ih hnodup' hlater

end Reference

/-- A base path whose dynamic segments can all be referred to by name, and whose
literal segments refer to nothing. -/
structure IsReferable (base : Text) : Prop where
  rooted : base.head? = some '/'
  literals_unmarked : ∀ segment ∈ Path.segments base, Path.isDynamic segment = false →
    '$' ∉ segment ∧ ':' ∉ segment
  names_distinct : (Pattern.ofBase base).names.Nodup
  names_words : ∀ name ∈ (Pattern.ofBase base).names, name ≠ [] ∧ ∀ c ∈ name, isWord c

/-- What refers to a dynamic segment with the given number: a parameter goes by its
name, which is how it stands in the base path, unless it is to go by its number. -/
def reference (numbered : Nat → Bool) (n : Nat) (segment : Text) : Text :=
  if segment = ['*'] ∨ numbered n then '$' :: Text.ofNat n else segment

/-- The base path with a reference in the place of each dynamic segment. -/
def selfTarget (numbered : Nat → Bool) (base : Text) : Text :=
  Path.ofSegments (Path.substitute (Path.segments base)
    (((Path.segments base).filter Path.isDynamic).mapIdx fun i segment =>
      reference numbered (i + 1) segment))

namespace IsReferable

variable {base : Text} {captures : List Text} {i : Nat} {segment text : Text}

theorem fill_literal (h : IsReferable base) (hmem : segment ∈ Path.segments base)
    (hliteral : Path.isDynamic segment = false) {pattern : Pattern} :
    fill pattern segment captures = segment := by
  obtain ⟨hdollar, hcolon⟩ := h.literals_unmarked segment hmem hliteral
  refine fill_of_isPlain (isPlain_of_unmarked ?_)
  intro c hc
  constructor
  · rintro rfl
    exact hdollar hc
  · rintro rfl
    exact hcolon hc

/-- The name of a dynamic segment leads to the text captured for it. -/
theorem fill_param (h : IsReferable base) {name : Text}
    (hsegment : ((Path.segments base).filter Path.isDynamic)[i]? = some (':' :: name))
    (htext : captures[i]? = some text) :
    fill (Pattern.ofBase base) (':' :: name) captures = text := by
  have hlabel : (Pattern.ofBase base).labels[i]? = some (some name) := by
    rw [Pattern.ofBase, Pattern.labels_ofSegments, List.getElem?_map, hsegment]
    rfl
  have hname : name ∈ (Pattern.ofBase base).names :=
    List.mem_filterMap.2 ⟨some name, List.mem_of_getElem? hlabel, rfl⟩
  have hpair : (some name, text) ∈ (Pattern.ofBase base).labels.zip captures :=
    List.mem_of_getElem? (List.getElem?_zip_eq_some.2 ⟨hlabel, htext⟩)
  obtain ⟨hne, hword⟩ := h.names_words name hname
  rw [fill_name hne hword, atName?, find?_zip_of_nodup h.names_distinct hpair]
  rfl

/-- Every reference leads to the text captured for its segment. -/
theorem fill_reference (h : IsReferable base) (numbered : Nat → Bool)
    (hsegment : ((Path.segments base).filter Path.isDynamic)[i]? = some segment)
    (htext : captures[i]? = some text) :
    fill (Pattern.ofBase base) (reference numbered (i + 1) segment) captures = text := by
  rw [reference]
  split
  · rw [fill_position, atPosition?, if_neg (Nat.succ_ne_zero i), Nat.add_sub_cancel, htext]
    rfl
  · rename_i hnamed
    have hdynamic : Path.isDynamic segment := List.of_mem_filter (List.mem_of_getElem? hsegment)
    rcases Path.isDynamic_iff.1 hdynamic with hwildcard | ⟨name, rfl⟩
    · exact absurd (.inl hwildcard) hnamed
    · exact h.fill_param hsegment htext

end IsReferable

/-- The base path with references in the place of its dynamic segments, parameters
by name or by number, is filled with the path that was taken, and each reference
is filled with the text of its own segment. -/
theorem fill_selfTarget {base path : Text} {captures : List Text} (h : IsReferable base)
    (hcaptures : (Pattern.ofBase base).scan? path = some captures) (numbered : Nat → Bool) :
    fill (Pattern.ofBase base) (selfTarget numbered base) captures = path ∧
    ∀ i segment, ((Path.segments base).filter Path.isDynamic)[i]? = some segment →
      ∃ text, captures[i]? = some text ∧
        fill (Pattern.ofBase base) ('$' :: Text.ofNat (i + 1)) captures = text ∧
        (segment ≠ ['*'] → fill (Pattern.ofBase base) segment captures = text) := by
  rw [Pattern.scan?_eq_captures?, Pattern.ofBase] at hcaptures
  have hassigns := (Pattern.isGreediest_of_captures? hcaptures).assigns
  have hlength : ((Path.segments base).filter Path.isDynamic).length = captures.length :=
    hassigns.fit.length_eq
  have hcaptured (i : Nat) (segment : Text)
      (hsegment : ((Path.segments base).filter Path.isDynamic)[i]? = some segment) :
      ∃ text, captures[i]? = some text := by
    have hi := (List.getElem?_eq_some_iff.1 hsegment).1
    rw [hlength] at hi
    exact ⟨_, List.getElem?_eq_getElem hi⟩
  constructor
  · have hreferences : (((Path.segments base).filter Path.isDynamic).mapIdx fun i segment =>
        reference numbered (i + 1) segment).map (fill (Pattern.ofBase base) · captures) =
          captures := by
      apply List.ext_getElem?
      intro i
      rw [List.getElem?_map, List.getElem?_mapIdx, Option.map_map]
      cases hsegment : ((Path.segments base).filter Path.isDynamic)[i]? with
      | none =>
        rw [List.getElem?_eq_none_iff, hlength] at hsegment
        rw [List.getElem?_eq_none hsegment]
        rfl
      | some segment =>
        obtain ⟨text, htext⟩ := hcaptured i segment hsegment
        rw [htext, Option.map_some]
        exact congrArg some (h.fill_reference numbered hsegment htext)
    rw [selfTarget, fill_ofSegments, Path.map_substitute, hreferences, hassigns.gives]
    · intro segment hsegment hliteral
      exact h.fill_literal hsegment hliteral
    · rw [List.length_mapIdx]
  · intro i segment hsegment
    obtain ⟨text, htext⟩ := hcaptured i segment hsegment
    have hnumber := h.fill_reference (fun _ => true) hsegment htext
    have hname := h.fill_reference (fun _ => false) hsegment htext
    rw [reference, if_pos (.inr rfl)] at hnumber
    refine ⟨text, htext, hnumber, ?_⟩
    intro hparam
    rwa [reference, if_neg (by simpa using hparam)] at hname

/-- Two wildcards around two parameters, the second of which goes by its number. -/
theorem mixedBase_selfTarget :
    IsReferable "/u/*/:id/f/:kind/*".toList ∧
      selfTarget (· == 3) "/u/*/:id/f/:kind/*".toList = "/u/$1/:id/f/$3/$4".toList ∧
      fill (Pattern.ofBase "/u/*/:id/f/:kind/*".toList) "/u/$1/:id/f/$3/$4".toList
        ["a/b".toList, "7".toList, "png".toList, []] = "/u/a/b/7/f/png/".toList := by
  have hnames : (Pattern.ofBase "/u/*/:id/f/:kind/*".toList).names =
      ["id".toList, "kind".toList] := by decide
  have hreferable : IsReferable "/u/*/:id/f/:kind/*".toList :=
    { rooted := by decide
      literals_unmarked := by decide
      names_distinct := by decide
      names_words := by
        intro name hname
        rw [hnames, List.mem_cons, List.mem_singleton] at hname
        rcases hname with rfl | rfl
        · exact ⟨by decide, Text.forall_mem (by decide)⟩
        · exact ⟨by decide, Text.forall_mem (by decide)⟩ }
  have htarget : selfTarget (· == 3) "/u/*/:id/f/:kind/*".toList = "/u/$1/:id/f/$3/$4".toList := by
    decide
  have hscan : (Pattern.ofBase "/u/*/:id/f/:kind/*".toList).scan? "/u/a/b/7/f/png/".toList =
      some ["a/b".toList, "7".toList, "png".toList, []] := by
    decide +kernel
  refine ⟨hreferable, htarget, ?_⟩
  rw [← htarget]
  exact (fill_selfTarget hreferable hscan (· == 3)).1

end Template

end RuleGateway
