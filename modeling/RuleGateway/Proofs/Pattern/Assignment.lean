import Mathlib.Data.List.Forall2
import RuleGateway.Pattern.Scan
import RuleGateway.Proofs.Text.Runs

/-!
# Texts for dynamic segments

A pattern takes a path if there are texts to put in the place of its dynamic
segments that make the base path the path. `Assigns` says so without a word on
how such texts are found. There may be several: the captured ones give the first
dynamic segment as much as possible, then the second, and so on, which is what
`captures?_eq_some_iff` says.
-/

namespace RuleGateway

namespace Path

/-- Whether a dynamic segment may stand for a text. -/
def MayTake (segment text : Text) : Prop :=
  if segment = ['*'] then '\n' ∉ text else text ≠ [] ∧ '/' ∉ text

/-- The segments with texts in the place of the dynamic ones, from left to right. -/
def substitute : List Text → List Text → List Text
  | [], _ => []
  | segment :: segments, texts =>
    if isDynamic segment then texts.headD segment :: substitute segments texts.tail
    else segment :: substitute segments texts

/-- Texts for the dynamic segments, one for each and each of its kind, that make
the segments the path. -/
structure Assigns (segments texts : List Text) (path : Text) : Prop where
  fit : List.Forall₂ MayTake (segments.filter isDynamic) texts
  gives : ofSegments (substitute segments texts) = path

/-- The assignment that gives the first dynamic segment as much as possible, then
the second, and so on. -/
structure IsGreediest (segments texts : List Text) (path : Text) : Prop where
  assigns : Assigns segments texts path
  greediest : ∀ other, Assigns segments other path → other ≠ texts →
    other.map List.length < texts.map List.length

theorem isDynamic_iff {segment : Text} :
    isDynamic segment ↔ segment = ['*'] ∨ ∃ name, segment = ':' :: name := by
  rw [isDynamic, Bool.or_eq_true, beq_iff_eq, beq_iff_eq]
  refine or_congr Iff.rfl ?_
  cases segment <;> simp

section Assigns

variable {segment text path : Text} {segments texts : List Text}

theorem ofSegments_cons (segment : Text) (segments : List Text) :
    ofSegments (segment :: segments) = '/' :: (segment ++ ofSegments segments) := rfl

theorem assigns_nil : Assigns [] texts path ↔ texts = [] ∧ path = [] := by
  constructor
  · intro h
    exact ⟨List.forall₂_nil_left_iff.1 h.fit, h.gives.symm⟩
  · rintro ⟨rfl, rfl⟩
    exact ⟨.nil, rfl⟩

/-- A literal segment stands for itself. -/
theorem assigns_literal (h : isDynamic segment = false) :
    Assigns (segment :: segments) texts path ↔
      ∃ left, path = '/' :: (segment ++ left) ∧ Assigns segments texts left := by
  have hfilter : (segment :: segments).filter isDynamic = segments.filter isDynamic :=
    List.filter_cons_of_neg (by simp [h])
  have hsubstitute : substitute (segment :: segments) texts = segment :: substitute segments texts := by
    rw [substitute, if_neg (by simp [h])]
  constructor
  · intro hassigns
    refine ⟨_, ?_, hfilter ▸ hassigns.fit, rfl⟩
    rw [← hassigns.gives, hsubstitute, ofSegments_cons]
  · rintro ⟨left, rfl, hassigns⟩
    refine ⟨hfilter ▸ hassigns.fit, ?_⟩
    rw [hsubstitute, ofSegments_cons, hassigns.gives]

/-- Literal segments stand for themselves. -/
theorem assigns_literals {literals : List Text}
    (h : ∀ segment ∈ literals, isDynamic segment = false) :
    Assigns (literals ++ segments) texts path ↔
      ∃ left, path = ofSegments literals ++ left ∧ Assigns segments texts left := by
  induction literals generalizing path with
  | nil =>
    constructor
    · intro hassigns
      exact ⟨path, rfl, hassigns⟩
    · rintro ⟨left, rfl, hassigns⟩
      exact hassigns
  | cons literal literals ih =>
    have hliterals : ∀ segment ∈ literals, isDynamic segment = false :=
      fun other hother => h other (List.mem_cons_of_mem literal hother)
    rw [List.cons_append, assigns_literal (h literal List.mem_cons_self), ofSegments_cons]
    constructor
    · rintro ⟨rest, rfl, hrest⟩
      obtain ⟨left, rfl, hleft⟩ := (ih hliterals).1 hrest
      exact ⟨left, by simp, hleft⟩
    · rintro ⟨left, rfl, hassigns⟩
      exact ⟨ofSegments literals ++ left, by simp, (ih hliterals).2 ⟨left, rfl, hassigns⟩⟩

/-- A dynamic segment stands for the first of the texts. -/
theorem assigns_dynamic (h : isDynamic segment) :
    Assigns (segment :: segments) texts path ↔
      ∃ text rest left, texts = text :: rest ∧ MayTake segment text ∧
        path = '/' :: (text ++ left) ∧ Assigns segments rest left := by
  have hfilter : (segment :: segments).filter isDynamic = segment :: segments.filter isDynamic :=
    List.filter_cons_of_pos h
  have hsubstitute (text : Text) (rest : List Text) :
      substitute (segment :: segments) (text :: rest) = text :: substitute segments rest := by
    rw [substitute, if_pos h]
    rfl
  constructor
  · intro hassigns
    obtain ⟨text, rest, htake, hrest, rfl⟩ := List.forall₂_cons_left_iff.1 (hfilter ▸ hassigns.fit)
    refine ⟨text, rest, _, rfl, htake, ?_, hrest, rfl⟩
    rw [← hassigns.gives, hsubstitute, ofSegments_cons]
  · rintro ⟨text, rest, left, rfl, htake, rfl, hassigns⟩
    refine ⟨hfilter ▸ .cons htake hassigns.fit, ?_⟩
    rw [hsubstitute, ofSegments_cons, hassigns.gives]

/-- A literal segment leaves the greediest assignment as it is. -/
theorem IsGreediest.literal {left : Text} (h : IsGreediest segments texts left)
    (hliteral : isDynamic segment = false) :
    IsGreediest (segment :: segments) texts ('/' :: (segment ++ left)) := by
  refine ⟨(assigns_literal hliteral).2 ⟨left, rfl, h.assigns⟩, fun other hother hne => ?_⟩
  obtain ⟨left', hpath, hother'⟩ := (assigns_literal hliteral).1 hother
  have hsame : left = left' := List.append_cancel_left (List.cons.inj hpath).2
  subst hsame
  exact h.greediest other hother' hne

/-- A dynamic segment takes the longest text that leaves a path for the segments behind
it. -/
theorem IsGreediest.dynamic {rest : List Text} {left : Text} (h : IsGreediest segments rest left)
    (hdynamic : isDynamic segment) (htake : MayTake segment text)
    (hlongest : ∀ text' left', text ++ left = text' ++ left' → MayTake segment text' →
      (∃ rest', Assigns segments rest' left') → text' = text ∨ text'.length < text.length) :
    IsGreediest (segment :: segments) (text :: rest) ('/' :: (text ++ left)) := by
  refine ⟨(assigns_dynamic hdynamic).2 ⟨text, rest, left, rfl, htake, rfl, h.assigns⟩, ?_⟩
  intro other hother hne
  obtain ⟨text', rest', left', rfl, htake', hpath, hrest'⟩ := (assigns_dynamic hdynamic).1 hother
  have hcut := (List.cons.inj hpath).2
  rw [List.map_cons, List.map_cons, List.cons_lt_cons_iff]
  rcases hlongest text' left' hcut htake' ⟨rest', hrest'⟩ with rfl | hshorter
  · cases List.append_cancel_left hcut
    refine .inr ⟨rfl, h.greediest rest' hrest' ?_⟩
    rintro rfl
    exact hne rfl
  · exact .inl hshorter

end Assigns

end Path

namespace Segment

theorem ofText_wildcard : ofText ['*'] = .wildcard := rfl

theorem ofText_param (name : Text) : ofText (':' :: name) = .param name := by
  have hne : ':' :: name ≠ ['*'] := by simp
  rw [ofText, if_neg hne]

theorem ofText_literal {segment : Text} (h : Path.isDynamic segment = false) :
    ofText segment = .literal segment := by
  rw [Bool.eq_false_iff, ne_eq, Path.isDynamic_iff, not_or, not_exists] at h
  rw [ofText, if_neg h.1]
  intro name hname
  exact h.2 name hname

end Segment

namespace Pattern

open RuleGateway.Path

section Splits

variable {take : Char → Bool} {text : Text}

theorem mem_splits {taken left : Text} :
    (taken, left) ∈ splits take text ↔ text = taken ++ left ∧ ∀ c ∈ taken, take c := by
  induction text generalizing taken with
  | nil =>
    rw [splits, List.mem_singleton, Prod.mk.injEq, eq_comm (a := []), List.append_eq_nil_iff]
    constructor
    · rintro ⟨rfl, rfl⟩
      exact ⟨⟨rfl, rfl⟩, fun c hc => absurd hc List.not_mem_nil⟩
    · exact And.left
  | cons c rest ih =>
    rw [splits, List.mem_append, List.mem_singleton, Prod.mk.injEq]
    cases taken with
    | nil =>
      have hfront : ([], left) ∉ (splits take rest).map fun cut => (c :: cut.1, cut.2) := by
        simp
      constructor
      · rintro (hmem | ⟨-, rfl⟩)
        · split at hmem
          · exact absurd hmem hfront
          · cases hmem
        · exact ⟨rfl, fun c hc => absurd hc List.not_mem_nil⟩
      · rintro ⟨rfl, -⟩
        exact .inr ⟨rfl, rfl⟩
    | cons d taken =>
      rw [List.cons_append, List.cons.injEq, List.forall_mem_cons]
      by_cases hc : take c
      · rw [if_pos hc, List.mem_map]
        constructor
        · rintro (⟨⟨taken', left'⟩, hcut, hsame⟩ | ⟨hnil, -⟩)
          · cases hsame
            obtain ⟨hrest, htaken⟩ := ih.1 hcut
            exact ⟨⟨rfl, hrest⟩, hc, htaken⟩
          · cases hnil
        · rintro ⟨⟨rfl, hrest⟩, -, htaken⟩
          exact .inl ⟨(taken, left), ih.2 ⟨hrest, htaken⟩, rfl⟩
      · rw [if_neg hc]
        constructor
        · rintro (hnil | ⟨hnil, -⟩) <;> cases hnil
        · rintro ⟨⟨rfl, -⟩, htake, -⟩
          exact absurd htake hc

/-- The ways of cutting a text come with the longest first part first. -/
theorem splits_pairwise (take : Char → Bool) (text : Text) :
    (splits take text).Pairwise fun a b => b.1.length < a.1.length := by
  induction text with
  | nil => exact List.pairwise_singleton ..
  | cons c rest ih =>
    rw [splits]
    split
    · rw [List.pairwise_append]
      refine ⟨?_, List.pairwise_singleton .., ?_⟩
      · rw [List.pairwise_map]
        exact ih.imp fun hlt => Nat.succ_lt_succ hlt
      · intro cut hcut last hlast
        obtain ⟨shorter, -, rfl⟩ := List.mem_map.1 hcut
        rw [List.mem_singleton.1 hlast]
        exact Nat.succ_pos _
    · exact List.pairwise_singleton ..

theorem findSome?_filter {α β : Type} (keep : α → Bool) (f : α → Option β) (items : List α) :
    (items.filter keep).findSome? f = items.findSome? fun a => if keep a then f a else none := by
  induction items with
  | nil => rfl
  | cons a items ih =>
    by_cases ha : keep a
    · simp only [List.filter_cons_of_pos ha, List.findSome?_cons, if_pos ha, ih]
    · simp only [List.filter_cons_of_neg ha, List.findSome?_cons, if_neg ha, ih]

end Splits

theorem mayTake_wildcard {text : Text} : MayTake ['*'] text ↔ ∀ c ∈ text, (c != '\n') = true := by
  rw [MayTake, if_pos rfl]
  constructor
  · intro h c hc
    exact Text.bne_of_mem h hc
  · intro h hmem
    exact absurd (h '\n' hmem) (by decide)

theorem mayTake_param {name text : Text} :
    MayTake (':' :: name) text ↔ (∀ c ∈ text, (c != '/') = true) ∧ text ≠ [] := by
  have hne : ':' :: name ≠ ['*'] := by simp
  rw [MayTake, if_neg hne, and_comm]
  refine and_congr ⟨?_, ?_⟩ Iff.rfl
  · intro h c hc
    exact Text.bne_of_mem h hc
  · intro h hmem
    exact absurd (h '/' hmem) (by decide)

/-- A dynamic segment tries the texts it may take, the longest first. -/
theorem exists_cuts {segment : Text} (h : Path.isDynamic segment) (pattern : Pattern) (path : Text) :
    ∃ cuts : List (Text × Text),
      (∀ cut, cut ∈ cuts ↔ path = cut.1 ++ cut.2 ∧ MayTake segment cut.1) ∧
      cuts.Pairwise (fun a b => b.1.length < a.1.length) ∧
      captures? (Segment.ofText segment :: pattern) ('/' :: path) =
        cuts.findSome? fun cut => (captures? pattern cut.2).map (cut.1 :: ·) := by
  rcases isDynamic_iff.1 h with rfl | ⟨name, rfl⟩
  · refine ⟨splits (· != '\n') path, ?_, splits_pairwise _ _, rfl⟩
    intro cut
    rw [mayTake_wildcard]
    exact mem_splits
  · refine ⟨(splits (· != '/') path).filter (!·.1.isEmpty), ?_, (splits_pairwise _ _).filter _, ?_⟩
    · intro cut
      rw [List.mem_filter, mayTake_param, ← and_assoc]
      exact and_congr mem_splits (by simp)
    · rw [Segment.ofText_param, findSome?_filter, captures?]
      congr 1
      funext cut
      obtain ⟨taken, left⟩ := cut
      cases taken <;> rfl

section Captures

variable {segments texts : List Text} {path : Text}

/-- A literal segment takes itself behind a slash. -/
theorem captures?_literal_eq_some {text : Text} {pattern : Pattern} :
    captures? (.literal text :: pattern) path = some texts ↔
      ∃ left, path = '/' :: (text ++ left) ∧ captures? pattern left = some texts := by
  by_cases hslash : ∃ rest, path = '/' :: rest
  · obtain ⟨rest, rfl⟩ := hslash
    rw [captures?, Option.bind_eq_some_iff]
    simp only [Text.after?_eq_some_iff, List.cons.injEq, true_and]
  · rw [captures?_of_not_slash _ _ _ fun rest hrest => hslash ⟨rest, hrest⟩]
    constructor
    · intro h
      cases h
    · rintro ⟨left, rfl, -⟩
      exact absurd ⟨_, rfl⟩ hslash

/-- A dynamic segment takes nothing that does not start with a slash. -/
theorem exists_slash_of_captures? {segment : Segment} {pattern : Pattern}
    (h : captures? (segment :: pattern) path = some texts) : ∃ rest, path = '/' :: rest := by
  by_contra hslash
  rw [captures?_of_not_slash _ _ _ fun rest hrest => hslash ⟨rest, hrest⟩] at h
  cases h

/-- Where there is an assignment, something is captured. -/
theorem isSome_captures? (h : Assigns segments texts path) :
    (captures? (segments.map Segment.ofText) path).isSome := by
  induction segments generalizing texts path with
  | nil =>
    obtain ⟨-, rfl⟩ := assigns_nil.1 h
    rfl
  | cons segment segments ih =>
    rw [List.map_cons]
    by_cases hdynamic : Path.isDynamic segment
    · obtain ⟨text, rest, left, -, htake, rfl, hrest⟩ := (assigns_dynamic hdynamic).1 h
      obtain ⟨cuts, hcuts, -, hcaptures⟩ :=
        exists_cuts hdynamic (segments.map Segment.ofText) (text ++ left)
      rw [hcaptures, List.findSome?_isSome_iff]
      refine ⟨(text, left), (hcuts _).2 ⟨rfl, htake⟩, ?_⟩
      rw [Option.isSome_map]
      exact ih hrest
    · rw [Bool.not_eq_true] at hdynamic
      obtain ⟨left, hpath, hrest⟩ := (assigns_literal hdynamic).1 h
      obtain ⟨found, hfound⟩ := Option.isSome_iff_exists.1 (ih hrest)
      rw [Segment.ofText_literal hdynamic]
      exact Option.isSome_of_eq_some (captures?_literal_eq_some.2 ⟨left, hpath, hfound⟩)

/-- What is captured is the greediest assignment. -/
theorem isGreediest_of_captures? (h : captures? (segments.map Segment.ofText) path = some texts) :
    IsGreediest segments texts path := by
  induction segments generalizing texts path with
  | nil =>
    cases path with
    | nil =>
      cases h
      refine ⟨assigns_nil.2 ⟨rfl, rfl⟩, ?_⟩
      intro other hother hne
      exact absurd (assigns_nil.1 hother).1 hne
    | cons c path => cases h
  | cons segment segments ih =>
    rw [List.map_cons] at h
    by_cases hdynamic : Path.isDynamic segment
    · obtain ⟨path, rfl⟩ := exists_slash_of_captures? h
      obtain ⟨cuts, hcuts, hlonger, hcaptures⟩ :=
        exists_cuts hdynamic (segments.map Segment.ofText) path
      rw [hcaptures] at h
      obtain ⟨before, ⟨text, left⟩, after, hsplit, hhere, hbefore⟩ :=
        List.findSome?_eq_some_iff.1 h
      obtain ⟨rest, hrest, rfl⟩ := Option.map_eq_some_iff.1 hhere
      obtain ⟨rfl, htake⟩ := (hcuts (text, left)).1 (by simp [hsplit])
      refine (ih hrest).dynamic hdynamic htake fun text' left' hpath htake' hassigned => ?_
      -- The other assignment cuts the path before, at or after the captured text.
      have hcut : (text', left') ∈ cuts := (hcuts _).2 ⟨hpath, htake'⟩
      rw [hsplit, List.mem_append, List.mem_cons] at hcut
      rcases hcut with hearlier | hsame | hlater
      · obtain ⟨rest', hrest'⟩ := hassigned
        have hnone := hbefore _ hearlier
        have hsome := isSome_captures? hrest'
        rw [Option.map_eq_none_iff] at hnone
        rw [hnone] at hsome
        cases hsome
      · exact .inl (Prod.mk.inj hsame).1
      · rw [hsplit, List.pairwise_append, List.pairwise_cons] at hlonger
        exact .inr (hlonger.2.1.1 _ hlater)
    · rw [Bool.not_eq_true] at hdynamic
      rw [Segment.ofText_literal hdynamic] at h
      obtain ⟨left, rfl, hleft⟩ := captures?_literal_eq_some.1 h
      exact (ih hleft).literal hdynamic

/-- The pattern of a base path takes a path if there is an assignment. -/
theorem isSome_scan?_iff {base : Text} :
    ((ofBase base).scan? path).isSome ↔ ∃ texts, Assigns (Path.segments base) texts path := by
  rw [scan?_eq_captures?, ofBase]
  constructor
  · intro hsome
    obtain ⟨texts, htexts⟩ := Option.isSome_iff_exists.1 hsome
    exact ⟨texts, (isGreediest_of_captures? htexts).assigns⟩
  · rintro ⟨texts, htexts⟩
    exact isSome_captures? htexts

/-- The captured texts are the greediest assignment, and nothing is captured where
there is none. -/
theorem captures?_eq_some_iff :
    captures? (segments.map Segment.ofText) path = some texts ↔ IsGreediest segments texts path := by
  constructor
  · exact isGreediest_of_captures?
  · intro h
    obtain ⟨found, hfound⟩ := Option.isSome_iff_exists.1 (isSome_captures? h.assigns)
    have hbest := isGreediest_of_captures? hfound
    by_cases hsame : found = texts
    · rw [hfound, hsame]
    · have hless := h.greediest found hbest.assigns hsame
      have hless' := hbest.greediest texts h.assigns (Ne.symm hsame)
      exact absurd hless' (List.lt_asymm hless)

end Captures

end Pattern

end RuleGateway
