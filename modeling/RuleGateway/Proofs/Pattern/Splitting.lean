import Mathlib.Data.List.TakeWhile
import RuleGateway.Proofs.Pattern.SelfTarget

/-!
# The one way to read a template

A template is read from left to right, each time the longest part that it starts with.
`IsSplit` says so without the reader, and `isSplit_iff` that the reader finds what it says,
which is the only thing that it allows. `StandsFor` says what the parts are filled with, in
terms of the base path and the captured texts.
-/

namespace RuleGateway

theorem Path.name?_eq_some_iff {segment word : Text} :
    name? segment = some word ↔ segment = ':' :: word := by
  constructor
  · intro h
    rw [name?.eq_def] at h
    split at h
    · cases h
      rfl
    · cases h
  · rintro rfl
    rfl

namespace Template

namespace Part

/-- What a part is written as. -/
def text : Part → Text
  | literal c => [c]
  | position digits => '$' :: digits
  | name word => ':' :: word

/-- Whether a part refers with a run of the characters of its kind, if it is a reference. -/
def IsFormed : Part → Prop
  | literal _ => True
  | position digits => digits ≠ [] ∧ ∀ c ∈ digits, c.isDigit
  | name word => word ≠ [] ∧ ∀ c ∈ word, isWord c

theorem text_ne_nil (part : Part) : part.text ≠ [] := by
  cases part <;> exact List.cons_ne_nil _ _

theorem eq_of_text_eq {a b : Part} (ha : a.IsFormed) (hb : b.IsFormed) (h : a.text = b.text) :
    a = b := by
  cases a <;> cases b <;> obtain ⟨hmarker, hrun⟩ := List.cons.inj h
  case literal.literal => rw [hmarker]
  case position.position => rw [hrun]
  case name.name => rw [hrun]
  case literal.position => exact absurd hrun.symm hb.1
  case literal.name => exact absurd hrun.symm hb.1
  case position.literal => exact absurd hrun ha.1
  case name.literal => exact absurd hrun ha.1
  case position.name => exact absurd hmarker (by decide)
  case name.position => exact absurd hmarker (by decide)

end Part

/-- Whether a part is the longest that a template starts with, and what is left of it. -/
structure IsLongest (part : Part) (template rest : Text) : Prop where
  formed : part.IsFormed
  written : part.text ++ rest = template
  longest : ∀ other : Part, other.IsFormed → other.text <+: template →
    other.text.length ≤ part.text.length

/-- The parts of a template from left to right, each the longest that is possible. -/
inductive IsSplit : Text → List Part → Prop where
  | nil : IsSplit [] []
  | cons {part : Part} {template rest : Text} {split : List Part} (h : IsLongest part template rest)
      (hrest : IsSplit rest split) : IsSplit template (part :: split)

variable {template rest front back : Text} {part : Part} {split : List Part}

theorem IsLongest.unique {other : Part} {left : Text} (h : IsLongest part template rest)
    (hother : IsLongest other template left) : part = other ∧ rest = left := by
  have hlength : part.text.length = other.text.length :=
    Nat.le_antisymm (hother.longest part h.formed ⟨rest, h.written⟩)
      (h.longest other hother.formed ⟨left, hother.written⟩)
  obtain ⟨htext, hrest⟩ := List.append_inj (h.written.trans hother.written.symm) hlength
  exact ⟨Part.eq_of_text_eq h.formed hother.formed htext, hrest⟩

theorem IsSplit.unique {other : List Part} (h : IsSplit template split)
    (hother : IsSplit template other) : split = other := by
  induction h generalizing other with
  | nil =>
    cases hother with
    | nil => rfl
    | cons hpart _ => exact absurd (List.append_eq_nil_iff.1 hpart.written).1 (Part.text_ne_nil _)
  | cons hpart _ ih =>
    cases hother with
    | nil => exact absurd (List.append_eq_nil_iff.1 hpart.written).1 (Part.text_ne_nil _)
    | cons hpart' hrest' =>
      obtain ⟨rfl, rfl⟩ := hpart.unique hpart'
      rw [ih hrest']

/-- The parts are the template, with nothing lost and nothing taken twice. -/
theorem IsSplit.written (h : IsSplit template split) : split.flatMap Part.text = template := by
  induction h with
  | nil => rfl
  | cons hpart _ ih => rw [List.flatMap_cons, ih, hpart.written]

theorem IsSplit.formed (h : IsSplit template split) : ∀ part ∈ split, part.IsFormed := by
  induction h with
  | nil => exact fun part hpart => absurd hpart List.not_mem_nil
  | cons hpart _ ih => exact List.forall_mem_cons.2 ⟨hpart.formed, ih⟩

section Reader

variable {c : Char} {run left : Text}

/-- Whether a character begins a reference if characters of its kind follow. -/
def IsMarker (c : Char) : Prop := c = '$' ∨ c = ':'

/-- The characters that a reference goes on with behind its marker. -/
def kindOf (marker : Char) : Char → Bool := if marker = '$' then Char.isDigit else isWord

/-- The reference that a marker and the run behind it are. -/
def partOf (marker : Char) (run : Text) : Part :=
  if marker = '$' then .position run else .name run

theorem IsMarker.text_partOf (hc : IsMarker c) (run : Text) : (partOf c run).text = c :: run := by
  rcases hc with rfl | rfl <;> rfl

theorem IsMarker.isFormed_partOf (hc : IsMarker c) (hne : run ≠ [])
    (hrun : ∀ d ∈ run, kindOf c d) : (partOf c run).IsFormed := by
  rcases hc with rfl | rfl <;> exact ⟨hne, hrun⟩

theorem exists_partOf (h : part.IsFormed) :
    (∃ c, part = .literal c) ∨
      ∃ c run, IsMarker c ∧ run ≠ [] ∧ (∀ d ∈ run, kindOf c d) ∧ part = partOf c run := by
  cases part with
  | literal c => exact .inl ⟨c, rfl⟩
  | position digits => exact .inr ⟨'$', digits, .inl rfl, h.1, h.2, rfl⟩
  | name word => exact .inr ⟨':', word, .inr rfl, h.1, h.2, rfl⟩

theorem IsMarker.reference?_eq (hc : IsMarker c) (rest : Text) :
    reference? c rest =
      if rest.takeWhile (kindOf c) = [] then none
      else some (partOf c (rest.takeWhile (kindOf c)), rest.dropWhile (kindOf c)) := by
  rcases hc with rfl | rfl
  · have hkind : kindOf '$' = Char.isDigit := rfl
    rw [reference?, if_pos rfl, hkind]
    cases rest.takeWhile Char.isDigit <;> rfl
  · have hkind : kindOf ':' = isWord := rfl
    rw [reference?, if_neg (by decide), if_pos rfl, hkind]
    cases rest.takeWhile isWord <;> rfl

/-- A reference is read where a run of its kind stands behind a marker. -/
theorem reference?_eq_some_iff :
    reference? c rest = some (part, left) ↔
      IsMarker c ∧ rest.takeWhile (kindOf c) ≠ [] ∧
        part = partOf c (rest.takeWhile (kindOf c)) ∧ left = rest.dropWhile (kindOf c) := by
  by_cases hc : IsMarker c
  · rw [hc.reference?_eq, Option.ite_none_left_eq_some, Option.some_inj, Prod.mk.injEq]
    constructor
    · rintro ⟨hne, rfl, rfl⟩
      exact ⟨hc, hne, rfl, rfl⟩
    · rintro ⟨-, hne, rfl, rfl⟩
      exact ⟨hne, rfl, rfl⟩
  · rw [reference?_eq_none_of_ne (fun h => hc (.inl h)) fun h => hc (.inr h)]
    simp [hc]

theorem reference?_eq_none_iff :
    reference? c rest = none ↔ (IsMarker c → rest.takeWhile (kindOf c) = []) := by
  rw [Option.eq_none_iff_forall_ne_some]
  constructor
  · intro h hc
    by_contra hne
    exact h _ (reference?_eq_some_iff.2 ⟨hc, hne, rfl, rfl⟩)
  · rintro h ⟨part, left⟩ hfound
    obtain ⟨hc, hne, -⟩ := reference?_eq_some_iff.1 hfound
    exact hne (h hc)

theorem prefix_takeWhile {kind : Char → Bool} (hrun : ∀ c ∈ run, kind c) (h : run <+: rest) :
    run <+: rest.takeWhile kind := by
  obtain ⟨back, rfl⟩ := h
  rw [List.takeWhile_append_of_pos hrun]
  exact List.prefix_append _ _

/-- The parts that a template starts with are its first character and what the run behind
it starts with. -/
theorem length_text_le (hpart : part.IsFormed) (h : part.text <+: c :: rest) :
    part.text.length = 1 ∨
      IsMarker c ∧ rest.takeWhile (kindOf c) ≠ [] ∧
        part.text.length ≤ (c :: rest.takeWhile (kindOf c)).length := by
  rcases exists_partOf hpart with ⟨d, rfl⟩ | ⟨d, run, hd, hne, hrun, rfl⟩
  · exact .inl rfl
  · rw [hd.text_partOf] at h ⊢
    obtain ⟨rfl, hrest⟩ := List.cons_prefix_cons.1 h
    have hlonger := prefix_takeWhile hrun hrest
    refine .inr ⟨hd, ?_, Nat.succ_le_succ hlonger.length_le⟩
    intro hnone
    rw [hnone] at hlonger
    exact hne (List.prefix_nil.1 hlonger)

theorem isLongest_of_reference (h : reference? c rest = some (part, left)) :
    IsLongest part (c :: rest) left := by
  obtain ⟨hc, hne, rfl, rfl⟩ := reference?_eq_some_iff.1 h
  refine ⟨hc.isFormed_partOf hne fun d hd => List.mem_takeWhile_imp hd, ?_, ?_⟩
  · rw [hc.text_partOf, List.cons_append, List.takeWhile_append_dropWhile]
  · intro other hother hstart
    rw [hc.text_partOf]
    rcases length_text_le hother hstart with hone | ⟨-, -, hle⟩
    · rw [hone]
      exact Nat.succ_le_succ (Nat.zero_le _)
    · exact hle

theorem isLongest_of_literal (h : reference? c rest = none) :
    IsLongest (.literal c) (c :: rest) rest := by
  refine ⟨trivial, rfl, ?_⟩
  intro other hother hstart
  rcases length_text_le hother hstart with hone | ⟨hc, hne, -⟩
  · exact Nat.le_of_eq hone
  · exact absurd (reference?_eq_none_iff.1 h hc) hne

theorem isSplit_parts (template : Text) : IsSplit template (parts template) := by
  induction template using parts.induct with
  | case1 =>
    rw [parts]
    exact .nil
  | case2 c rest part left hfound ih =>
    rw [parts_of_reference hfound]
    exact .cons (isLongest_of_reference hfound) ih
  | case3 c rest hnone ih =>
    rw [parts_of_literal hnone]
    exact .cons (isLongest_of_literal hnone) ih

theorem isSplit_iff : IsSplit template split ↔ split = parts template := by
  constructor
  · intro h
    exact h.unique (isSplit_parts template)
  · rintro rfl
    exact isSplit_parts template

end Reader

/-- Whether a part of two texts together begins in the first and ends in the second. -/
def CutsPart (front back : Text) : Prop :=
  ∃ before part behind, IsSplit (front ++ back) (before ++ part :: behind) ∧
    (before.flatMap Part.text).length < front.length ∧
    front.length < (before.flatMap Part.text ++ part.text).length

section Cut

variable {left : Text}

/-- The longest part is still the longest if what is left is cut. -/
theorem IsLongest.cut (h : IsLongest part (part.text ++ (left ++ back)) (left ++ back)) :
    IsLongest part (part.text ++ left) left where
  formed := h.formed
  written := rfl
  longest other hother hstart :=
    h.longest other hother (hstart.trans ⟨back, List.append_assoc _ _ _⟩)

theorem CutsPart.behind (hpart : IsLongest part (part.text ++ (left ++ back)) (left ++ back))
    (h : CutsPart left back) : CutsPart (part.text ++ left) back := by
  obtain ⟨before, other, behind, hsplit, hbegins, hends⟩ := h
  refine ⟨part :: before, other, behind, ?_, ?_, ?_⟩
  · rw [List.append_assoc]
    exact .cons hpart hsplit
  · rw [List.flatMap_cons, List.length_append, List.length_append]
    exact Nat.add_lt_add_left hbegins _
  · rw [List.flatMap_cons, List.append_assoc, List.length_append, List.length_append]
    exact Nat.add_lt_add_left hends _

/-- Texts whose border is in no part have the parts of the one and of the other. -/
theorem IsSplit.exists_append (h : IsSplit (front ++ back) split)
    (hborder : ¬ CutsPart front back) :
    ∃ before behind, split = before ++ behind ∧ IsSplit front before ∧ IsSplit back behind := by
  generalize htemplate : front ++ back = template at h
  induction h generalizing front with
  | nil =>
    obtain ⟨rfl, rfl⟩ := List.append_eq_nil_iff.1 htemplate
    exact ⟨[], [], rfl, .nil, .nil⟩
  | @cons part template rest split hpart hrest ih =>
    subst htemplate
    rcases Nat.lt_or_ge front.length part.text.length with hshort | hlong
    · -- The border is before the first part, or else in it.
      cases front with
      | nil => exact ⟨[], part :: split, rfl, .nil, .cons hpart hrest⟩
      | cons c front =>
        exact absurd ⟨[], part, split, .cons hpart hrest, Nat.zero_lt_succ _, hshort⟩ hborder
    · obtain ⟨left, rfl⟩ : part.text <+: front :=
        List.prefix_of_prefix_length_le ⟨rest, hpart.written⟩ (List.prefix_append front back) hlong
      rw [List.append_assoc] at hpart
      obtain rfl := List.append_cancel_left hpart.written
      obtain ⟨before, behind, rfl, hbefore, hbehind⟩ :=
        ih (fun hcut => hborder (hcut.behind hpart)) rfl
      exact ⟨part :: before, behind, rfl, .cons hpart.cut hbefore, hbehind⟩

end Cut

/-- Templates are filled apart if their border is in no part. -/
theorem fill_append_of_not_cutsPart {pattern : Pattern} {captures : List Text}
    (h : ¬ CutsPart front back) :
    fill pattern (front ++ back) captures =
      fill pattern front captures ++ fill pattern back captures := by
  obtain ⟨before, behind, hparts, hfront, hback⟩ := (isSplit_parts (front ++ back)).exists_append h
  rw [fill, hparts, List.flatMap_append, isSplit_iff.1 hfront, isSplit_iff.1 hback, fill, fill]

section Values

variable {segments captures : List Text} {text : Text} {pattern : Pattern}

/-- What a part of a template stands for, given the dynamic segments of a base path and the
texts captured for them. A number may be written with leading zeros. -/
inductive StandsFor (segments captures : List Text) : Part → Text → Prop where
  | literal (c : Char) : StandsFor segments captures (.literal c) [c]
  | group {n : Nat} {text : Text} (zeros : Nat) (htext : captures[n]? = some text) :
      StandsFor segments captures
        (.position (List.replicate zeros '0' ++ Text.ofNat (n + 1))) text
  | noGroup {n : Nat} (zeros : Nat) (h : n = 0 ∨ segments.length < n) :
      StandsFor segments captures (.position (List.replicate zeros '0' ++ Text.ofNat n)) []
  | param {before behind : List Text} {word text : Text}
      (hsegments : segments = before ++ (':' :: word) :: behind) (hfirst : (':' :: word) ∉ before)
      (htext : captures[before.length]? = some text) :
      StandsFor segments captures (.name word) text
  | noParam {word : Text} (h : (':' :: word) ∉ segments) :
      StandsFor segments captures (.name word) []

/-- A parameter is found where its name is used for the first time. -/
theorem find?_zip_of_first {before behind : List Text} {word : Text}
    (hfirst : (':' :: word) ∉ before) (htext : captures[before.length]? = some text) :
    (((before ++ (':' :: word) :: behind).map Path.name?).zip captures).find?
      (·.1 == some word) = some (some word, text) := by
  induction before generalizing captures with
  | nil =>
    cases captures with
    | nil => cases htext
    | cons captured captures =>
      obtain rfl : captured = text := Option.some.inj htext
      exact List.find?_cons_of_pos (beq_self_eq_true _)
  | cons segment before ih =>
    cases captures with
    | nil => cases htext
    | cons captured captures =>
      rw [List.mem_cons, not_or] at hfirst
      have hother : Path.name? segment ≠ some word := by
        rw [Ne, Path.name?_eq_some_iff]
        exact Ne.symm hfirst.1
      rw [List.cons_append, List.map_cons, List.zip_cons_cons,
        List.find?_cons_of_neg (by simpa using hother)]
      exact ih hfirst.2 htext

theorem StandsFor.value_eq (h : StandsFor segments captures part text)
    (hlabels : pattern.labels = segments.map Path.name?)
    (hlength : segments.length = captures.length) : value pattern captures part = text := by
  cases h with
  | literal c => rfl
  | @group n text zeros htext =>
    rw [value, Text.decimal?_zeros_append, Option.bind_some, atPosition?,
      if_neg (Nat.succ_ne_zero n), Nat.add_sub_cancel, htext, Option.getD_some]
  | @noGroup n zeros h =>
    rw [value, Text.decimal?_zeros_append, Option.bind_some, atPosition?]
    split
    · rfl
    · rw [List.getElem?_eq_none (by omega), Option.getD_none]
  | param hsegments hfirst htext =>
    rw [value, atName?, hlabels, hsegments, find?_zip_of_first hfirst htext]
    rfl
  | @noParam word h =>
    apply value_name_eq_nil
    intro hword
    rw [Pattern.names, hlabels, List.filterMap_map, List.mem_filterMap] at hword
    obtain ⟨segment, hsegment, hname⟩ := hword
    exact h (Path.name?_eq_some_iff.1 hname ▸ hsegment)

/-- Each part stands for the text that it is filled with and for no other. -/
theorem standsFor_iff (hpart : part.IsFormed) (hlabels : pattern.labels = segments.map Path.name?)
    (hlength : segments.length = captures.length) :
    StandsFor segments captures part text ↔ value pattern captures part = text := by
  refine ⟨fun h => h.value_eq hlabels hlength, ?_⟩
  suffices hstands : ∃ text, StandsFor segments captures part text by
    obtain ⟨other, hother⟩ := hstands
    rintro rfl
    rwa [hother.value_eq hlabels hlength]
  cases part with
  | literal c => exact ⟨[c], .literal c⟩
  | position digits =>
    obtain ⟨zeros, n, rfl⟩ := Text.exists_zeros_append hpart.1 hpart.2
    cases n with
    | zero => exact ⟨[], .noGroup zeros (.inl rfl)⟩
    | succ n =>
      cases htext : captures[n]? with
      | none =>
        rw [List.getElem?_eq_none_iff] at htext
        exact ⟨[], .noGroup zeros (.inr (by omega))⟩
      | some text => exact ⟨text, .group zeros htext⟩
  | name word =>
    by_cases hmem : (':' :: word) ∈ segments
    · obtain ⟨before, behind, hsegments, hfirst⟩ := List.eq_append_cons_of_mem hmem
      have hlt : before.length < captures.length := by
        rw [← hlength, hsegments, List.length_append, List.length_cons]
        omega
      exact ⟨_, .param hsegments hfirst (List.getElem?_eq_getElem hlt)⟩
    · exact ⟨[], .noParam hmem⟩

end Values

end Template

end RuleGateway
