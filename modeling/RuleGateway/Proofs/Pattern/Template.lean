import RuleGateway.Pattern.Template
import RuleGateway.Proofs.Text.Runs

/-!
# What filling leaves alone

A template is filled reference by reference, so that a template in two pieces is
filled piece by piece where no reference runs across the cut, and a template
without references is what it was. A reference to nothing shortens the text.
-/

namespace RuleGateway.Template

section Parts

variable {c : Char} {rest left : Text} {part : Part}

theorem parts_of_reference (h : reference? c rest = some (part, left)) :
    parts (c :: rest) = part :: parts left := by
  rw [parts]
  split
  · rename_i part' left' hfound
    rw [h] at hfound
    cases hfound
    rfl
  · rename_i hnone
    rw [h] at hnone
    cases hnone

theorem parts_of_literal (h : reference? c rest = none) :
    parts (c :: rest) = .literal c :: parts rest := by
  rw [parts]
  split
  · rename_i hfound
    rw [h] at hfound
    cases hfound
  · rfl

/-- A reference is by position, behind a dollar sign, or by name, behind a colon. -/
theorem reference?_eq_some (h : reference? c rest = some (part, left)) :
    left <:+ rest ∧
      (c = '$' ∧ (∃ digits, part = .position digits) ∨ c = ':' ∧ ∃ word, part = .name word) := by
  rw [reference?] at h
  split at h
  · rename_i hdollar
    split at h
    · cases h
    · cases h
      exact ⟨List.dropWhile_suffix _, .inl ⟨hdollar, _, rfl⟩⟩
  · split at h
    · rename_i hcolon
      split at h
      · cases h
      · cases h
        exact ⟨List.dropWhile_suffix _, .inr ⟨hcolon, _, rfl⟩⟩
    · cases h

/-- Only a dollar sign and a colon start a reference. -/
theorem reference?_eq_none_of_ne (hdollar : c ≠ '$') (hcolon : c ≠ ':') :
    reference? c rest = none := by
  rw [reference?, if_neg hdollar, if_neg hcolon]

theorem isWord_of_isDigit (h : c.isDigit) : isWord c := by
  simp [isWord, Char.isAlphanum, h]

/-- A text that no word goes on into adds nothing to a reference before it. -/
theorem reference?_append {back : Text} (hback : Text.Stops isWord back) (c : Char) (rest : Text) :
    reference? c (rest ++ back) =
      (reference? c rest).map fun found => (found.1, found.2 ++ back) := by
  have hdigit : Text.Stops Char.isDigit back := fun d hd => by
    have hword := hback d hd
    rw [Bool.eq_false_iff] at hword ⊢
    exact fun h => hword (isWord_of_isDigit h)
  rw [reference?, reference?, Text.takeWhile_append_of_stops hdigit,
    Text.dropWhile_append_of_stops hdigit, Text.takeWhile_append_of_stops hback,
    Text.dropWhile_append_of_stops hback]
  split
  · split <;> rfl
  · split
    · split <;> rfl
    · rfl

theorem parts_append {back : Text} (hback : Text.Stops isWord back) (front : Text) :
    parts (front ++ back) = parts front ++ parts back := by
  induction front using parts.induct with
  | case1 => rw [List.nil_append, parts, List.nil_append]
  | case2 c rest part left hfound ih =>
    have hfound' : reference? c (rest ++ back) = some (part, left ++ back) := by
      rw [reference?_append hback, hfound]
      rfl
    rw [List.cons_append, parts_of_reference hfound', parts_of_reference hfound, ih,
      List.cons_append]
  | case3 c rest hnone ih =>
    have hnone' : reference? c (rest ++ back) = none := by
      rw [reference?_append hback, hnone]
      rfl
    rw [List.cons_append, parts_of_literal hnone', parts_of_literal hnone, ih, List.cons_append]

end Parts

/-- Whether no part of the text is a reference. -/
def IsPlain (text : Text) : Prop := ∀ part ∈ parts text, ∃ c, part = .literal c

theorem isPlain_cons_of_literal {c : Char} {rest : Text} (h : reference? c rest = none) :
    IsPlain (c :: rest) ↔ IsPlain rest := by
  simp [IsPlain, parts_of_literal h]

theorem not_isPlain_of_reference {c : Char} {rest left : Text} {part : Part}
    (h : reference? c rest = some (part, left)) : ¬ IsPlain (c :: rest) := by
  intro hplain
  obtain ⟨d, rfl⟩ := hplain part (by simp [parts_of_reference h])
  rcases (reference?_eq_some h).2 with ⟨-, digits, hpart⟩ | ⟨-, word, hpart⟩
  · cases hpart
  · cases hpart

/-- A text is plain if no reference starts anywhere in it. -/
theorem isPlain_iff {text : Text} :
    IsPlain text ↔ ∀ front c rest, text = front ++ c :: rest → reference? c rest = none := by
  induction text using parts.induct with
  | case1 => simp [IsPlain, parts]
  | case2 c rest part left hfound ih =>
    refine iff_of_false (not_isPlain_of_reference hfound) fun h => ?_
    have hnone := h [] c rest rfl
    rw [hfound] at hnone
    cases hnone
  | case3 c rest hnone ih =>
    rw [isPlain_cons_of_literal hnone, ih]
    constructor
    · intro h front d back htext
      cases front with
      | nil =>
        cases htext
        exact hnone
      | cons e front =>
        cases htext
        exact h front d back rfl
    · rintro h front d back rfl
      exact h (c :: front) d back rfl

theorem isPlain_of_unmarked {text : Text} (h : ∀ c ∈ text, c ≠ '$' ∧ c ≠ ':') : IsPlain text := by
  rw [isPlain_iff]
  rintro front c rest rfl
  obtain ⟨hdollar, hcolon⟩ := h c (by simp)
  exact reference?_eq_none_of_ne hdollar hcolon

theorem isPlain_append {front back : Text} (hback : Text.Stops isWord back) :
    IsPlain (front ++ back) ↔ IsPlain front ∧ IsPlain back := by
  rw [IsPlain, parts_append hback, List.forall_mem_append, IsPlain, IsPlain]

section Fill

variable {pattern : Pattern} {captures : List Text}

theorem fill_append {back : Text} (hback : Text.Stops isWord back) (front : Text) :
    fill pattern (front ++ back) captures =
      fill pattern front captures ++ fill pattern back captures := by
  rw [fill, parts_append hback, List.flatMap_append]
  rfl

theorem fill_cons_of_literal {c : Char} {rest : Text} (h : reference? c rest = none) :
    fill pattern (c :: rest) captures = c :: fill pattern rest captures := by
  rw [fill, parts_of_literal h]
  rfl

theorem fill_of_isPlain {text : Text} (h : IsPlain text) : fill pattern text captures = text := by
  induction text using parts.induct with
  | case1 => rw [fill, parts, List.flatMap_nil]
  | case2 c rest part left hfound ih => exact absurd h (not_isPlain_of_reference hfound)
  | case3 c rest hnone ih =>
    rw [fill_cons_of_literal hnone, ih ((isPlain_cons_of_literal hnone).1 h)]

/-- Names that no parameter has are filled with nothing. -/
theorem value_name_eq_nil {word : Text} (h : word ∉ pattern.names) :
    value pattern captures (.name word) = [] := by
  have hnone : atName? pattern captures word = none := by
    rw [atName?, Option.map_eq_none_iff, List.find?_eq_none]
    rintro ⟨label, captured⟩ hpair hlabel
    have hmem : some word ∈ pattern.labels := by
      rw [← eq_of_beq hlabel]
      exact (List.of_mem_zip hpair).1
    exact h (List.mem_filterMap.2 ⟨some word, hmem, rfl⟩)
  rw [value, hnone, Option.getD_none]

/-- Whether the references of a text are to nothing: they are by name, and no
parameter of the pattern has one of the names. -/
structure Unbound (pattern : Pattern) (text : Text) : Prop where
  no_position : '$' ∉ text
  no_name : ∀ word ∈ pattern.names, .name word ∉ parts text

theorem Unbound.of_literal {c : Char} {rest : Text} (h : Unbound pattern (c :: rest))
    (hnone : reference? c rest = none) : Unbound pattern rest where
  no_position hdollar := h.no_position (List.mem_cons_of_mem c hdollar)
  no_name word hword hmem := h.no_name word hword (by simp [parts_of_literal hnone, hmem])

section Reference

variable {c : Char} {rest left : Text} {part : Part}

theorem Unbound.of_reference (h : Unbound pattern (c :: rest))
    (hfound : reference? c rest = some (part, left)) : Unbound pattern left where
  no_position hdollar :=
    h.no_position (List.mem_cons_of_mem c ((reference?_eq_some hfound).1.subset hdollar))
  no_name word hword hmem := h.no_name word hword (by simp [parts_of_reference hfound, hmem])

theorem Unbound.fill_cons (h : Unbound pattern (c :: rest))
    (hfound : reference? c rest = some (part, left)) :
    fill pattern (c :: rest) captures = fill pattern left captures := by
  have hvoid : value pattern captures part = [] := by
    rcases (reference?_eq_some hfound).2 with ⟨rfl, -⟩ | ⟨-, word, rfl⟩
    · exact absurd List.mem_cons_self h.no_position
    · exact value_name_eq_nil fun hword =>
        h.no_name word hword (by simp [parts_of_reference hfound])
  rw [fill, parts_of_reference hfound, List.flatMap_cons, hvoid, List.nil_append]
  rfl

end Reference

/-- References to nothing are lost and nothing comes in their place. -/
theorem fill_sublist {text : Text} (h : Unbound pattern text) :
    (fill pattern text captures).Sublist text := by
  induction text using parts.induct with
  | case1 => simp [fill, parts]
  | case2 c rest part left hfound ih =>
    rw [h.fill_cons hfound]
    have hleft := (ih (h.of_reference hfound)).trans (reference?_eq_some hfound).1.sublist
    exact hleft.cons c
  | case3 c rest hnone ih =>
    rw [fill_cons_of_literal hnone]
    exact (ih (h.of_literal hnone)).cons_cons c

theorem isPlain_of_fill_eq {text : Text} (h : Unbound pattern text)
    (hfill : fill pattern text captures = text) : IsPlain text := by
  induction text using parts.induct with
  | case1 => simp [IsPlain, parts]
  | case2 c rest part left hfound ih =>
    rw [h.fill_cons hfound] at hfill
    have hsublist : (fill pattern left captures).Sublist left :=
      fill_sublist (h.of_reference hfound)
    have hlength := hsublist.length_le
    rw [hfill, List.length_cons] at hlength
    have := length_le_of_reference? hfound
    omega
  | case3 c rest hnone ih =>
    rw [fill_cons_of_literal hnone] at hfill
    exact (isPlain_cons_of_literal hnone).2
      (ih (h.of_literal hnone) (List.cons.inj hfill).2)

/-- A text whose references are to nothing is left alone if it has none. -/
theorem fill_eq_iff_isPlain {text : Text} (h : Unbound pattern text) :
    fill pattern text captures = text ↔ IsPlain text :=
  ⟨isPlain_of_fill_eq h, fill_of_isPlain⟩

end Fill

end RuleGateway.Template
