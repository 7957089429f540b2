import RuleGateway.Text.Basic

/-!
# Runs of characters

Readers take characters as long as they are of a kind. Where another text follows
that does not go on with the kind, the run is the same as without it. Splitting
at a separator gives the runs between its occurrences; it is `List.splitOn`, and
putting the runs together again is `List.intercalate`.
-/

namespace RuleGateway.Text

/-- Whether no run of the kind goes on into the text. -/
def Stops (kind : Char → Bool) (text : Text) : Prop := ∀ c, text.head? = some c → kind c = false

theorem stops_nil (kind : Char → Bool) : Stops kind [] := fun c h => by cases h

theorem stops_cons {kind : Char → Bool} {c : Char} (h : kind c = false) (text : Text) :
    Stops kind (c :: text) := by
  intro d hd
  cases hd
  exact h

section Append

variable {kind : Char → Bool} {back : Text}

theorem takeWhile_of_stops (h : Stops kind back) : back.takeWhile kind = [] := by
  cases back with
  | nil => rfl
  | cons c back => exact List.takeWhile_cons_of_neg (by simp [h c rfl])

theorem dropWhile_of_stops (h : Stops kind back) : back.dropWhile kind = back := by
  cases back with
  | nil => rfl
  | cons c back => exact List.dropWhile_cons_of_neg (by simp [h c rfl])

theorem takeWhile_append_of_stops (h : Stops kind back) (front : Text) :
    (front ++ back).takeWhile kind = front.takeWhile kind := by
  rw [List.takeWhile_append, takeWhile_of_stops h, List.append_nil]
  split
  · rename_i hlength
    exact ((List.takeWhile_prefix kind).eq_of_length hlength).symm
  · rfl

theorem dropWhile_append_of_stops (h : Stops kind back) (front : Text) :
    (front ++ back).dropWhile kind = front.dropWhile kind ++ back := by
  rw [List.dropWhile_append, dropWhile_of_stops h]
  split
  · rename_i hempty
    rw [List.isEmpty_iff.1 hempty, List.nil_append]
  · rfl

/-- A run of the kind before a text that does not go on with it. -/
theorem takeWhile_append_of_all {front : Text} (hfront : ∀ c ∈ front, kind c)
    (h : Stops kind back) : (front ++ back).takeWhile kind = front := by
  rw [List.takeWhile_append_of_pos hfront, takeWhile_of_stops h, List.append_nil]

theorem dropWhile_append_of_all {front : Text} (hfront : ∀ c ∈ front, kind c)
    (h : Stops kind back) : (front ++ back).dropWhile kind = back := by
  rw [List.dropWhile_append_of_pos hfront, dropWhile_of_stops h]

end Append

/-- The characters of a text differ from those it does not have. -/
theorem bne_of_mem {text : Text} {c d : Char} (h : d ∉ text) (hc : c ∈ text) : (c != d) = true := by
  rw [bne_iff_ne]
  rintro rfl
  exact h hc

theorem startsWith_iff {text lead : Text} : startsWith text lead ↔ lead <+: text := by
  rw [startsWith, Option.isSome_iff_exists]
  exact exists_congr fun rest => after?_eq_some_iff.trans eq_comm

section Split

variable {sep : Char} {parts : List Text}

theorem split_eq_splitOn (sep : Char) (text : Text) : split sep text = text.splitOn sep := by
  induction text with
  | nil => rw [split, List.splitOn_nil]
  | cons c rest ih =>
    rw [split, ih, List.splitOn_cons_eq_if_modifyHead]
    simp only [beq_iff_eq]
    obtain ⟨part, parts, hparts⟩ := List.exists_cons_of_ne_nil (List.splitOn_ne_nil sep rest)
    rw [hparts, List.modifyHead_cons]

theorem join_eq_intercalate (sep : Char) (parts : List Text) :
    join sep parts = [sep].intercalate parts := by
  induction parts with
  | nil => rfl
  | cons part parts ih =>
    cases parts with
    | nil => rw [join, List.intercalate_singleton]
    | cons next parts =>
      rw [join, ih, List.intercalate_cons_cons, List.append_assoc, List.singleton_append]
      simp

theorem split_ne_nil (sep : Char) (text : Text) : split sep text ≠ [] := by
  rw [split_eq_splitOn]
  exact List.splitOn_ne_nil sep text

/-- Splitting loses nothing. -/
theorem join_split (sep : Char) (text : Text) : join sep (split sep text) = text := by
  rw [join_eq_intercalate, split_eq_splitOn, List.intercalate_splitOn]

theorem split_append_cons (sep : Char) (front back : Text) :
    split sep (front ++ sep :: back) = split sep front ++ split sep back := by
  rw [split_eq_splitOn, split_eq_splitOn, split_eq_splitOn, List.splitOn_append_cons_self]

theorem split_of_not_mem {text : Text} (h : sep ∉ text) : split sep text = [text] := by
  rw [split_eq_splitOn, List.splitOn_eq_singleton h]

/-- Parts without the separator are what is between the separators put between them. -/
theorem split_join (hne : parts ≠ []) (h : ∀ part ∈ parts, sep ∉ part) :
    split sep (join sep parts) = parts := by
  rw [split_eq_splitOn, join_eq_intercalate, List.splitOn_intercalate sep h hne]

end Split

theorem mem_join {sep : Char} {parts : List Text} {c : Char} (h : c ∈ join sep parts) :
    c = sep ∨ ∃ part ∈ parts, c ∈ part := by
  induction parts with
  | nil => cases h
  | cons part parts ih =>
    cases parts with
    | nil => exact .inr ⟨part, List.mem_cons_self, h⟩
    | cons next parts =>
      rw [join, List.mem_append, List.mem_cons] at h
      · rcases h with hpart | hsep | hrest
        · exact .inr ⟨part, List.mem_cons_self, hpart⟩
        · exact .inl hsep
        · rcases ih hrest with hsep | ⟨other, hother, hmem⟩
          · exact .inl hsep
          · exact .inr ⟨other, List.mem_cons_of_mem part hother, hmem⟩
      · simp

/-- A part between separators is part of the text and has no separator. -/
theorem of_mem_split {sep : Char} {text part : Text} (h : part ∈ split sep text) :
    part <:+: text ∧ sep ∉ part := by
  induction text generalizing part with
  | nil =>
    rw [List.mem_singleton.1 h]
    exact ⟨List.nil_infix, List.not_mem_nil⟩
  | cons c text ih =>
    have hcons {other : Text} (hother : other ∈ split sep text) :
        other <:+: c :: text ∧ sep ∉ other :=
      ⟨(ih hother).1.trans (List.suffix_cons c text).isInfix, (ih hother).2⟩
    rw [split] at h
    split at h
    · rcases List.mem_cons.1 h with rfl | hrest
      · exact ⟨List.nil_infix, List.not_mem_nil⟩
      · exact hcons hrest
    · rename_i hc
      cases hparts : split sep text with
      | nil => exact absurd hparts (split_ne_nil sep text)
      | cons first parts =>
        rw [hparts] at h
        rcases List.mem_cons.1 h with rfl | hrest
        · have hfirst := ih (hparts ▸ List.mem_cons_self)
          have hprefix : first <+: text := by
            rw [← join_split sep text, hparts]
            cases parts with
            | nil => exact List.prefix_rfl
            | cons next parts => exact List.prefix_append _ _
          refine ⟨((List.prefix_cons_inj c).2 hprefix).isInfix, ?_⟩
          rw [List.mem_cons, not_or]
          exact ⟨Ne.symm hc, hfirst.2⟩
        · exact hcons (hparts ▸ List.mem_cons_of_mem _ hrest)

/-- What is done to texts on either side of a separator is done to the parts. -/
theorem split_map_of_append {sep : Char} {f : Text → Text}
    (happend : ∀ front back, f (front ++ sep :: back) = f front ++ sep :: f back)
    (hsep : ∀ part, sep ∉ part → sep ∉ f part) (text : Text) :
    split sep (f text) = (split sep text).map f := by
  have hjoin (parts : List Text) (hne : parts ≠ []) :
      f (join sep parts) = join sep (parts.map f) := by
    induction parts with
    | nil => exact absurd rfl hne
    | cons part parts ih =>
      cases parts with
      | nil => rfl
      | cons next parts =>
        have hnext : join sep (part :: next :: parts) =
            part ++ sep :: join sep (next :: parts) := rfl
        rw [hnext, happend, ih (List.cons_ne_nil _ _)]
        rfl
  have hparts : ∀ part ∈ (split sep text).map f, sep ∉ part := by
    intro part hpart
    obtain ⟨whole, hwhole, rfl⟩ := List.mem_map.1 hpart
    exact hsep whole (of_mem_split hwhole).2
  have hne := split_ne_nil sep text
  have hsplit := split_join (by simpa using hne) hparts
  rwa [← hjoin _ hne, join_split] at hsplit

section Each

variable {α β : Type} {read : α → Option β} {parts : List α}

/-- Parts that can all be read are read one by one. -/
theorem mapM_eq_some {value : α → β} (h : ∀ part ∈ parts, read part = some (value part)) :
    parts.mapM read = some (parts.map value) := by
  induction parts with
  | nil => rfl
  | cons part parts ih =>
    rw [List.mapM_cons, h part List.mem_cons_self,
      ih fun other hother => h other (List.mem_cons_of_mem part hother)]
    rfl

/-- Where all parts could be read, each could. -/
theorem exists_of_mapM {values : List β} (h : parts.mapM read = some values) {part : α}
    (hpart : part ∈ parts) : ∃ value, read part = some value := by
  induction parts generalizing values with
  | nil => cases hpart
  | cons other parts ih =>
    rw [List.mapM_cons] at h
    obtain ⟨first, hfirst, hrest⟩ := Option.bind_eq_some_iff.1 h
    obtain ⟨others, hothers, -⟩ := Option.bind_eq_some_iff.1 hrest
    rcases List.mem_cons.1 hpart with rfl | hmem
    · exact ⟨first, hfirst⟩
    · exact ih hothers hmem

theorem ne_nil_of_mapM {values : List β} (h : parts.mapM read = some values) (hne : parts ≠ []) :
    values ≠ [] := by
  cases parts with
  | nil => exact absurd rfl hne
  | cons part parts =>
    rw [List.mapM_cons] at h
    obtain ⟨first, -, hrest⟩ := Option.bind_eq_some_iff.1 h
    obtain ⟨others, -, hvalues⟩ := Option.bind_eq_some_iff.1 hrest
    cases hvalues
    exact List.cons_ne_nil _ _

theorem exists_of_mem_mapM {values : List β} (h : parts.mapM read = some values) {value : β}
    (hvalue : value ∈ values) : ∃ part ∈ parts, read part = some value := by
  induction parts generalizing values with
  | nil =>
    cases h
    cases hvalue
  | cons part parts ih =>
    rw [List.mapM_cons] at h
    obtain ⟨first, hfirst, hrest⟩ := Option.bind_eq_some_iff.1 h
    obtain ⟨others, hothers, hvalues⟩ := Option.bind_eq_some_iff.1 hrest
    cases hvalues
    rcases List.mem_cons.1 hvalue with rfl | hmem
    · exact ⟨part, List.mem_cons_self, hfirst⟩
    · obtain ⟨other, hother, hread⟩ := ih hothers hmem
      exact ⟨other, List.mem_cons_of_mem part hother, hread⟩

end Each

theorem dropFinalSlash_subset (text : Text) : dropFinalSlash text ⊆ text := by
  rw [dropFinalSlash]
  split
  · exact List.dropLast_subset _
  · exact List.Subset.refl _

theorem dropFinalSlash_concat (text : Text) : dropFinalSlash (text ++ ['/']) = text := by
  rw [dropFinalSlash, endsWith, List.getLast?_concat, if_pos (by decide), List.dropLast_concat]

theorem dropFinalSlash_of_ne {text : Text} (h : text.getLast? ≠ some '/') :
    dropFinalSlash text = text := by
  rw [dropFinalSlash, endsWith, if_neg (by simpa using h)]

end RuleGateway.Text
