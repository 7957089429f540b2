import RuleGateway.Path
import RuleGateway.Proofs.Percent
import RuleGateway.Proofs.Text.Runs
import RuleGateway.Proofs.Text.Utf8

/-!
# Paths below a mount

A request path is brought into its normal form and decoded before anything is
matched. Neither makes a path longer, and both treat what stands behind a slash by
itself. So a path that is put together from a mount and a link below it comes out
below the mount only if the mount comes out as itself (`decode_normalize_below_iff`).
-/

namespace RuleGateway

namespace Percent

theorem decode?_of_byteAt? {text : Text} {b : UInt8} (h : byteAt? text = some b) :
    decode? ('%' :: text) = (decode? (text.drop 2)).map (b :: ·) := by
  match text with
  | [] | [_] => cases h
  | high :: low :: rest =>
    rw [byteAt?] at h
    rw [decode?, h]
    cases hrest : decode? rest <;> simp [hrest]

theorem decode?_of_not_byteAt? {text : Text} (h : byteAt? text = none) :
    decode? ('%' :: text) = none := by
  match text with
  | [] | [_] => rfl
  | high :: low :: rest =>
    rw [byteAt?] at h
    rw [decode?, h]
    rfl

theorem decode?_cons {c : Char} (h : c ≠ '%') (text : Text) :
    decode? (c :: text) = (decode? text).map (Utf8.encodeChar c ++ ·) := by
  rw [decode?]
  · cases decode? text <;> rfl
  · intro high low rest hc _
    exact h hc
  · intro hc
    exact h hc

/-- A text without percent signs stands for itself. -/
theorem decode?_of_not_mem {text : Text} (h : '%' ∉ text) :
    decode? text = some (Utf8.encode text) := by
  induction text with
  | nil => rfl
  | cons c text ih =>
    rw [List.mem_cons, not_or] at h
    rw [decode?_cons (Ne.symm h.1), ih h.2, Option.map_some, Utf8.encode_cons]

/-- A text that starts with no digit is read by itself. -/
theorem decode?_append {back : Text}
    (hback : ∀ c, back.head? = some c → Text.hexDigit? c = none) (front : Text) :
    decode? (front ++ back) =
      (decode? front).bind fun bytes => (decode? back).map (bytes ++ ·) := by
  induction front using reading with
  | nil =>
    rw [List.nil_append, decode?, Option.bind_some]
    cases decode? back <;> rfl
  | escaped text b hbyte ih =>
    rw [List.cons_append, decode?_of_byteAt? (byteAt?_append_of_some hbyte back),
      drop_append_of_byteAt? hbyte, ih, decode?_of_byteAt? hbyte]
    cases decode? (text.drop 2) <;> cases decode? back <;> rfl
  | percent text hbyte ih =>
    have hnone : byteAt? (text ++ back) = none := (byteAt?_append hback text).trans hbyte
    rw [List.cons_append, decode?_of_not_byteAt? hnone, decode?_of_not_byteAt? hbyte,
      Option.bind_none]
  | other c text hc ih =>
    rw [List.cons_append, decode?_cons hc, ih, decode?_cons hc]
    cases decode? text with
    | none => rfl
    | some bytes => cases decode? back <;> simp

/-- No character is read from less than a character. -/
theorem length_le_of_marks {path text : Text} {bytes : Bytes} {state : Option Utf8.Pending}
    (hstate : Utf8.IsReached state) (hbytes : decode? path = some bytes)
    (hmarks : Utf8.marks state bytes = text.map some) : text.length ≤ path.length := by
  induction path using reading generalizing text bytes state with
  | nil =>
    cases hbytes
    cases state with
    | none =>
      cases text with
      | nil => exact Nat.le_refl _
      | cons c text => cases hmarks
    | some p => cases text <;> cases hmarks
  | escaped path b hbyte ih =>
    rw [decode?_of_byteAt? hbyte] at hbytes
    obtain ⟨rest, hrest, rfl⟩ := Option.map_eq_some_iff.1 hbytes
    rw [Utf8.marks_cons] at hmarks
    obtain ⟨here, later, rfl, hhere, hlater⟩ := List.map_eq_append_iff.1 hmarks.symm
    have hfew : here.length ≤ 1 := Utf8.length_le_of_step hhere.symm
    have hmore : later.length ≤ (path.drop 2).length :=
      ih (Utf8.isReached_step hstate b.toNat) hrest hlater.symm
    rw [List.length_drop] at hmore
    rw [List.length_append, List.length_cons]
    omega
  | percent path hbyte ih =>
    rw [decode?_of_not_byteAt? hbyte] at hbytes
    cases hbytes
  | other c path hc ih =>
    rw [decode?_cons hc] at hbytes
    obtain ⟨rest, hrest, rfl⟩ := Option.map_eq_some_iff.1 hbytes
    obtain rfl := Utf8.eq_none_of_marks hstate hmarks
    rw [Utf8.marks_encodeChar] at hmarks
    cases text with
    | nil => cases hmarks
    | cons d text =>
      exact Nat.succ_le_succ (ih Utf8.isReached_none hrest (List.cons.inj hmarks).2)

end Percent

namespace Path

section Decode

theorem length_decode_le (path : Text) : (decode path).length ≤ path.length := by
  rw [decode]
  cases hread : (Percent.decode? path).bind Utf8.decode? with
  | none => exact Nat.le_refl _
  | some text =>
    obtain ⟨bytes, hbytes, htext⟩ := Option.bind_eq_some_iff.1 hread
    exact Percent.length_le_of_marks Utf8.isReached_none hbytes (Utf8.decode?_eq_some.1 htext)

/-- What follows a slash and has no percent sign is decoded to itself. -/
theorem decode_append_slash {back : Text} (h : '%' ∉ back) (front : Text) :
    decode (front ++ '/' :: back) = decode front ++ '/' :: back := by
  have hslash : '%' ∉ '/' :: back := by
    rw [List.mem_cons, not_or]
    exact ⟨by decide, h⟩
  have hdigit : ∀ c, ('/' :: back).head? = some c → Text.hexDigit? c = none := by
    intro c hc
    cases hc
    decide
  rw [decode, decode, Percent.decode?_append hdigit, Percent.decode?_of_not_mem hslash]
  cases Percent.decode? front with
  | none => rfl
  | some bytes =>
    change (Utf8.decode? (bytes ++ Utf8.encode ('/' :: back))).getD _ = _
    rw [Utf8.decode?_append_encode (by decide)]
    cases hread : Utf8.decode? bytes with
    | none => simp [hread]
    | some text => simp [hread]

/-- A text that ends with a slash is decoded by itself. -/
theorem decode_append {front back : Text} (hfront : front.getLast? = some '/') (h : '%' ∉ back) :
    decode (front ++ back) = decode front ++ back := by
  obtain ⟨front, rfl⟩ := List.getLast?_eq_some_iff.1 hfront
  rw [List.append_assoc, List.singleton_append, decode_append_slash h,
    decode_append_slash List.not_mem_nil, List.append_assoc, List.singleton_append]

theorem getLast?_decode {path : Text} (h : path.getLast? = some '/') :
    (decode path).getLast? = some '/' := by
  obtain ⟨front, rfl⟩ := List.getLast?_eq_some_iff.1 h
  rw [decode_append_slash List.not_mem_nil, List.getLast?_concat]

end Decode

section Collapse

variable {c : Char} {text rest front back : Text}

/-- What becomes of a character is read off the one that follows it. -/
theorem collapse_step (c : Char) (rest : Text) :
    collapse (c :: rest) =
      if c = '/' ∧ rest.head? = some '/' then collapse rest else c :: collapse rest := rfl

theorem collapse_slashes (rest : Text) : collapse ('/' :: '/' :: rest) = collapse ('/' :: rest) := by
  rw [collapse_step, if_pos ⟨rfl, rfl⟩]

theorem collapse_cons (h : ¬ (c = '/' ∧ rest.head? = some '/')) :
    collapse (c :: rest) = c :: collapse rest := by
  rw [collapse_step, if_neg h]

theorem collapse_singleton (c : Char) : collapse [c] = [c] :=
  collapse_cons fun h => by cases h.2

theorem collapse_sublist (text : Text) : (collapse text).Sublist text := by
  induction text with
  | nil => exact List.Sublist.slnil
  | cons c rest ih =>
    rw [collapse_step]
    split
    · exact ih.cons c
    · exact ih.cons_cons c

/-- Only slashes are left out. -/
theorem mem_collapse (h : c ≠ '/') : c ∈ collapse text ↔ c ∈ text := by
  induction text with
  | nil => exact Iff.rfl
  | cons d rest ih =>
    rw [collapse_step]
    split
    · rename_i hslash
      rw [ih, List.mem_cons, hslash.1]
      exact ⟨.inr, fun hmem => hmem.resolve_left h⟩
    · rw [List.mem_cons, List.mem_cons, ih]

theorem head?_collapse (text : Text) : (collapse text).head? = text.head? := by
  induction text with
  | nil => rfl
  | cons c rest ih =>
    rw [collapse_step]
    split
    · rename_i hslash
      rw [ih, hslash.2, hslash.1]
      rfl
    · rfl

theorem collapse_eq_nil : collapse text = [] ↔ text = [] := by
  rw [← List.head?_eq_none_iff, head?_collapse, List.head?_eq_none_iff]

/-- A text is collapsed in two pieces unless a run of slashes goes surplus the cut. -/
theorem collapse_append (h : ¬ (front.getLast? = some '/' ∧ back.head? = some '/')) :
    collapse (front ++ back) = collapse front ++ collapse back := by
  induction front with
  | nil => rfl
  | cons c rest ih =>
    cases rest with
    | nil =>
      rw [List.singleton_append, collapse_singleton]
      refine collapse_cons ?_
      rintro ⟨rfl, hback⟩
      exact h ⟨rfl, hback⟩
    | cons d rest =>
      rw [List.getLast?_cons_cons] at h
      have hhead : (d :: rest ++ back).head? = (d :: rest).head? := rfl
      rw [List.cons_append, collapse_step, collapse_step, hhead, ih h]
      split
      · rfl
      · rw [List.cons_append]

theorem getLast?_collapse (h : text.getLast? = some '/') : (collapse text).getLast? = some '/' := by
  induction text with
  | nil => cases h
  | cons c rest ih =>
    cases rest with
    | nil => rwa [collapse_singleton]
    | cons d rest =>
      rw [List.getLast?_cons_cons] at h
      rw [collapse_step]
      split
      · exact ih h
      · rw [List.getLast?_cons, ih h]
        rfl

/-- Two slashes are one too many. -/
theorem length_collapse_lt (front back : Text) :
    (collapse (front ++ '/' :: '/' :: back)).length < (front ++ '/' :: '/' :: back).length := by
  induction front with
  | nil =>
    rw [List.nil_append, collapse_slashes]
    exact Nat.lt_succ_of_le (collapse_sublist _).length_le
  | cons c front ih =>
    rw [List.cons_append, collapse_step]
    split
    · exact Nat.lt_succ_of_lt ih
    · exact Nat.succ_lt_succ ih

end Collapse

section Final

variable {text : Text}

theorem dropFinalSlash_append {back : Text} (h : back ≠ []) (front : Text) :
    Text.dropFinalSlash (front ++ back) = front ++ Text.dropFinalSlash back := by
  have hlast : (front ++ back).getLast? = back.getLast? := by
    obtain ⟨c, rest, rfl⟩ := List.exists_cons_of_ne_nil h
    rw [List.getLast?_append, List.getLast?_cons]
    rfl
  rw [Text.dropFinalSlash, Text.dropFinalSlash, Text.endsWith, Text.endsWith, hlast,
    List.dropLast_append_of_ne_nil h]
  split <;> rfl

theorem isPrefix_dropFinalSlash (text : Text) : Text.dropFinalSlash text <+: text := by
  rw [Text.dropFinalSlash]
  split
  · exact List.dropLast_prefix text
  · exact List.prefix_rfl

theorem length_dropFinalSlash_lt (h : text.getLast? = some '/') :
    (Text.dropFinalSlash text).length < text.length := by
  obtain ⟨front, rfl⟩ := List.getLast?_eq_some_iff.1 h
  rw [Text.dropFinalSlash_concat, List.length_append]
  exact Nat.lt_succ_self _

/-- Only a slash is dropped. -/
theorem mem_dropFinalSlash {c : Char} (h : c ≠ '/') : c ∈ Text.dropFinalSlash text ↔ c ∈ text := by
  by_cases hlast : text.getLast? = some '/'
  · obtain ⟨front, rfl⟩ := List.getLast?_eq_some_iff.1 hlast
    rw [Text.dropFinalSlash_concat, List.mem_append, List.mem_singleton]
    exact ⟨.inl, fun hmem => hmem.resolve_right h⟩
  · rw [Text.dropFinalSlash_of_ne hlast]

end Final

section Normal

variable {path front rest : Text}

theorem normalize_of_root (h : collapse path = ['/']) : normalize path = ['/'] := by
  rw [normalize, h]
  rfl

theorem normalize_of_ne (hne : path ≠ []) (hroot : collapse path ≠ ['/']) :
    normalize path = Text.dropFinalSlash (collapse path) := by
  rw [normalize]
  split
  · rename_i hnil
    exact absurd (collapse_eq_nil.1 hnil) hne
  · contradiction
  · rfl

theorem decode_root : decode ['/'] = ['/'] :=
  decode_append_slash List.not_mem_nil []

theorem normalize_of_collapsed (hne : path ≠ []) (hcollapsed : collapse path = path)
    (hunclosed : path.getLast? ≠ some '/') : normalize path = path := by
  have hroot : collapse path ≠ ['/'] := by
    intro hroot
    apply hunclosed
    rw [← hcollapsed, hroot]
    rfl
  rw [normalize_of_ne hne hroot, hcollapsed, Text.dropFinalSlash_of_ne hunclosed]

/-- A path that is left as it is on the way to a matcher. -/
structure IsNormal (path : Text) : Prop where
  collapsed : collapse path = path
  unclosed : path.getLast? ≠ some '/'
  decoded : decode path = path

theorem IsNormal.normalize_eq (h : IsNormal path) (hne : path ≠ []) : normalize path = path :=
  normalize_of_collapsed hne h.collapsed h.unclosed

/-- Nothing is put in the place of what is left out, so a path that comes out as
itself has lost nothing on the way. -/
theorem isNormal_iff (hne : path ≠ []) (hroot : path ≠ ['/']) :
    IsNormal path ↔ decode (normalize path) = path := by
  constructor
  · intro h
    rw [h.normalize_eq hne, h.decoded]
  · intro h
    have hroot' : collapse path ≠ ['/'] := by
      intro hcollapse
      rw [normalize_of_root hcollapse, decode_root] at h
      exact hroot h.symm
    rw [normalize_of_ne hne hroot'] at h
    have hdecode := length_decode_le (Text.dropFinalSlash (collapse path))
    rw [h] at hdecode
    have hdrop := (isPrefix_dropFinalSlash (collapse path)).length_le
    have hcollapse := (collapse_sublist path).length_le
    have hcollapsed : collapse path = path :=
      (collapse_sublist path).eq_of_length (by omega)
    rw [hcollapsed] at h hdecode
    have hunclosed : path.getLast? ≠ some '/' := by
      intro hlast
      have := length_dropFinalSlash_lt hlast
      omega
    rw [Text.dropFinalSlash_of_ne hunclosed] at h
    exact ⟨hcollapsed, hunclosed, h⟩

/-- What ends with a slash is brought into normal form by itself. -/
theorem normalize_append (hfront : front.getLast? = some '/') (hne : rest ≠ [])
    (hrest : rest.head? ≠ some '/') :
    normalize (front ++ rest) = collapse front ++ Text.dropFinalSlash (collapse rest) := by
  have hcollapse : collapse (front ++ rest) = collapse front ++ collapse rest :=
    collapse_append fun h => hrest h.2
  have hfront' : collapse front ≠ [] := by
    intro hnil
    rw [collapse_eq_nil.1 hnil] at hfront
    cases hfront
  have hrest' : collapse rest ≠ [] := fun hnil => hne (collapse_eq_nil.1 hnil)
  have hroot : collapse (front ++ rest) ≠ ['/'] := by
    rw [hcollapse]
    intro hroot
    have hlength := congrArg List.length hroot
    rw [List.length_append, List.length_singleton] at hlength
    have := List.length_pos_iff.2 hfront'
    have := List.length_pos_iff.2 hrest'
    omega
  rw [normalize_of_ne (List.append_ne_nil_of_right_ne_nil front hne) hroot, hcollapse,
    dropFinalSlash_append hrest']

end Normal

section Below

variable {text rest taken : Text}

/-- No text comes out short of an end that is left as it is: what comes out would
itself come out short of the end, and so on without end. -/
theorem eq_nil_of_decode_collapse (hlast : text.getLast? = some '/') (hrest : rest.head? ≠ some '/')
    (hpercent : '%' ∉ rest) (h : decode (collapse text) ++ rest = text) : rest = [] := by
  induction hn : text.length using Nat.strongRecOn generalizing text rest with
  | ind n ih =>
    by_cases hne : rest = []
    · exact hne
    have hout : (decode (collapse text)).getLast? = some '/' :=
      getLast?_decode (getLast?_collapse hlast)
    have hrest' : (collapse rest).head? ≠ some '/' := by
      rwa [head?_collapse]
    have hpercent' : '%' ∉ collapse rest := by
      rwa [mem_collapse (by decide)]
    have hshorter : (decode (collapse text)).length < n := by
      have hlength := congrArg List.length h
      have hpos := List.length_pos_iff.2 hne
      rw [List.length_append] at hlength
      omega
    have hsame : decode (collapse (decode (collapse text))) ++ collapse rest =
        decode (collapse text) := by
      have hcut : collapse text = collapse (decode (collapse text)) ++ collapse rest := by
        rw [← collapse_append fun hslash => hrest hslash.2, h]
      conv =>
        rhs
        rw [hcut, decode_append (getLast?_collapse hout) hpercent']
    exact collapse_eq_nil.1 (ih _ hshorter hout hrest' hpercent' hsame rfl)

/-- A text ends where it comes out, whatever is left as it is behind it. -/
theorem eq_of_decode_collapse (hlast : text.getLast? = some '/') (hrest : rest.head? ≠ some '/')
    (hpercent : '%' ∉ rest) (h : decode (collapse text) ++ rest = text ++ taken) :
    decode (collapse text) = text ∧ rest = taken := by
  have hlength : (decode (collapse text)).length ≤ text.length :=
    Nat.le_trans (length_decode_le _) (collapse_sublist text).length_le
  rcases List.append_eq_append_iff.1 h with
    ⟨surplus, hsurplus, htaken⟩ | ⟨surplus, hsurplus, htaken⟩
  · have hhead : surplus.head? ≠ some '/' := by
      intro hslash
      apply hrest
      rw [htaken]
      cases surplus with
      | nil => cases hslash
      | cons c surplus => exact hslash
    have hpercent' : '%' ∉ surplus := by
      intro hmem
      apply hpercent
      rw [htaken]
      exact List.mem_append_left taken hmem
    obtain rfl := eq_nil_of_decode_collapse hlast hhead hpercent' hsurplus.symm
    rw [List.append_nil] at hsurplus
    exact ⟨hsurplus.symm, htaken⟩
  · rw [hsurplus, List.length_append] at hlength
    obtain rfl := List.eq_nil_of_length_eq_zero (l := surplus) (by omega)
    rw [List.append_nil] at hsurplus
    exact ⟨hsurplus, htaken.symm⟩

/-- A text with a slash at its end that comes out as itself is normal without it. -/
theorem isNormal_of_decode_collapse {mount : Text}
    (h : decode (collapse (mount ++ ['/'])) = mount ++ ['/']) : IsNormal mount := by
  have hdecode := length_decode_le (collapse (mount ++ ['/']))
  rw [h] at hdecode
  have hcollapse : collapse (mount ++ ['/']) = mount ++ ['/'] :=
    (collapse_sublist _).eq_of_length_le hdecode
  have hunclosed : mount.getLast? ≠ some '/' := by
    intro hlast
    obtain ⟨front, rfl⟩ := List.getLast?_eq_some_iff.1 hlast
    have hless := length_collapse_lt front []
    rw [← List.singleton_append, ← List.append_assoc] at hless
    rw [hcollapse] at hless
    exact Nat.lt_irrefl _ hless
  have hcut : collapse (mount ++ ['/']) = collapse mount ++ ['/'] := by
    rw [collapse_append fun hslash => hunclosed hslash.1, collapse_singleton]
  refine ⟨List.append_cancel_right (hcut.symm.trans hcollapse), hunclosed, ?_⟩
  rw [hcollapse, decode_append_slash List.not_mem_nil] at h
  exact List.append_cancel_right h

/-- A mount with nothing but a slash behind it does not come out below the mount. -/
theorem decode_normalize_slash_ne {mount : Text} (hne : mount ≠ []) (taken : Text) :
    decode (normalize (mount ++ ['/'])) ≠ mount ++ '/' :: taken := by
  intro h
  have hlength := length_decode_le (normalize (mount ++ ['/']))
  rw [h, List.length_append, List.length_cons] at hlength
  have hmount := List.length_pos_iff.2 hne
  by_cases hroot : collapse (mount ++ ['/']) = ['/']
  · rw [normalize_of_root hroot, List.length_singleton] at hlength
    omega
  · have hlast : (collapse (mount ++ ['/'])).getLast? = some '/' :=
      getLast?_collapse List.getLast?_concat
    have hdrop := length_dropFinalSlash_lt hlast
    have hcollapse := (collapse_sublist (mount ++ ['/'])).length_le
    rw [normalize_of_ne (by simp) hroot] at hlength
    rw [List.length_append, List.length_singleton] at hcollapse
    omega

/-- A path below a mount comes out below the mount if the mount comes out as itself
and something stands below it. -/
theorem decode_normalize_below_iff {mount : Text} (hne : mount ≠ []) (hroot : mount ≠ ['/'])
    (hrest : rest.head? ≠ some '/') (hpercent : '%' ∉ rest) :
    decode (normalize (mount ++ '/' :: rest)) = mount ++ '/' :: taken ↔
      decode (normalize mount) = mount ∧ rest ≠ [] ∧
        taken = Text.dropFinalSlash (collapse rest) := by
  have hlast : (mount ++ ['/']).getLast? = some '/' := List.getLast?_concat
  have hlast' := getLast?_collapse hlast
  have hpercent' : '%' ∉ Text.dropFinalSlash (collapse rest) := by
    rwa [mem_dropFinalSlash (by decide), mem_collapse (by decide)]
  rw [← isNormal_iff hne hroot]
  by_cases hrestne : rest = []
  · subst hrestne
    constructor
    · intro h
      exact absurd h (decode_normalize_slash_ne hne taken)
    · intro h
      exact absurd rfl h.2.1
  have hcut (text : Text) : mount ++ '/' :: text = mount ++ ['/'] ++ text :=
    List.append_cons mount '/' text
  rw [hcut rest, hcut taken, normalize_append hlast hrestne hrest, decode_append hlast' hpercent']
  constructor
  · intro h
    have hhead : (Text.dropFinalSlash (collapse rest)).head? ≠ some '/' := by
      intro hslash
      apply hrest
      obtain ⟨final, hfinal⟩ := isPrefix_dropFinalSlash (collapse rest)
      rw [← head?_collapse, ← hfinal, List.head?_append, hslash]
      rfl
    obtain ⟨hmount, htaken⟩ := eq_of_decode_collapse hlast hhead hpercent' h
    exact ⟨isNormal_of_decode_collapse hmount, hrestne, htaken.symm⟩
  · rintro ⟨hnormal, -, rfl⟩
    rw [collapse_append fun hslash => hnormal.unclosed hslash.1, hnormal.collapsed,
      collapse_singleton, decode_append_slash List.not_mem_nil, hnormal.decoded]

end Below

end Path

end RuleGateway
