import RuleGateway.Net.Ip
import RuleGateway.Proofs.Text.Digits
import RuleGateway.Proofs.Text.Runs

/-!
# Internet addresses as text

What is read as an address of eight pieces has eight pieces of 16 bits, and such an
address is read as it is written (`v6?_renderV6`), wherever the gap is put.
-/

namespace RuleGateway.Ip

section Bounds

/-- What a piece of an address can be. -/
def pieceBound : Nat := 65536

theorem lt_of_hexDigit? {c : Char} {n : Nat} (h : Text.hexDigit? c = some n) : n < 16 := by
  have hall : ∀ d ∈ Text.hexDigits, ((Text.hexDigit? d).all fun n => n < 16) = true :=
    Text.forall_mem (by decide)
  have hlt := hall c (Text.mem_hexDigits_of_hexDigit? (Option.isSome_of_eq_some h))
  simpa [h] using hlt

theorem lt_of_piece? {text : Text} {n : Nat} (h : piece? text = some n) : n < pieceBound := by
  obtain ⟨hlength, hnumber⟩ := Option.ite_none_right_eq_some.1 h
  calc n < 16 ^ text.length := Text.lt_pow_of_number? (fun _ _ => lt_of_hexDigit?) hnumber
    _ ≤ 16 ^ 4 := Nat.pow_le_pow_right (by decide) hlength
    _ = pieceBound := rfl

theorem le_of_part? {text : Text} {n : Nat} (h : part? text = some n) : n ≤ 255 := by
  obtain ⟨m, -, hm⟩ := Option.bind_eq_some_iff.1 h
  obtain ⟨hbounds, hn⟩ := Option.ite_none_right_eq_some.1 hm
  cases hn
  exact hbounds.1

theorem lt_of_v4? {text : Text} {n : Nat} (h : v4? text = some n) :
    n < pieceBound * pieceBound := by
  rw [v4?] at h
  split at h
  · simp only [Option.bind_eq_bind, Option.bind_eq_some_iff, Option.pure_def, Option.some_inj] at h
    obtain ⟨a, ha, b, hb, c, hc, d, hd, rfl⟩ := h
    have := le_of_part? ha
    have := le_of_part? hb
    have := le_of_part? hc
    have := le_of_part? hd
    have hbound : pieceBound * pieceBound = 4294967296 := rfl
    omega
  · cases h

theorem lt_of_mem_pieces? {dotted : Bool} {texts : List Text} {pieces : List Nat}
    (h : pieces? dotted texts = some pieces) : ∀ piece ∈ pieces, piece < pieceBound := by
  induction texts generalizing pieces with
  | nil =>
    cases h
    exact fun piece hpiece => by cases hpiece
  | cons text rest ih =>
    cases rest with
    | nil =>
      rw [pieces?] at h
      split at h
      · obtain ⟨n, hn, rfl⟩ := Option.map_eq_some_iff.1 h
        have hlt := lt_of_v4? hn
        intro piece hpiece
        simp only [List.mem_cons, List.not_mem_nil, or_false] at hpiece
        rcases hpiece with rfl | rfl
        · exact Nat.div_lt_of_lt_mul hlt
        · exact Nat.mod_lt n (by decide)
      · obtain ⟨n, hn, rfl⟩ := Option.map_eq_some_iff.1 h
        simpa using lt_of_piece? hn
    | cons next rest =>
      obtain ⟨first, hfirst, hrest⟩ := Option.bind_eq_some_iff.1 h
      obtain ⟨others, hothers, hpieces⟩ := Option.bind_eq_some_iff.1 hrest
      cases hpieces
      intro piece hpiece
      rcases List.mem_cons.1 hpiece with rfl | hmem
      · exact lt_of_piece? hfirst
      · exact ih hothers piece hmem

theorem lt_of_mem_run? {dotted : Bool} {text : Text} {pieces : List Nat}
    (h : run? dotted text = some pieces) : ∀ piece ∈ pieces, piece < pieceBound := by
  rw [run?] at h
  split at h
  · cases h
    exact fun piece hpiece => by cases hpiece
  · exact lt_of_mem_pieces? h

/-- An address has eight pieces. -/
def IsAddress (pieces : List Nat) : Prop :=
  pieces.length = 8 ∧ ∀ piece ∈ pieces, piece < pieceBound

theorem isAddress_of_v6? {text : Text} {pieces : List Nat} (h : v6? text = some pieces) :
    IsAddress pieces := by
  rw [v6?] at h
  split at h
  · rename_i left right hcut
    simp only [Option.bind_eq_bind, Option.bind_eq_some_iff] at h
    obtain ⟨front, hfront, back, hback, h⟩ := h
    obtain ⟨hknown, hpieces⟩ := Option.ite_none_right_eq_some.1 h
    cases hpieces
    constructor
    · simp only [List.length_append, List.length_replicate]
      omega
    · intro piece hpiece
      rw [List.mem_append, List.mem_append] at hpiece
      rcases hpiece with (hmem | hmem) | hmem
      · exact lt_of_mem_run? hfront piece hmem
      · rw [List.eq_of_mem_replicate hmem]
        decide
      · exact lt_of_mem_run? hback piece hmem
  · simp only [Option.bind_eq_bind, Option.bind_eq_some_iff] at h
    obtain ⟨found, hfound, h⟩ := h
    obtain ⟨hlength, hpieces⟩ := Option.ite_none_right_eq_some.1 h
    cases hpieces
    exact ⟨hlength, lt_of_mem_run? hfound⟩

end Bounds

section Characters

/-- The characters that addresses are written in. -/
def addressChars : Text := '.' :: ':' :: Text.hexDigits

theorem mem_of_piece? {text : Text} {n : Nat} (h : piece? text = some n) {c : Char}
    (hc : c ∈ text) : c ∈ addressChars := by
  have hnumber := (Option.ite_none_right_eq_some.1 h).2
  have hdigit := Text.mem_hexDigits_of_hexDigit? (Text.isSome_of_mem_number? hnumber hc)
  exact List.mem_cons_of_mem _ (List.mem_cons_of_mem _ hdigit)

theorem mem_of_part? {text : Text} {n : Nat} (h : part? text = some n) {c : Char}
    (hc : c ∈ text) : c ∈ addressChars := by
  obtain ⟨m, hm, -⟩ := Option.bind_eq_some_iff.1 h
  have hdigit := Text.isSome_of_mem_number? hm hc
  rw [Text.digit?] at hdigit
  split at hdigit
  · rename_i hdecimal
    have hhex : (Text.hexDigit? c).isSome := by rw [Text.hexDigit?, if_pos hdecimal]; rfl
    exact List.mem_cons_of_mem _ (List.mem_cons_of_mem _ (Text.mem_hexDigits_of_hexDigit? hhex))
  · cases hdigit

/-- What is between separators that addresses have is an address if its parts are. -/
theorem mem_of_mem_split {sep : Char} (hsep : sep ∈ addressChars) {text : Text}
    (h : ∀ part ∈ Text.split sep text, ∀ c ∈ part, c ∈ addressChars) {c : Char} (hc : c ∈ text) :
    c ∈ addressChars := by
  rw [← Text.join_split sep text] at hc
  rcases Text.mem_join hc with rfl | ⟨part, hpart, hmem⟩
  · exact hsep
  · exact h part hpart c hmem

theorem mem_of_v4? {text : Text} {n : Nat} (h : v4? text = some n) {c : Char} (hc : c ∈ text) :
    c ∈ addressChars := by
  rw [v4?] at h
  split at h
  · rename_i first second third fourth hparts
    simp only [Option.bind_eq_bind, Option.bind_eq_some_iff] at h
    obtain ⟨_, hfirst, _, hsecond, _, hthird, _, hfourth, -⟩ := h
    refine @mem_of_mem_split '.' (by decide) _ (fun part hpart d hd => ?_) _ hc
    rw [hparts] at hpart
    simp only [List.mem_cons, List.not_mem_nil, or_false] at hpart
    rcases hpart with rfl | rfl | rfl | rfl
    · exact mem_of_part? hfirst hd
    · exact mem_of_part? hsecond hd
    · exact mem_of_part? hthird hd
    · exact mem_of_part? hfourth hd
  · cases h

theorem mem_of_pieces? {dotted : Bool} {texts : List Text} {pieces : List Nat}
    (h : pieces? dotted texts = some pieces) : ∀ text ∈ texts, ∀ c ∈ text, c ∈ addressChars := by
  induction texts generalizing pieces with
  | nil => exact fun text htext => by cases htext
  | cons text rest ih =>
    cases rest with
    | nil =>
      rw [List.forall_mem_singleton]
      rw [pieces?] at h
      split at h
      · obtain ⟨n, hn, -⟩ := Option.map_eq_some_iff.1 h
        exact fun c hc => mem_of_v4? hn hc
      · obtain ⟨n, hn, -⟩ := Option.map_eq_some_iff.1 h
        exact fun c hc => mem_of_piece? hn hc
    | cons next rest =>
      obtain ⟨first, hfirst, hrest⟩ := Option.bind_eq_some_iff.1 h
      obtain ⟨others, hothers, -⟩ := Option.bind_eq_some_iff.1 hrest
      exact List.forall_mem_cons.2 ⟨fun c hc => mem_of_piece? hfirst hc, ih hothers⟩

theorem mem_of_run? {dotted : Bool} {text : Text} {pieces : List Nat}
    (h : run? dotted text = some pieces) {c : Char} (hc : c ∈ text) : c ∈ addressChars := by
  rw [run?, if_neg (by simpa using List.ne_nil_of_mem hc)] at h
  exact @mem_of_mem_split ':' (by decide) _ (mem_of_pieces? h) _ hc

theorem eq_of_cutAtGap {text left right : Text} (h : cutAtGap text = some (left, right)) :
    text = left ++ ':' :: ':' :: right := by
  induction text using cutAtGap.induct generalizing left with
  | case1 => cases h
  | case2 rest =>
    cases h
    rfl
  | case3 c rest hgap ih =>
    rw [cutAtGap] at h
    · obtain ⟨⟨front, back⟩, hcut, heq⟩ := Option.map_eq_some_iff.1 h
      cases heq
      rw [ih hcut, List.cons_append]
    · exact hgap

/-- An address is written in its characters. -/
theorem mem_of_v6? {text : Text} {pieces : List Nat} (h : v6? text = some pieces) {c : Char}
    (hc : c ∈ text) : c ∈ addressChars := by
  have hcolon : ':' ∈ addressChars := by decide
  rw [v6?] at h
  split at h
  · rename_i left right hcut
    simp only [Option.bind_eq_bind, Option.bind_eq_some_iff] at h
    obtain ⟨front, hfront, back, hback, -⟩ := h
    rw [eq_of_cutAtGap hcut, List.mem_append, List.mem_cons, List.mem_cons] at hc
    rcases hc with hleft | rfl | rfl | hright
    · exact mem_of_run? hfront hleft
    · exact hcolon
    · exact hcolon
    · exact mem_of_run? hback hright
  · simp only [Option.bind_eq_bind, Option.bind_eq_some_iff] at h
    obtain ⟨found, hfound, -⟩ := h
    exact mem_of_run? hfound hc

end Characters

section Written

variable {pieces : List Nat}

theorem mem_renderHex {n : Nat} {c : Char} (h : c ∈ renderHex n) : c ∈ Text.hexDigits := by
  obtain ⟨d, hd, rfl⟩ := Text.mem_toDigits (by decide) h
  have hall : ∀ d < 16, d.digitChar ∈ Text.hexDigits := by decide
  exact hall d hd

theorem not_mem_renderHex {n : Nat} {c : Char} (h : c ∉ Text.hexDigits) : c ∉ renderHex n :=
  fun hmem => h (mem_renderHex hmem)

theorem renderHex_ne_nil (n : Nat) : renderHex n ≠ [] := Nat.toDigits_ne_nil

theorem piece?_renderHex {n : Nat} (h : n < pieceBound) : piece? (renderHex n) = some n := by
  have hlength : (renderHex n).length ≤ 4 :=
    (Nat.length_toDigits_le_iff (by decide) (by decide)).2 h
  rw [piece?, if_pos hlength]
  exact Text.number?_toDigits (by decide) (by decide) n

theorem pieces?_map_renderHex (dotted : Bool) (h : ∀ piece ∈ pieces, piece < pieceBound) :
    pieces? dotted (pieces.map renderHex) = some pieces := by
  induction pieces with
  | nil => rfl
  | cons piece rest ih =>
    have hpiece := piece?_renderHex (h piece List.mem_cons_self)
    have hrest := ih fun other hother => h other (List.mem_cons_of_mem piece hother)
    cases rest with
    | nil =>
      have hdot : (renderHex piece).contains '.' = false := by
        simpa using not_mem_renderHex (by decide)
      rw [List.map_singleton, pieces?, hdot, if_neg (by simp), hpiece]
      rfl
    | cons next rest =>
      rw [List.map_cons, List.map_cons, pieces?, hpiece, ← List.map_cons, hrest]
      · rfl
      · simp

theorem run?_join (dotted : Bool) (h : ∀ piece ∈ pieces, piece < pieceBound) :
    run? dotted (Text.join ':' (pieces.map renderHex)) = some pieces := by
  cases pieces with
  | nil => rfl
  | cons piece rest =>
    have hsplit : Text.split ':' (Text.join ':' ((piece :: rest).map renderHex)) =
        (piece :: rest).map renderHex := by
      refine Text.split_join (by simp) fun text htext => ?_
      obtain ⟨n, -, rfl⟩ := List.mem_map.1 htext
      exact not_mem_renderHex (by decide)
    have hne : (Text.join ':' ((piece :: rest).map renderHex)).isEmpty = false := by
      rw [List.isEmpty_eq_false_iff]
      intro hnil
      rw [hnil] at hsplit
      have hfirst := (List.cons.inj hsplit).1
      exact renderHex_ne_nil piece hfirst.symm
    rw [run?, hne, hsplit]
    exact pieces?_map_renderHex dotted h

theorem mem_renderV6 {pieces : List Nat} {c : Char} (h : c ∈ renderV6 pieces) :
    c ∈ ':' :: Text.hexDigits := by
  have hjoin (pieces : List Nat) (h : c ∈ Text.join ':' (pieces.map renderHex)) :
      c ∈ ':' :: Text.hexDigits := by
    rcases Text.mem_join h with rfl | ⟨part, hpart, hmem⟩
    · exact List.mem_cons_self
    · obtain ⟨n, -, rfl⟩ := List.mem_map.1 hpart
      exact List.mem_cons_of_mem _ (mem_renderHex hmem)
  rw [renderV6] at h
  dsimp only at h
  split at h
  · exact hjoin _ h
  · rw [List.mem_append, List.mem_append] at h
    rcases h with (hfront | hgap) | hback
    · exact hjoin _ hfront
    · simp only [List.mem_cons, List.not_mem_nil, or_false, or_self] at hgap
      exact List.mem_cons.2 (.inl hgap)
    · exact hjoin _ hback

end Written

section Gap

variable {text rest : Text}

theorem cutAtGap_append (h : ':' ∉ text) (rest : Text) :
    cutAtGap (text ++ rest) = (cutAtGap rest).map fun cut => (text ++ cut.1, cut.2) := by
  induction text with
  | nil => simp
  | cons c text ih =>
    rw [List.mem_cons, not_or] at h
    rw [List.cons_append, cutAtGap, ih h.2, Option.map_map]
    · rfl
    · rintro other rfl
      exact absurd rfl h.1

/-- A colon before none is no gap. -/
theorem cutAtGap_colon (h : rest.head? ≠ some ':') :
    cutAtGap (':' :: rest) = (cutAtGap rest).map fun cut => (':' :: cut.1, cut.2) := by
  rw [cutAtGap]
  rintro other - rfl
  exact h rfl

/-- There is no gap in pieces that are all there. -/
theorem cutAtGap_join {parts : List Text} (h : ∀ part ∈ parts, part ≠ [] ∧ ':' ∉ part)
    (rest : Text) :
    cutAtGap (Text.join ':' parts ++ rest) =
      (cutAtGap rest).map fun cut => (Text.join ':' parts ++ cut.1, cut.2) := by
  induction parts with
  | nil => simp [Text.join]
  | cons part parts ih =>
    have hpart := h part List.mem_cons_self
    cases parts with
    | nil => exact cutAtGap_append hpart.2 rest
    | cons next parts =>
      obtain ⟨hne, hcolon⟩ := h next (by simp)
      have hhead : (Text.join ':' (next :: parts) ++ rest).head? ≠ some ':' := by
        obtain ⟨c, more, rfl⟩ := List.exists_cons_of_ne_nil hne
        have hstart : (Text.join ':' ((c :: more) :: parts)).head? = some c := by
          cases parts <;> rfl
        rw [List.head?_append, hstart, Option.some_or]
        rintro ⟨⟩
        exact hcolon List.mem_cons_self
      rw [Text.join, List.append_assoc, cutAtGap_append hpart.2, List.cons_append,
        cutAtGap_colon hhead, ih fun other hother => h other (List.mem_cons_of_mem part hother),
        Option.map_map, Option.map_map]
      · simp [Function.comp_def]
      · simp

/-- The longest gap is a run of zeros. -/
theorem longestGap_spec (pieces : List Nat) :
    (pieces.drop (longestGap pieces).1).take (longestGap pieces).2 =
        List.replicate (longestGap pieces).2 0 ∧
      (longestGap pieces).1 + (longestGap pieces).2 ≤ pieces.length := by
  induction pieces with
  | nil => exact ⟨rfl, Nat.le_refl _⟩
  | cons piece rest ih =>
    rw [longestGap]
    dsimp only
    split
    · have hprefix : (piece :: rest).takeWhile (· == 0) <+: piece :: rest :=
        List.takeWhile_prefix _
      refine ⟨?_, by simpa [zeros] using hprefix.length_le⟩
      rw [List.drop_zero, zeros, ← List.prefix_iff_eq_take.1 hprefix, List.eq_replicate_iff]
      refine ⟨rfl, fun n hn => ?_⟩
      simpa using List.all_eq_true.1 List.all_takeWhile n hn
    · refine ⟨?_, ?_⟩
      · simpa using ih.1
      · simp only [List.length_cons]
        omega

theorem map_renderHex_parts (pieces : List Nat) :
    ∀ part ∈ pieces.map renderHex, part ≠ [] ∧ ':' ∉ part := by
  intro part hpart
  obtain ⟨n, -, rfl⟩ := List.mem_map.1 hpart
  exact ⟨renderHex_ne_nil n, not_mem_renderHex (by decide)⟩

/-- An address is read as it is written. -/
theorem v6?_renderV6 {pieces : List Nat} (h : IsAddress pieces) :
    v6? (renderV6 pieces) = some pieces := by
  obtain ⟨hlength, hbound⟩ := h
  obtain ⟨hzeros, hend⟩ := longestGap_spec pieces
  rw [renderV6]
  dsimp only
  split
  · -- No gap is written, and none is found.
    have hcut := cutAtGap_join (map_renderHex_parts pieces) []
    rw [List.append_nil, cutAtGap, Option.map_none] at hcut
    rw [v6?, hcut]
    simp only [run?_join true hbound, Option.bind_eq_bind, Option.bind_some, hlength, if_true]
  · -- The gap stands for as many zeros as the pieces on its two sides leave.
    rename_i hlong
    generalize (longestGap pieces).1 = start at hzeros hend ⊢
    generalize (longestGap pieces).2 = length at hzeros hend hlong ⊢
    have hfront : ∀ piece ∈ pieces.take start, piece < pieceBound := fun piece hpiece =>
      hbound piece (List.take_subset _ _ hpiece)
    have hback : ∀ piece ∈ pieces.drop (start + length), piece < pieceBound := fun piece hpiece =>
      hbound piece (List.drop_subset _ _ hpiece)
    have hcut := cutAtGap_join (map_renderHex_parts (pieces.take start))
      (':' :: ':' :: Text.join ':' ((pieces.drop (start + length)).map renderHex))
    rw [cutAtGap, Option.map_some, List.append_nil] at hcut
    have hwhole : pieces.take start ++ List.replicate length 0 ++ pieces.drop (start + length) =
        pieces := by
      rw [← hzeros, List.append_assoc, ← List.drop_drop, List.take_append_drop,
        List.take_append_drop]
    have hknown : (pieces.take start).length + (pieces.drop (start + length)).length =
        8 - length := by
      rw [List.length_take, List.length_drop]
      omega
    have hgap : 8 - (8 - length) = length := by omega
    rw [List.append_assoc, v6?, List.cons_append, List.singleton_append, hcut]
    simp only [run?_join _ hfront, run?_join _ hback, Option.bind_eq_bind, Option.bind_some, hknown,
      hgap, hwhole]
    rw [if_pos (by omega)]

end Gap

end RuleGateway.Ip
