import RuleGateway.Proofs.Url.Reading

/-!
# Blanks inside an address

Blanks and control characters are dropped at the end of an address. Once something is put
behind them they are inside it, and then they tell: nobody is named by an authority that
ends with one (`exists_error_parseAuthority`), and a path that ends with some leads
elsewhere (`addSegments_append_ne`).
-/

namespace RuleGateway

namespace Text

/-- What follows the last separator goes on with a text that has none. -/
theorem exists_split_append {sep : Char} {back : Text} (h : sep ∉ back) (front : Text) :
    ∃ before last, split sep front = before ++ [last] ∧
      split sep (front ++ back) = before ++ [last ++ back] := by
  induction front with
  | nil => exact ⟨[], [], rfl, split_of_not_mem h⟩
  | cons c front ih =>
    obtain ⟨before, last, hfront, hwhole⟩ := ih
    by_cases hc : c = sep
    · refine ⟨[] :: before, last, ?_, ?_⟩
      · rw [split, if_pos hc, hfront, List.cons_append]
      · rw [List.cons_append, split, if_pos hc, hwhole, List.cons_append]
    · rw [List.cons_append, split, if_neg hc, split, if_neg hc, hfront, hwhole]
      cases before with
      | nil => exact ⟨[], c :: last, rfl, rfl⟩
      | cons first before => exact ⟨(c :: first) :: before, last, rfl, rfl⟩

end Text

namespace Url

open Percent

section Zone

variable {scheme : Text} {c : Char}

theorem exists_cutAtLastAt (hc : c ≠ '@') (zone : Text) :
    ∃ user place,
      (cutAtLastAt (zone ++ [c])).getD ([], zone ++ [c]) = (user, place ++ [c]) := by
  have hbne : (c != '@') = true := bne_iff_ne.2 hc
  rw [cutAtLastAt, List.reverse_append, List.reverse_singleton, List.singleton_append,
    List.dropWhile_cons_of_pos (by exact hbne), List.takeWhile_cons_of_pos (by exact hbne),
    List.reverse_cons]
  split
  · exact ⟨[], zone, rfl⟩
  · exact ⟨_, _, rfl⟩

/-- A port is a number and nothing else. -/
theorem parsePort_eq_error {digits : Text} (h : ∀ d ∈ digits, endsAuthority .web d = false)
    (hrest : digits.dropWhile Char.isDigit ≠ []) :
    parsePort scheme digits = .error .invalidPort := by
  obtain ⟨d, rest, hdrop⟩ := List.exists_cons_of_ne_nil hrest
  have hd := h d ((List.dropWhile_suffix _).subset (hdrop ▸ List.mem_cons_self))
  simp only [parsePort, hdrop, List.head?_cons, Option.map_some, Option.getD_some,
    ← endsAuthority_web, hd]
  split
  · rfl
  · simp

theorem parsePort_concat {digits : Text} (h : ∀ d ∈ digits ++ [c], endsAuthority .web d = false)
    (hc : c.isDigit = false) : parsePort scheme (digits ++ [c]) = .error .invalidPort := by
  apply parsePort_eq_error h
  intro hnil
  rw [List.dropWhile_append, List.dropWhile_cons_of_neg (by simp [hc])] at hnil
  split at hnil
  · cases hnil
  · exact List.cons_ne_nil c [] (List.append_eq_nil_iff.1 hnil).2

theorem exists_error_parseHost (hc : isOuter c) (place : Text) :
    ∃ error, parseHost (place ++ [c]) = .error error := by
  have hle : c.toNat ≤ 0x20 := of_decide_eq_true hc
  have hname := Domain.toAscii?_concat_of_blank hle place
  rw [parseHost.eq_def]
  split
  · rename_i rest hbracket
    have hend : Text.endsWith rest ']' = false := by
      rw [Bool.eq_false_iff]
      intro hends
      obtain ⟨front, rfl⟩ := List.getLast?_eq_some_iff.1 (eq_of_beq hends)
      rw [← List.cons_append] at hbracket
      obtain rfl := List.singleton_inj.1 (List.append_inj' hbracket rfl).2
      cases hc
    rw [hend]
    exact ⟨_, rfl⟩
  · rw [hname]
    exact ⟨_, rfl⟩

/-- An authority that ends with a blank names nobody. -/
theorem exists_error_parseAuthority (hweb : SchemeKind.of scheme = .web) {zone : Text}
    (hzone : ∀ d ∈ zone ++ [c], endsAuthority .web d = false) (hc : isOuter c) :
    ∃ error, parseAuthority scheme (zone ++ [c]) = .error error := by
  have hmarks : c ≠ '@' ∧ c ≠ ':' ∧ c.isDigit = false := by
    have hall : ∀ n ≤ 0x20, Char.ofNat n ≠ '@' ∧ Char.ofNat n ≠ ':' ∧
        (Char.ofNat n).isDigit = false := by decide
    have hchar := hall c.toNat (of_decide_eq_true hc)
    rwa [Char.ofNat_toNat] at hchar
  obtain ⟨user, place, hcut⟩ := exists_cutAtLastAt hmarks.1 zone
  have hplace : ∀ d ∈ place ++ [c], endsAuthority .web d = false := by
    have hsubset := snd_cutAtLastAt_subset (zone ++ [c])
    rw [hcut] at hsubset
    exact fun d hd => hzone d (hsubset hd)
  rw [parseAuthority_zone hweb hzone hcut]
  split
  · exact ⟨_, rfl⟩
  rcases drop_hostLength false hplace with hnone | ⟨digits, hdigits⟩
  · -- There is no port, and the host ends with the blank.
    have hhost := List.take_append_drop (hostLength .web false (place ++ [c])) (place ++ [c])
    rw [hnone, List.append_nil] at hhost
    obtain ⟨error, herror⟩ := exists_error_parseHost hc place
    rw [hhost, herror]
    exact ⟨error, rfl⟩
  · -- The port ends with the blank.
    have hwhole := List.take_append_drop (hostLength .web false (place ++ [c])) (place ++ [c])
    rw [hdigits] at hwhole ⊢
    obtain ⟨front, hfront⟩ : ∃ front, digits = front ++ [c] := by
      rcases List.eq_nil_or_concat digits with rfl | ⟨front, last, rfl⟩
      · exact absurd (List.singleton_inj.1 (List.append_inj' hwhole rfl).2).symm hmarks.2.1
      · rw [List.concat_eq_append, ← List.cons_append, ← List.append_assoc] at hwhole
        rw [List.concat_eq_append, (List.append_inj' hwhole rfl).2]
        exact ⟨front, rfl⟩
    have hport : portOf scheme (':' :: digits) = .error .invalidPort := by
      have hin : ∀ d ∈ front ++ [c], endsAuthority .web d = false := fun d hd =>
        hplace d (hwhole ▸ List.mem_append_right _ (List.mem_cons_of_mem _ (hfront ▸ hd)))
      rw [hfront]
      exact parsePort_concat hin hmarks.2.2
    rw [hport]
    cases parseHost ((place ++ [c]).take (hostLength .web false (place ++ [c]))) with
    | error error => exact ⟨error, rfl⟩
    | ok host => exact ⟨_, rfl⟩

end Zone

section Path

variable {c : Char} {last back : Text}

/-- A segment with a blank at its end is no step. -/
theorem not_step_of_blank (hc : isOuter c) (last : Text) :
    isSingleDot (last ++ [c]) = false ∧ isDoubleDot (last ++ [c]) = false := by
  have hall : ∀ n ≤ 0x20, Char.ofNat n ≠ '%' ∧ Text.hexDigit? (Char.ofNat n) = none ∧
      (Char.ofNat n).toNat.toUInt8 ≠ dot := by decide
  have hchar := hall c.toNat (of_decide_eq_true hc)
  rw [Char.ofNat_toNat] at hchar
  obtain ⟨hpercent, hhex, hdot⟩ := hchar
  have hlt : c.toNat < 0x80 := Nat.lt_of_le_of_lt (of_decide_eq_true hc) (by decide)
  have hstops : ∀ d, [c].head? = some d → Text.hexDigit? d = none := by
    rintro d ⟨⟩
    exact hhex
  have hdecode : decodeLoose (last ++ [c]) = decodeLoose last ++ [c.toNat.toUInt8] := by
    rw [decodeLoose_append hstops, decodeLoose_cons hpercent, Utf8.encodeChar_of_lt hlt]
    rfl
  have hne (front : Bytes) : decodeLoose (last ++ [c]) ≠ front ++ [dot] := by
    rw [hdecode]
    intro hsame
    exact hdot (List.singleton_inj.1 (List.append_inj' hsame rfl).2)
  constructor
  · rw [Bool.eq_false_iff, Ne, isSingleDot_iff]
    exact hne []
  · rw [Bool.eq_false_iff, Ne, isDoubleDot_iff]
    exact hne [dot]

/-- What a last segment is read as is no longer than the segment, escaped. -/
theorem exists_addSegment_eq (segments : List Text) (last : Text) :
    ∃ start kept, addSegment segments last true = start ++ [kept] ∧
      kept.length ≤ (encode inPathSet last).length := by
  rw [addSegment]
  split
  · exact ⟨_, [], rfl, Nat.zero_le _⟩
  · split
    · exact ⟨_, [], rfl, Nat.zero_le _⟩
    · exact ⟨segments, _, rfl, Nat.le_refl _⟩

/-- A path with a blank at its end leads elsewhere. -/
theorem addSegments_append_ne (hc : isOuter c) (before : List Text) (last front : Text) :
    addSegments [] (before ++ [last ++ (front ++ [c])]) ≠ addSegments [] (before ++ [last]) := by
  obtain ⟨hdot, hdots⟩ := not_step_of_blank hc (last ++ front)
  obtain ⟨start, kept, hkept, hlength⟩ := exists_addSegment_eq (descend [] before) last
  have hone (piece : Text) :
      addSegments [] (before ++ [piece]) = addSegment (descend [] before) piece true := by
    rw [addSegments_append (List.cons_ne_nil piece []), addSegments]
  rw [hone, hone, hkept, ← List.append_assoc, addSegment_of_kept hdot hdots]
  intro hsame
  have hlast := List.singleton_inj.1 (List.append_inj' hsame rfl).2
  have hescaped : encode inPathSet [c] ≠ [] := encode_ne_nil (List.cons_ne_nil c [])
  have hpositive := List.length_pos_iff.2 hescaped
  rw [← hlast, encode_append, encode_append, List.length_append, List.length_append] at hlength
  omega

end Path

end Url

end RuleGateway
