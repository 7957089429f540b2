import RuleGateway.Proofs.Percent
import RuleGateway.Proofs.Text.Runs
import RuleGateway.Url.Parser

/-!
# The segments of a path

A path is read segment by segment. A segment that decodes to one dot or two is a
step in the tree (`isSingleDot_iff`, `isDoubleDot_iff`), every other one is kept,
escaped. What is kept is settled: it is no step and has nothing left to escape, so
that it stays as it is when the path is read again.
-/

namespace RuleGateway.Url

open Percent

section Dots

/-- The byte of a dot. -/
def dot : UInt8 := 0x2E

/-- The spellings of a dot in a path, in small letters. -/
def dots : List Text := [".", "%2e"]

theorem decodeLoose_eq_nil {text : Text} (h : decodeLoose text = []) : text = [] := by
  cases text with
  | nil => rfl
  | cons c text =>
    have hfirst (rest : Bytes) : Utf8.encodeChar c ++ rest ≠ [] := fun hnil =>
      Utf8.encodeChar_ne_nil c (List.append_eq_nil_iff.1 hnil).1
    by_cases hc : c = '%'
    · subst hc
      cases hbyte : byteAt? text with
      | none =>
        rw [decodeLoose_of_not_byteAt? hbyte] at h
        exact absurd h (hfirst _)
      | some b =>
        rw [decodeLoose_of_byteAt? hbyte] at h
        cases h
    · rw [decodeLoose_cons hc] at h
      exact absurd h (hfirst _)

/-- Only a dot has the byte of one. -/
theorem eq_dot_of_encodeChar {c : Char} {bytes rest : Bytes}
    (h : Utf8.encodeChar c ++ rest = dot :: bytes) : c = '.' ∧ rest = bytes := by
  by_cases hascii : c.toNat < 0x80
  · rw [Utf8.encodeChar_of_lt hascii, List.singleton_append] at h
    obtain ⟨hdot, hrest⟩ := List.cons.inj h
    have hall : ∀ n < 128, (Char.ofNat n).toNat.toUInt8 = dot → Char.ofNat n = '.' := by decide
    exact ⟨Text.forall_ascii (p := fun c => c.toNat.toUInt8 = dot → c = '.') hall hascii hdot,
      hrest⟩
  · obtain ⟨b, more, hencode⟩ := List.exists_cons_of_ne_nil (Utf8.encodeChar_ne_nil c)
    have hb := Utf8.le_of_mem_encodeChar (Nat.le_of_not_lt hascii) (hencode ▸ List.mem_cons_self)
    rw [hencode, List.cons_append] at h
    rw [(List.cons.inj h).1] at hb
    exact absurd hb (by decide)

/-- A dot is read from nothing but a dot and its escape. -/
theorem exists_of_decodeLoose_eq_dot {text : Text} {bytes : Bytes}
    (h : decodeLoose text = dot :: bytes) :
    ∃ rest, decodeLoose rest = bytes ∧
      ∃ spelled ∈ dots, Text.lower text = spelled ++ Text.lower rest := by
  cases text with
  | nil => cases h
  | cons c text =>
    by_cases hc : c = '%'
    · subst hc
      cases hbyte : byteAt? text with
      | none =>
        rw [decodeLoose_of_not_byteAt? hbyte] at h
        cases h
      | some b =>
        rw [decodeLoose_of_byteAt? hbyte] at h
        obtain ⟨rfl, hrest⟩ := List.cons.inj h
        match text with
        | [] | [_] => cases hbyte
        | high :: low :: rest =>
          obtain ⟨hhigh, hlow⟩ := byte?_eq_some hbyte
          have hall : (Text.hexDigits.all fun high => Text.hexDigits.all fun low =>
              decide (byte? high low = some dot → high = '2' ∧ low.toLower = 'e')) = true := by
            decide
          simp only [List.all_eq_true, decide_eq_true_eq] at hall
          obtain ⟨rfl, he⟩ := hall high (Text.mem_hexDigits_of_hexDigit? hhigh) low
            (Text.mem_hexDigits_of_hexDigit? hlow) hbyte
          refine ⟨rest, hrest, "%2e", by decide, ?_⟩
          simp [Text.lower, he]
    · rw [decodeLoose_cons hc] at h
      obtain ⟨rfl, hrest⟩ := eq_dot_of_encodeChar h
      exact ⟨text, hrest, ".", by decide, rfl⟩

/-- Every spelling of a dot is read as one. -/
theorem exists_of_lower_eq_dot {text rest spelled : Text} (hspelled : spelled ∈ dots)
    (h : Text.lower text = spelled ++ rest) :
    ∃ left, Text.lower left = rest ∧ decodeLoose text = dot :: decodeLoose left := by
  obtain ⟨front, left, rfl, hfront, hleft⟩ := List.map_eq_append_iff.1 h
  refine ⟨left, hleft, ?_⟩
  simp only [dots, List.mem_cons, List.not_mem_nil, or_false] at hspelled
  rcases hspelled with rfl | rfl
  · obtain ⟨c, rfl, hc⟩ := List.map_eq_singleton_iff.1 hfront
    obtain rfl := Text.eq_of_toLower rfl hc
    exact decodeLoose_cons (by decide) left
  · obtain ⟨c, front, rfl, hc, hfront⟩ := List.map_eq_cons_iff.1 hfront
    obtain ⟨d, front, rfl, hd, hfront⟩ := List.map_eq_cons_iff.1 hfront
    obtain ⟨e, rfl, he⟩ := List.map_eq_singleton_iff.1 hfront
    obtain rfl := Text.eq_of_toLower rfl hc
    obtain rfl := Text.eq_of_toLower rfl hd
    rcases Text.eq_or_eq_of_toLower_eq_e he with rfl | rfl <;> rfl

/-- A segment stands for the directory it is in if it reads as a dot. -/
theorem isSingleDot_iff {segment : Text} : isSingleDot segment ↔ decodeLoose segment = [dot] := by
  have hspelled : isSingleDot segment ↔ ∃ spelled ∈ dots, Text.lower segment = spelled ++ [] := by
    simp [isSingleDot, dots]
  rw [hspelled]
  constructor
  · rintro ⟨spelled, hmem, hlower⟩
    obtain ⟨left, hleft, hdecode⟩ := exists_of_lower_eq_dot hmem hlower
    rw [hdecode, List.map_eq_nil_iff.1 hleft]
    rfl
  · intro hdecode
    obtain ⟨rest, hrest, spelled, hmem, hlower⟩ := exists_of_decodeLoose_eq_dot hdecode
    rw [decodeLoose_eq_nil hrest] at hlower
    exact ⟨spelled, hmem, hlower⟩

/-- A segment stands for the directory above if it reads as two dots. -/
theorem isDoubleDot_iff {segment : Text} :
    isDoubleDot segment ↔ decodeLoose segment = [dot, dot] := by
  have hspelled : isDoubleDot segment ↔
      ∃ other ∈ dots, ∃ spelled ∈ dots, Text.lower segment = spelled ++ (other ++ []) := by
    simp [isDoubleDot, dots, or_assoc]
  rw [hspelled]
  constructor
  · rintro ⟨other, hother, spelled, hmem, hlower⟩
    obtain ⟨left, hleft, hdecode⟩ := exists_of_lower_eq_dot hmem hlower
    obtain ⟨last, hlast, hdecode'⟩ := exists_of_lower_eq_dot hother hleft
    rw [hdecode, hdecode', List.map_eq_nil_iff.1 hlast]
    rfl
  · intro hdecode
    obtain ⟨rest, hrest, spelled, hmem, hlower⟩ := exists_of_decodeLoose_eq_dot hdecode
    obtain ⟨left, hleft, other, hother, hlower'⟩ := exists_of_decodeLoose_eq_dot hrest
    rw [decodeLoose_eq_nil hleft] at hlower'
    rw [hlower'] at hlower
    exact ⟨other, hother, spelled, hmem, hlower⟩

theorem eq_dot_of_encode {text : Text} {bytes : Bytes} (h : Utf8.encode text = dot :: bytes) :
    ∃ rest, text = '.' :: rest ∧ Utf8.encode rest = bytes := by
  cases text with
  | nil => cases h
  | cons c rest =>
    obtain ⟨rfl, hrest⟩ := eq_dot_of_encodeChar h
    exact ⟨rest, rfl, hrest⟩

/-- A segment without escapes is a step only as it stands. -/
theorem not_step_of_escapeless {segment : Text} (h : Escapeless segment)
    (hdot : segment ≠ ['.']) (hdots : segment ≠ ['.', '.']) :
    isSingleDot segment = false ∧ isDoubleDot segment = false := by
  have hnil (text : Text) (h : Utf8.encode text = []) : text = [] := by
    cases text with
    | nil => rfl
    | cons c rest => exact absurd (List.append_eq_nil_iff.1 h).1 (Utf8.encodeChar_ne_nil c)
  rw [Bool.eq_false_iff, Bool.eq_false_iff, Ne, Ne, isSingleDot_iff, isDoubleDot_iff,
    decodeLoose_of_escapeless h]
  constructor
  · intro hencode
    obtain ⟨rest, rfl, hrest⟩ := eq_dot_of_encode hencode
    exact hdot (congrArg ('.' :: ·) (hnil rest hrest))
  · intro hencode
    obtain ⟨rest, rfl, hrest⟩ := eq_dot_of_encode hencode
    obtain ⟨rest, rfl, hrest'⟩ := eq_dot_of_encode hrest
    exact hdots (congrArg (['.', '.'] ++ ·) (hnil rest hrest'))

end Dots

section Settled

theorem spares_inPathSet : Spares inPathSet := Text.forall_mem (by decide)

/-- A segment that is no step is none when it is escaped. -/
theorem not_step_encode {segment : Text} (hdot : isSingleDot segment = false)
    (hdots : isDoubleDot segment = false) :
    isSingleDot (encode inPathSet segment) = false ∧
      isDoubleDot (encode inPathSet segment) = false := by
  rw [Bool.eq_false_iff] at hdot hdots
  rw [Bool.eq_false_iff, Bool.eq_false_iff, Ne, Ne, isSingleDot_iff, isDoubleDot_iff,
    decodeLoose_encode spares_inPathSet, ← isSingleDot_iff, ← isDoubleDot_iff]
  exact ⟨hdot, hdots⟩

/-- A segment that is no step in the tree and has nothing to escape. -/
structure IsSettled (segment : Text) : Prop where
  no_dot : isSingleDot segment = false
  no_dots : isDoubleDot segment = false
  plain : ∀ c ∈ segment, isEscaped inPathSet c = false ∧ isAnySlash c = false

theorem isSettled_nil : IsSettled [] := ⟨rfl, rfl, fun c hc => by cases hc⟩

/-- An escaped segment that is no step is settled. -/
theorem isSettled_encode {segment : Text} (hdot : isSingleDot segment = false)
    (hdots : isDoubleDot segment = false) (hslash : ∀ c ∈ segment, isAnySlash c = false) :
    IsSettled (encode inPathSet segment) where
  no_dot := (not_step_encode hdot hdots).1
  no_dots := (not_step_encode hdot hdots).2
  plain c hc := by
    rcases mem_encode hc with ⟨hsegment, hleft⟩ | hescape
    · exact ⟨hleft, hslash c hsegment⟩
    · have hall : ∀ d ∈ '%' :: Text.hexDigits, isAnySlash d = false :=
        Text.forall_mem (by decide)
      exact ⟨spares_inPathSet.not_isEscaped hescape, hall c hescape⟩

theorem leave_subset (segments : List Text) : leave segments ⊆ segments := by
  rw [leave]
  split
  · exact List.Subset.refl _
  · exact List.dropLast_subset _

section Added

variable {P : Text → Prop} {segments : List Text}

/-- What holds of the segments of a path, of the empty one and of one that is put behind
them holds when the path is read on. -/
theorem forall_mem_addSegment (hnil : P []) (hsegments : ∀ kept ∈ segments, P kept)
    {segment : Text} (hput : isSingleDot segment = false → isDoubleDot segment = false →
      P (encode inPathSet segment)) (last : Bool) :
    ∀ kept ∈ addSegment segments segment last, P kept := by
  have hend : ∀ kept ∈ (if last then [[]] else [] : List Text), P kept := by
    split
    · exact List.forall_mem_singleton.2 hnil
    · exact List.forall_mem_nil _
  rw [addSegment]
  split
  · exact List.forall_mem_append.2
      ⟨fun kept hmem => hsegments kept (leave_subset segments hmem), hend⟩
  · rename_i hdots
    split
    · exact List.forall_mem_append.2 ⟨hsegments, hend⟩
    · rename_i hdot
      exact List.forall_mem_append.2 ⟨hsegments, List.forall_mem_singleton.2
        (hput (Bool.eq_false_iff.2 hdot) (Bool.eq_false_iff.2 hdots))⟩

theorem forall_mem_addSegments (hnil : P []) (hsegments : ∀ kept ∈ segments, P kept)
    {pieces : List Text} (hput : ∀ piece ∈ pieces, isSingleDot piece = false →
      isDoubleDot piece = false → P (encode inPathSet piece)) :
    ∀ kept ∈ addSegments segments pieces, P kept := by
  induction pieces generalizing segments with
  | nil => exact hsegments
  | cons piece pieces ih =>
    rw [List.forall_mem_cons] at hput
    have hkept := forall_mem_addSegment hnil hsegments hput.1
    cases pieces with
    | nil => exact hkept true
    | cons next pieces => exact ih (hkept false) hput.2

end Added

/-- Reading a segment keeps a path settled. -/
theorem isSettled_of_mem_addSegment {segments : List Text} {segment : Text} {last : Bool}
    (hsegments : ∀ kept ∈ segments, IsSettled kept) (hslash : ∀ c ∈ segment, isAnySlash c = false)
    {kept : Text} (hkept : kept ∈ addSegment segments segment last) : IsSettled kept :=
  forall_mem_addSegment isSettled_nil hsegments
    (fun hdot hdots => isSettled_encode hdot hdots hslash) last kept hkept

/-- A segment that is no step is put behind the others, escaped. -/
theorem addSegment_of_kept {segment : Text} (hdot : isSingleDot segment = false)
    (hdots : isDoubleDot segment = false) (segments : List Text) (last : Bool) :
    addSegment segments segment last = segments ++ [encode inPathSet segment] := by
  rw [addSegment, hdots, hdot]
  rfl

end Settled

end RuleGateway.Url
