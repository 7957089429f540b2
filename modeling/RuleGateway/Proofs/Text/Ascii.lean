import RuleGateway.Proofs.Text.Runs
import RuleGateway.Text.Utf8

/-!
# Characters of ASCII

What is true of the characters of ASCII is found by going through them. The
lemmas here say so of the readers that tell hexadecimal digits and small letters,
and of the bytes of a character.
-/

namespace RuleGateway

namespace Text

/-- What holds of the first 128 code points holds of every character of ASCII. -/
theorem forall_ascii {p : Char → Prop} (h : ∀ n < 128, p (Char.ofNat n)) {c : Char}
    (hc : c.toNat < 0x80) : p c := by
  rw [← Char.ofNat_toNat c]
  exact h c.toNat hc

/-- What holds of the characters of a text is found by going through the text. -/
theorem forall_mem {p : Char → Prop} [DecidablePred p] {text : Text}
    (h : (text.all fun c => decide (p c)) = true) : ∀ c ∈ text, p c :=
  fun c hc => of_decide_eq_true (List.all_eq_true.1 h c hc)

theorem toNat_lt_of_isAlpha {c : Char} (h : c.isAlpha) : c.toNat < 0x80 := by
  have hle (d : Char) (hd : d.toNat < 0x80) (hcd : c.val ≤ d.val) : c.toNat < 0x80 :=
    Nat.lt_of_le_of_lt (UInt32.le_iff_toNat_le.1 hcd) hd
  have hletter : (c.isUpper || c.isLower) = true := h
  rw [Bool.or_eq_true] at hletter
  rcases hletter with hupper | hlower
  · have hrange : 'A'.val ≤ c.val ∧ c.val ≤ 'Z'.val := of_decide_eq_true hupper
    exact hle 'Z' (by decide) hrange.2
  · have hrange : (decide ('a'.val ≤ c.val) && decide (c.val ≤ 'z'.val)) = true := hlower
    exact hle 'z' (by decide) (of_decide_eq_true (Bool.and_eq_true_iff.1 hrange).2)

/-- The hexadecimal digits. -/
def hexDigits : Text := "0123456789abcdefABCDEF"

theorem toNat_lt_of_hexDigit? {c : Char} (h : (hexDigit? c).isSome) : c.toNat < 0x80 := by
  have hle (d : Char) (hcd : c ≤ d) (hd : d.toNat < 0x80) : c.toNat < 0x80 := by
    rw [Char.le_def, UInt32.le_iff_toNat_le] at hcd
    exact Nat.lt_of_le_of_lt hcd hd
  rw [hexDigit?] at h
  split at h
  · rename_i hdigit
    simp only [Char.isDigit, Bool.and_eq_true, decide_eq_true_eq] at hdigit
    exact hle '9' hdigit.2 (by decide)
  · split at h
    · rename_i hsmall
      exact hle 'f' hsmall.2 (by decide)
    · split at h
      · rename_i hcapital
        exact hle 'F' hcapital.2 (by decide)
      · cases h

theorem toNat_lt_of_isDigit {c : Char} (h : c.isDigit) : c.toNat < 0x80 :=
  toNat_lt_of_hexDigit? (by rw [hexDigit?, if_pos h]; rfl)

theorem mem_hexDigits_of_hexDigit? {c : Char} (h : (hexDigit? c).isSome) : c ∈ hexDigits := by
  have hall : ∀ n < 128, (hexDigit? (Char.ofNat n)).isSome → Char.ofNat n ∈ hexDigits := by
    decide
  exact forall_ascii (p := fun c => (hexDigit? c).isSome → c ∈ hexDigits) hall
    (toNat_lt_of_hexDigit? h) h

section Lower

variable {c : Char}

theorem toLower_of_le (h : 0x80 ≤ c.toNat) : c.toLower = c := by
  refine dif_neg ?_
  rintro ⟨-, hlast⟩
  rw [UInt32.le_iff_toNat_le] at hlast
  have hcapital : 'Z'.val.toNat = 90 := rfl
  have hc : c.val.toNat = c.toNat := rfl
  omega

/-- A character that becomes no letter when it is made small is left as it is. -/
theorem eq_of_toLower {d : Char} (hd : d.isLower = false) (h : c.toLower = d) : c = d := by
  by_cases hc : c.toNat < 0x80
  · have hall : ∀ n < 128, (Char.ofNat n).toLower.isLower = false →
        Char.ofNat n = (Char.ofNat n).toLower := by decide
    rw [← h] at hd ⊢
    exact forall_ascii (p := fun c => c.toLower.isLower = false → c = c.toLower) hall hc hd
  · rwa [toLower_of_le (Nat.le_of_not_lt hc)] at h

theorem eq_or_eq_of_toLower_eq_e (h : c.toLower = 'e') : c = 'e' ∨ c = 'E' := by
  by_cases hc : c.toNat < 0x80
  · have hall : ∀ n < 128, (Char.ofNat n).toLower = 'e' →
        Char.ofNat n = 'e' ∨ Char.ofNat n = 'E' := by decide
    exact forall_ascii (p := fun c => c.toLower = 'e' → c = 'e' ∨ c = 'E') hall hc h
  · rw [toLower_of_le (Nat.le_of_not_lt hc)] at h
    exact .inl h

end Lower

end Text

namespace Utf8

theorem encodeChar_of_lt {c : Char} (h : c.toNat < 0x80) : encodeChar c = [c.toNat.toUInt8] := by
  rw [encodeChar, if_pos h]

theorem toNat_lt (c : Char) : c.toNat < 0x110000 := by
  rcases c.valid with hlow | ⟨-, hhigh⟩
  · exact Nat.lt_trans hlow (by decide)
  · exact hhigh

/-- No byte of a character outside ASCII is a character of ASCII. -/
theorem le_of_mem_encodeChar {c : Char} (h : 0x80 ≤ c.toNat) {b : UInt8}
    (hb : b ∈ encodeChar c) : 0x80 ≤ b.toNat := by
  have hlast := toNat_lt c
  have hbyte (n : Nat) (hlow : 0x80 ≤ n) (hhigh : n < 0x100) : 0x80 ≤ n.toUInt8.toNat := by
    rwa [UInt8.toNat_ofNat_of_lt' hhigh]
  rw [encodeChar, if_neg (Nat.not_lt.2 h)] at hb
  split at hb
  · simp only [List.mem_cons, List.not_mem_nil, or_false] at hb
    rcases hb with rfl | rfl <;> exact hbyte _ (by omega) (by omega)
  · split at hb
    · simp only [List.mem_cons, List.not_mem_nil, or_false] at hb
      rcases hb with rfl | rfl | rfl <;> exact hbyte _ (by omega) (by omega)
    · simp only [List.mem_cons, List.not_mem_nil, or_false] at hb
      rcases hb with rfl | rfl | rfl | rfl <;> exact hbyte _ (by omega) (by omega)

theorem encodeChar_ne_nil (c : Char) : encodeChar c ≠ [] := by
  rw [encodeChar]
  repeat' split
  all_goals simp

theorem encode_cons (c : Char) (rest : Text) : encode (c :: rest) = encodeChar c ++ encode rest :=
  List.flatMap_cons

end Utf8

end RuleGateway
