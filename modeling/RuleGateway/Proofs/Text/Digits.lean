import Mathlib.Data.List.Induction
import RuleGateway.Proofs.Text.Ascii

/-!
# Digits

A number is read digit by digit, so that a number that was written with digits is
read as it was (`number?_toDigits`), and a text of some length is read as a number
below the power of the base.
-/

namespace RuleGateway.Text

section Reading

variable {base : Nat} {value? : Char → Option Nat} {text : Text}

/-- What is read with one more digit. -/
def push (base : Nat) (value? : Char → Option Nat) (sum : Option Nat) (c : Char) : Option Nat :=
  sum.bind fun sum => (value? c).map (sum * base + ·)

theorem number?_of_ne_nil (h : text ≠ []) :
    number? base value? text = text.foldl (push base value?) (some 0) := by
  have hpush : push base value? =
      (fun sum c => do pure ((← sum) * base + (← value? c))) := by
    funext sum c
    cases sum <;> cases hc : value? c <;> simp [push, hc]
  rw [hpush, number?]
  exact h

theorem number?_singleton (c : Char) : number? base value? [c] = value? c := by
  rw [number?_of_ne_nil (by simp), List.foldl_cons, List.foldl_nil, push, Option.bind_some]
  simp

theorem number?_concat (h : text ≠ []) (c : Char) :
    number? base value? (text ++ [c]) = push base value? (number? base value? text) c := by
  rw [number?_of_ne_nil h, number?_of_ne_nil (by simp), List.foldl_append]
  rfl

theorem foldl_push_none (text : Text) : text.foldl (push base value?) none = none := by
  induction text with
  | nil => rfl
  | cons c text ih => exact ih

/-- A number has digits only. -/
theorem isSome_of_mem_number? {n : Nat} (h : number? base value? text = some n) {c : Char}
    (hc : c ∈ text) : (value? c).isSome := by
  have hne : text ≠ [] := List.ne_nil_of_mem hc
  rw [number?_of_ne_nil hne] at h
  generalize some 0 = sum at h
  clear hne
  induction text generalizing sum with
  | nil => cases hc
  | cons d text ih =>
    rw [List.foldl_cons] at h
    rcases List.mem_cons.1 hc with rfl | hmem
    · cases hvalue : value? c with
      | some v => rfl
      | none =>
        have hnone : push base value? sum c = none := by
          rw [push, hvalue]
          cases sum <;> rfl
        rw [hnone, foldl_push_none] at h
        cases h
    · exact ih hmem _ h

/-- A number is below the power of the base for the length of its text. -/
theorem lt_pow_of_number? (hvalue : ∀ c n, value? c = some n → n < base) {n : Nat}
    (h : number? base value? text = some n) : n < Nat.pow base text.length := by
  have hfold (text : Text) (sum : Nat)
      (h : text.foldl (push base value?) (some sum) = some n) :
      n < (sum + 1) * base ^ text.length := by
    induction text generalizing sum with
    | nil =>
      cases h
      simp
    | cons c text ih =>
      rw [List.foldl_cons, push, Option.bind_some] at h
      cases hc : value? c with
      | none =>
        rw [hc, Option.map_none, foldl_push_none] at h
        cases h
      | some digit =>
        rw [hc, Option.map_some] at h
        have hdigit : sum * base + digit + 1 ≤ (sum + 1) * base := by
          rw [Nat.succ_mul]
          have := hvalue c digit hc
          omega
        calc n < (sum * base + digit + 1) * base ^ text.length := ih _ h
          _ ≤ (sum + 1) * base * base ^ text.length := Nat.mul_le_mul_right _ hdigit
          _ = (sum + 1) * base ^ (c :: text).length := by
            rw [List.length_cons, Nat.pow_succ, Nat.mul_assoc, Nat.mul_comm base]
  cases htext : text with
  | nil =>
    rw [htext] at h
    cases h
  | cons c rest =>
    rw [number?_of_ne_nil (by simp [htext])] at h
    simpa [htext] using hfold text 0 h

end Reading

section Writing

variable {base : Nat}

/-- A number is read as it is written. -/
theorem number?_toDigits {value? : Char → Option Nat} (hbase : 1 < base)
    (hvalue : ∀ d < base, value? d.digitChar = some d) (n : Nat) :
    number? base value? (Nat.toDigits base n) = some n := by
  induction n using Nat.strongRecOn with
  | ind n ih =>
    by_cases hn : n < base
    · rw [Nat.toDigits_of_lt_base hn, number?_singleton, hvalue n hn]
    · have hquotient : n / base < n := Nat.div_lt_self (by omega) hbase
      rw [Nat.toDigits_of_base_le hbase (Nat.le_of_not_lt hn),
        number?_concat Nat.toDigits_ne_nil, ih _ hquotient, push, Option.bind_some,
        hvalue _ (Nat.mod_lt n (by omega)), Option.map_some, Nat.div_add_mod']

theorem mem_toDigits (hbase : 1 < base) {n : Nat} {c : Char} (h : c ∈ Nat.toDigits base n) :
    ∃ d < base, c = d.digitChar := by
  induction n using Nat.strongRecOn with
  | ind n ih =>
    by_cases hn : n < base
    · rw [Nat.toDigits_of_lt_base hn, List.mem_singleton] at h
      exact ⟨n, hn, h⟩
    · rw [Nat.toDigits_of_base_le hbase (Nat.le_of_not_lt hn), List.mem_append,
        List.mem_singleton] at h
      rcases h with hfront | hlast
      · exact ih _ (Nat.div_lt_self (by omega) hbase) hfront
      · exact ⟨_, Nat.mod_lt n (by omega), hlast⟩

theorem decimal?_ofNat (n : Nat) : decimal? (ofNat n) = some n :=
  number?_toDigits (by decide) (by decide) n

theorem foldl_push_zeros (zeros : Nat) :
    (List.replicate zeros '0').foldl (push 10 digit?) (some 0) = some 0 := by
  induction zeros with
  | zero => rfl
  | succ zeros ih => rwa [List.replicate_succ, List.foldl_cons]

/-- Leading zeros do not change a number. -/
theorem decimal?_zeros_append (zeros n : Nat) :
    decimal? (List.replicate zeros '0' ++ ofNat n) = some n := by
  have hne : ofNat n ≠ [] := Nat.toDigits_ne_nil
  have hread := decimal?_ofNat n
  rw [decimal?, number?_of_ne_nil hne] at hread
  rw [decimal?, number?_of_ne_nil (List.append_ne_nil_of_right_ne_nil _ hne),
    List.foldl_append, foldl_push_zeros, hread]

theorem exists_digitChar {c : Char} (h : c.isDigit) : ∃ d < 10, c = d.digitChar := by
  have hall : ∀ n < 128, (Char.ofNat n).isDigit → ∃ d < 10, Char.ofNat n = d.digitChar := by
    decide
  refine forall_ascii (p := fun c => c.isDigit → ∃ d < 10, c = d.digitChar) hall ?_ h
  exact toNat_lt_of_hexDigit? (by rw [hexDigit?, if_pos h]; rfl)

/-- Digits are a number behind zeros. -/
theorem exists_zeros_append {digits : Text} (hne : digits ≠ []) (h : ∀ c ∈ digits, c.isDigit) :
    ∃ zeros n, digits = List.replicate zeros '0' ++ ofNat n := by
  induction digits using List.reverseRecOn with
  | nil => exact absurd rfl hne
  | append_singleton digits c ih =>
    obtain ⟨d, hd, rfl⟩ := exists_digitChar (h c (by simp))
    have hone : ofNat d = [d.digitChar] := Nat.toDigits_of_lt_base hd
    cases digits with
    | nil => exact ⟨0, d, hone.symm⟩
    | cons e digits =>
      obtain ⟨zeros, n, hdigits⟩ :=
        ih (List.cons_ne_nil _ _) fun c hc => h c (List.mem_append_left _ hc)
      rw [hdigits]
      rcases Nat.eq_zero_or_pos n with rfl | hpos
      · refine ⟨zeros + 1, d, ?_⟩
        rw [hone, List.replicate_succ']
        rfl
      · have hquotient : (n * 10 + d) / 10 = n := by omega
        have hlast : (n * 10 + d) % 10 = d := by omega
        have hmore : ofNat (n * 10 + d) = ofNat n ++ [d.digitChar] := by
          rw [ofNat, Nat.toDigits_of_base_le (by decide) (by omega), hquotient, hlast, ofNat]
        exact ⟨zeros, n * 10 + d, by rw [hmore, List.append_assoc]⟩

end Writing

end RuleGateway.Text
