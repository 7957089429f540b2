import Mathlib.Algebra.Group.Nat.Defs
import RuleGateway.Proofs.Number.Order

/-!
# Whole numbers that are doubles

A whole number with at most 53 binary digits is on the grid of its leading digit, so
nothing is rounded away when it becomes a double: the double is equal to the number
(`toNat?_ofInt`). Greater numbers may lose their last digits.
-/

namespace RuleGateway.Binary64

theorem roundHalfEven_one (n : Nat) : roundHalfEven n 1 = n := by
  simp [roundHalfEven, Nat.mod_one]

section Digits

variable {n k : Nat} (hk : n.log2 = k) (hlt : k ≤ 52)

include hlt in
theorem two_pow_mul (e : Nat) : 2 ^ k * 2 ^ (52 + e - k) = 2 ^ (52 + e) := by
  rw [← Nat.pow_add]
  congr 1
  omega

include hk hlt

/-- The grid of a number has 53 of its digits. -/
theorem gridExponent_one (hn : n ≠ 0) : gridExponent n 1 = (k : Int) - 52 := by
  have hguess : Int.ofNat n.log2 - Int.ofNat (Nat.log2 1) - 53 = (k : Int) - 53 := by
    have hone : Nat.log2 1 = 0 := by decide
    rw [hk, hone]
    exact congrArg (· - 53) (Int.sub_zero _)
  have hshift : (-((k : Int) - 53)).toNat = 52 + 1 - k := by omega
  have hwhole : Nat.pow 2 53 ≤ n * Nat.pow 2 (52 + 1 - k) / 1 := by
    rw [Nat.div_one]
    calc
      2 ^ 53 = 2 ^ k * 2 ^ (52 + 1 - k) := (two_pow_mul hlt 1).symm
      _ ≤ n * 2 ^ (52 + 1 - k) := Nat.mul_le_mul_right _ (hk ▸ Nat.log2_self_le hn)
  have hcoarse : ¬ 0 ≤ (k : Int) - 53 := by omega
  simp only [gridExponent, hguess, hshift]
  rw [if_neg hcoarse, if_pos hwhole]
  omega

/-- The digits of a number, as many as a double has. -/
theorem digits_bounds (hn : n ≠ 0) : 2 ^ 52 ≤ n * 2 ^ (52 - k) ∧ n * 2 ^ (52 - k) < 2 ^ 53 := by
  have hlow : 2 ^ k ≤ n := hk ▸ Nat.log2_self_le hn
  have hhigh : n < 2 ^ (k + 1) := hk ▸ Nat.lt_log2_self
  have hpow : 2 ^ k * 2 ^ (52 - k) = 2 ^ 52 := two_pow_mul hlt 0
  constructor
  · calc
      2 ^ 52 = 2 ^ k * 2 ^ (52 - k) := hpow.symm
      _ ≤ n * 2 ^ (52 - k) := Nat.mul_le_mul_right _ hlow
  · calc
      n * 2 ^ (52 - k) < 2 ^ (k + 1) * 2 ^ (52 - k) :=
        Nat.mul_lt_mul_of_pos_right hhigh (Nat.two_pow_pos _)
      _ = 2 ^ 52 * 2 := by rw [Nat.pow_succ, Nat.mul_right_comm, hpow]
      _ = 2 ^ 53 := (Nat.pow_succ ..).symm

/-- The pattern of a number: its exponent, and its digits after the first one. -/
theorem ofNat_eq (hn : n ≠ 0) : ofNat n = (k + 1022) * 2 ^ 52 + n * 2 ^ (52 - k) := by
  have hdigits := (digits_bounds hk hlt hn).2
  have hgrid := gridExponent_one hk hlt hn
  have hexponent : (gridExponent n 1 + 1074).toNat = k + 1022 := by
    rw [hgrid]
    omega
  have hrounded : (if 0 ≤ gridExponent n 1 then
        roundHalfEven n (1 * Nat.pow 2 (gridExponent n 1).toNat)
      else roundHalfEven (n * Nat.pow 2 (-gridExponent n 1).toNat) 1) = n * 2 ^ (52 - k) := by
    rw [hgrid]
    split
    · have hfull : k = 52 := by omega
      subst hfull
      exact (roundHalfEven_one n).trans (Nat.mul_one n).symm
    · have hfine : (-((k : Int) - 52)).toNat = 52 - k := by omega
      rw [hfine, roundHalfEven_one]
      rfl
  simp only [ofNat, ofQuotient, if_neg hn, hrounded, hexponent]
  simp only [infinity, Nat.pow_eq]
  omega

/-- The significand of a number is its digits. -/
theorem parts_ofNat (hn : n ≠ 0) : parts (ofNat n) = (n * 2 ^ (52 - k), (k : Int) - 52) := by
  obtain ⟨hlow, hhigh⟩ := digits_bounds hk hlt hn
  have hfield : ofNat n / Nat.pow 2 52 = k + 1023 := by
    rw [ofNat_eq hk hlt hn, Nat.pow_eq]
    omega
  have hfraction : ofNat n % Nat.pow 2 52 = n * 2 ^ (52 - k) - 2 ^ 52 := by
    rw [ofNat_eq hk hlt hn, Nat.pow_eq]
    omega
  simp only [parts, hfield, hfraction]
  rw [if_neg (by omega), Nat.pow_eq, Int.ofNat_eq_natCast, Prod.mk.injEq]
  omega

/-- A number is the quotient that its pattern stands for. -/
theorem toQuotient_ofNat (hn : n ≠ 0) :
    ∃ den, 0 < den ∧ toQuotient (ofNat n) = (n * den, den) := by
  simp only [toQuotient, parts_ofNat hk hlt hn]
  by_cases hfull : k = 52
  · subst hfull
    exact ⟨1, Nat.one_pos, by simp⟩
  · have hfine : (-((k : Int) - 52)).toNat = 52 - k := by omega
    refine ⟨2 ^ (52 - k), Nat.two_pow_pos _, ?_⟩
    rw [if_neg (by omega), hfine, Nat.pow_eq]

end Digits

/-- A whole number below the first one of 54 binary digits, or that one, is a double. -/
theorem toNat?_ofInt {n : Nat} (h : n ≤ 2 ^ 53) : (ofInt n).toNat? = some n := by
  have hsign : (ofInt n).negative = false := by simp [ofInt]
  have hfinite : (ofInt n).isFinite := isFinite_ofInt (by simp; omega)
  have hquotient : ∃ den, 0 < den ∧ toQuotient (ofInt n).magnitude = (n * den, den) := by
    by_cases hzero : n = 0
    · subst hzero
      exact ⟨_, Nat.pow_pos Nat.two_pos, by rw [Nat.zero_mul]; rfl⟩
    by_cases htop : n = 2 ^ 53
    · subst htop
      exact ⟨1, Nat.one_pos, by decide⟩
    have hlt : n.log2 < 53 := (Nat.log2_lt hzero).2 (by omega)
    exact toQuotient_ofNat rfl (Nat.le_of_lt_succ hlt) hzero
  obtain ⟨den, hpos, hquotient⟩ := hquotient
  rw [toNat?, hquotient]
  simp only [hfinite, hsign, Nat.mul_mod_left, true_or, and_self, if_true]
  rw [Nat.mul_div_cancel _ hpos]

end RuleGateway.Binary64
