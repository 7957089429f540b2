import RuleGateway.Number.Decimal

/-!
# The order and the range of doubles

`rank` numbers the doubles, so comparing ranks is comparing doubles in their
total order, and no two doubles share a rank. The second half bounds what
rounding can do: a whole number of 64 bits is far from the end of the range,
so the double nearest to it is finite.
-/

namespace RuleGateway

namespace Binary64

/-- The total order of doubles: negative ones come first, the greater magnitude
before the lesser, and then the others, the lesser magnitude before the
greater. Zero with a sign comes just before zero without. -/
def Before (a b : Binary64) : Prop :=
  match a.negative, b.negative with
  | true, true => b.magnitude < a.magnitude
  | true, false => True
  | false, true => False
  | false, false => a.magnitude < b.magnitude

theorem rank_lt_rank_iff (a b : Binary64) : a.rank < b.rank ↔ a.Before b := by
  obtain ⟨sa, ma⟩ := a
  obtain ⟨sb, mb⟩ := b
  cases sa with
  | false =>
    cases sb with
    | false => simp [rank, Before]
    | true =>
      have hlast : ¬ (ma : Int) < -(mb : Int) - 1 := by omega
      exact iff_of_false hlast not_false
  | true =>
    cases sb with
    | false =>
      have hfirst : -(ma : Int) - 1 < mb := by omega
      exact iff_of_true hfirst trivial
    | true => simp [rank, Before]

theorem rank_injective {a b : Binary64} (h : a.rank = b.rank) : a = b := by
  obtain ⟨sa, ma⟩ := a
  obtain ⟨sb, mb⟩ := b
  cases sa <;> cases sb <;> simp [rank] at h ⊢ <;> omega

theorem roundHalfEven_le (num den : Nat) : roundHalfEven num den ≤ num / den + 1 := by
  simp only [roundHalfEven]
  repeat' split
  all_goals omega

/-- The grid of a whole number is fine enough for its 53 leading binary digits
and no coarser than one of 64 bits needs. -/
theorem gridExponent_bounds (n : Nat) (h : n.log2 < 64) :
    (n.log2 : Int) - 53 ≤ gridExponent n 1 ∧ gridExponent n 1 ≤ 11 := by
  have hone : Nat.log2 1 = 0 := by decide
  unfold gridExponent
  simp only [hone, Int.ofNat_eq_natCast]
  split <;> omega

/-- On such a grid a whole number has at most 54 binary digits before it is
rounded. -/
theorem scaled_lt {n : Nat} {e : Int} (h : (n.log2 : Int) - 53 ≤ e) :
    (0 ≤ e → n / Nat.pow 2 e.toNat < Nat.pow 2 54) ∧
      (e < 0 → n * Nat.pow 2 (-e).toNat < Nat.pow 2 54) := by
  simp only [Nat.pow_eq]
  have hlt : n < 2 ^ (n.log2 + 1) := Nat.lt_log2_self
  constructor
  · intro he
    rw [Nat.div_lt_iff_lt_mul (Nat.two_pow_pos _), ← Nat.pow_add]
    exact Nat.lt_of_lt_of_le hlt (Nat.pow_le_pow_right (by decide) (by omega))
  · intro he
    calc
      n * 2 ^ (-e).toNat < 2 ^ (n.log2 + 1) * 2 ^ (-e).toNat :=
        Nat.mul_lt_mul_of_pos_right hlt (Nat.two_pow_pos _)
      _ = 2 ^ (n.log2 + 1 + (-e).toNat) := (Nat.pow_add ..).symm
      _ ≤ 2 ^ 54 := Nat.pow_le_pow_right (by decide) (by omega)

theorem ofNat_lt_infinity {n : Nat} (h : n < Nat.pow 2 64) : ofNat n < infinity := by
  unfold ofNat ofQuotient
  by_cases hn : n = 0
  · rw [if_pos hn]
    decide
  rw [if_neg hn]
  obtain ⟨hlow, hhigh⟩ := gridExponent_bounds n ((Nat.log2_lt hn).2 h)
  obtain ⟨hcoarse, hfine⟩ := scaled_lt hlow
  simp only [infinity, Nat.one_mul]
  split
  · rename_i hgrid
    have hround := roundHalfEven_le n (Nat.pow 2 (gridExponent n 1).toNat)
    have hwhole := hcoarse hgrid
    simp only [Nat.pow_eq] at hround hwhole ⊢
    omega
  · rename_i hgrid
    have hround := roundHalfEven_le (n * Nat.pow 2 (-gridExponent n 1).toNat) 1
    have hwhole := hfine (Int.not_le.1 hgrid)
    simp only [Nat.pow_eq, Nat.div_one] at hround hwhole ⊢
    omega

theorem isFinite_ofInt {n : Int} (h : n.natAbs < Nat.pow 2 64) : (ofInt n).isFinite :=
  decide_eq_true (ofNat_lt_infinity h)

end Binary64

namespace Decimal

theorem isFinite_of_parse? {text : Text} {x : Binary64} (h : parse? text = some x) :
    x.isFinite := by
  simp only [parse?, bind, Option.bind_eq_some_iff] at h
  obtain ⟨magnitude, -, h⟩ := h
  rw [Option.ite_none_right_eq_some] at h
  obtain ⟨hfinite, hx⟩ := h
  cases hx
  exact hfinite

end Decimal

end RuleGateway
