import RuleGateway.Proofs.Number.Order
import RuleGateway.Rule.Slots

/-!
# What every rule satisfies

Reading a declaration never fails, and whatever was declared, the rule it gives
has a status that a redirect may have and a priority that is a number.
-/

namespace RuleGateway.Rule

theorem isFinite_of_number? {value : Json.Value} {x : Binary64} (h : number? value = some x) :
    x.isFinite := by
  cases value with
  | number n =>
    rw [number?, Option.ite_none_right_eq_some] at h
    obtain ⟨hfinite, hx⟩ := h
    cases hx
    exact hfinite
  | text text => exact Decimal.isFinite_of_parse? h
  | bool b =>
    obtain rfl : _ = x := Option.some.inj h
    cases b <;> decide
  | null => simp [number?] at h
  | list => simp [number?] at h
  | object => simp [number?] at h

theorem isFinite_priorityOf (position : Nat) : (priorityOf position).isFinite := by
  apply Binary64.isFinite_ofInt
  have hlow := Int.le_bmod (x := position) (m := Nat.pow 2 64) (by decide)
  have hhigh := Int.bmod_lt (x := position) (m := Nat.pow 2 64) (by decide)
  simp only [Nat.pow_eq] at hlow hhigh ⊢
  omega

theorem defaultStatus_bounds : 100 ≤ defaultStatus ∧ defaultStatus ≤ 599 := by decide

theorem status?_bounds {x : Binary64} {n : Nat} (h : status? x = some n) : 100 ≤ n ∧ n ≤ 599 := by
  simp only [status?, bind, Option.bind_eq_some_iff, Option.ite_none_right_eq_some] at h
  obtain ⟨whole, -, hbounds, hn⟩ := h
  cases hn
  exact hbounds

theorem isFinite_priority_ofDeclared (declared : Declared) (position : Nat) :
    (ofDeclared declared position).priority.isFinite := by
  cases declared with
  | target text => exact isFinite_priorityOf position
  | fields members =>
    simp only [ofDeclared, ofMembers]
    cases h : (members.get? "priority").bind number? with
    | none => exact isFinite_priorityOf position
    | some x =>
      obtain ⟨value, -, hvalue⟩ := Option.bind_eq_some_iff.1 h
      exact isFinite_of_number? hvalue

theorem status_ofDeclared_bounds (declared : Declared) (position : Nat) :
    100 ≤ (ofDeclared declared position).status ∧ (ofDeclared declared position).status ≤ 599 := by
  cases declared with
  | target text => exact defaultStatus_bounds
  | fields members =>
    simp only [ofDeclared, ofMembers]
    cases h : ((members.get? "status").bind number?).bind status? with
    | none => exact defaultStatus_bounds
    | some n =>
      obtain ⟨x, -, hx⟩ := Option.bind_eq_some_iff.1 h
      exact status?_bounds hx

end RuleGateway.Rule
