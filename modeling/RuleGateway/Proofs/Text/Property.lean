import RuleGateway.Text.Property

/-!
# Stretches of properties

In a table whose steps ascend, a step holds from its first code point up to the first one
of the next step, and the search finds the step of each code point (`step?_eq_some_iff`).
A property may then be checked stretch by stretch and not character by character.
-/

namespace RuleGateway.Property

section Stretches

variable {steps : List Step} {step : Step} {stop : Nat}

/-- The bound of all code points. -/
def codeBound : Nat := 0x110000

/-- The steps, each with the code point at which it ends. -/
def stretches : List Step → List (Step × Nat)
  | [] => []
  | [step] => [(step, codeBound)]
  | step :: next :: rest => (step, next.first) :: stretches (next :: rest)

theorem mem_stretches : (step, stop) ∈ stretches steps ↔
    ∃ i, steps[i]? = some step ∧ (steps[i + 1]?.map Step.first).getD codeBound = stop := by
  induction steps using stretches.induct with
  | case1 => simp [stretches]
  | case2 only =>
    rw [stretches, List.mem_singleton, Prod.mk.injEq]
    constructor
    · rintro ⟨rfl, rfl⟩
      exact ⟨0, rfl, rfl⟩
    · rintro ⟨i, hstep, hstop⟩
      cases i with
      | zero => exact ⟨(Option.some_inj.1 hstep).symm, hstop.symm⟩
      | succ i => cases hstep
  | case3 first next rest ih =>
    rw [stretches, List.mem_cons, Prod.mk.injEq, ih]
    constructor
    · rintro (⟨rfl, rfl⟩ | ⟨i, hstep, hstop⟩)
      · exact ⟨0, rfl, rfl⟩
      · exact ⟨i + 1, hstep, hstop⟩
    · rintro ⟨i, hstep, hstop⟩
      cases i with
      | zero => exact .inl ⟨(Option.some_inj.1 hstep).symm, hstop.symm⟩
      | succ i => exact .inr ⟨i, hstep, hstop⟩

/-- Whether each step starts behind the one before it. -/
def ascends : List Step → Bool
  | step :: next :: rest => step.first < next.first && ascends (next :: rest)
  | _ => true

theorem pairwise_of_ascends (h : ascends steps) : steps.Pairwise fun a b => a.first < b.first := by
  induction steps using ascends.induct with
  | case1 step next rest ih =>
    rw [ascends, Bool.and_eq_true, decide_eq_true_eq] at h
    have hrest := ih h.2
    refine List.pairwise_cons.2 ⟨fun other hother => ?_, hrest⟩
    rcases List.mem_cons.1 hother with rfl | hmem
    · exact h.1
    · exact Nat.lt_trans h.1 ((List.pairwise_cons.1 hrest).1 other hmem)
  | case2 steps hshort =>
    match steps, hshort with
    | [], _ => exact List.Pairwise.nil
    | [step], _ => exact List.pairwise_singleton _ step
    | step :: next :: rest, hshort => exact absurd rfl (hshort step next rest)

/-- A step that starts up to a code point is none behind a step whose successor does not. -/
theorem le_of_ascends (h : ascends steps) {n i j : Nat}
    (hnext : ∀ next ∈ steps[i + 1]?, n < next.first) (hstep : steps[j]? = some step)
    (hle : step.first ≤ n) : j ≤ i := by
  refine Nat.le_of_not_lt fun hlt => ?_
  obtain ⟨hj, rfl⟩ := List.getElem?_eq_some_iff.1 hstep
  have hi : i + 1 < steps.length := Nat.lt_of_le_of_lt hlt hj
  have hfound := hnext _ (List.getElem?_eq_getElem hi)
  rcases Nat.eq_or_lt_of_le (Nat.succ_le_of_lt hlt) with rfl | hgap
  · exact absurd hle (Nat.not_le.2 hfound)
  · have hfirst := List.pairwise_iff_getElem.1 (pairwise_of_ascends h) (i + 1) j hi hj hgap
    omega

end Stretches

section Search

variable {property : Property} {n low high : Nat} {step : Step}

/-- The search ends within its bounds, before a step that starts behind the code point, and
has moved to steps only that do not. -/
theorem of_lastUpTo (hlow : low < high) (hhigh : ∀ step ∈ property[high]?, n < step.first) :
    lastUpTo property n low high < high ∧
      (∀ step ∈ property[lastUpTo property n low high + 1]?, n < step.first) ∧
      (lastUpTo property n low high = low ∨
        ∀ step ∈ property[lastUpTo property n low high]?, step.first ≤ n) := by
  induction low, high using lastUpTo.induct property n with
  | case1 low high hwide middle hmiddle ih =>
    rw [lastUpTo, if_pos hwide]
    dsimp only
    rw [if_pos hmiddle]
    obtain ⟨hlt, hnext, hreached⟩ := ih (by omega) hhigh
    refine ⟨hlt, hnext, .inr ?_⟩
    rcases hreached with hsame | hle
    · intro step hstep
      rw [hsame, Option.mem_def] at hstep
      rw [hstep, Option.any_some, decide_eq_true_eq] at hmiddle
      exact hmiddle
    · exact hle
  | case2 low high hwide middle hmiddle ih =>
    rw [lastUpTo, if_pos hwide]
    dsimp only
    rw [if_neg hmiddle]
    have hlow : low < middle := by omega
    have hle : middle ≤ high := by omega
    obtain ⟨hlt, hnext, hreached⟩ := ih hlow fun step hstep => by
      rw [Option.mem_def.1 hstep, Option.any_some, decide_eq_true_eq, Nat.not_le] at hmiddle
      exact hmiddle
    exact ⟨Nat.lt_of_lt_of_le hlt hle, hnext, hreached⟩
  | case3 low high hnarrow =>
    rw [lastUpTo, if_neg hnarrow]
    obtain rfl : high = low + 1 := by omega
    exact ⟨hlow, hhigh, .inl rfl⟩

/-- The step of a code point is the one in whose stretch it lies. -/
theorem step?_eq_some_iff (h : ascends property.toList) (hn : n < codeBound) :
    property.step? n = some step ↔
      ∃ stop, (step, stop) ∈ stretches property.toList ∧ step.first ≤ n ∧ n < stop := by
  have hbehind : ∀ step ∈ property[property.size]?, n < step.first := fun step hstep => by
    rw [Array.getElem?_size] at hstep
    cases hstep
  have hstop {i : Nat} : n < (property.toList[i + 1]?.map Step.first).getD codeBound ↔
      ∀ step ∈ property[i + 1]?, n < step.first := by
    rw [Array.getElem?_toList]
    cases property[i + 1]? with
    | none => exact iff_of_true hn fun step hstep => by cases hstep
    | some next => simp
  rw [step?, Option.filter_eq_some_iff, decide_eq_true_eq]
  constructor
  · rintro ⟨hstep, hle⟩
    have hsize : 0 < property.size := Nat.lt_of_le_of_lt (Nat.zero_le _)
      (Array.getElem?_eq_some_iff.1 hstep).1
    obtain ⟨-, hnext, -⟩ := of_lastUpTo hsize hbehind
    rw [← Array.getElem?_toList] at hstep
    exact ⟨_, mem_stretches.2 ⟨_, hstep, rfl⟩, hle, hstop.2 hnext⟩
  · rintro ⟨stop, hmem, hle, hlt⟩
    obtain ⟨i, hstep, rfl⟩ := mem_stretches.1 hmem
    have hi : i < property.size := by
      obtain ⟨hlength, -⟩ := List.getElem?_eq_some_iff.1 hstep
      exact hlength
    obtain ⟨hbound, hnext, hreached⟩ := of_lastUpTo (Nat.lt_of_le_of_lt (Nat.zero_le i) hi) hbehind
    have hnexti := hstop.1 hlt
    simp only [← Array.getElem?_toList] at hnext hnexti hreached ⊢
    generalize lastUpTo property n 0 property.size = k at hbound hnext hreached ⊢
    have hik : i ≤ k := le_of_ascends h hnext hstep hle
    have hki : k ≤ i := by
      rcases hreached with rfl | hreached
      · exact Nat.zero_le i
      · have hfound := List.getElem?_eq_getElem (l := property.toList) hbound
        exact le_of_ascends h hnexti hfound (hreached _ hfound)
    obtain rfl : k = i := Nat.le_antisymm hki hik
    exact ⟨hstep, hle⟩

/-- A step holds where it starts. -/
theorem step?_first (h : ascends property.toList) (hstep : step ∈ property.toList)
    (hbound : step.first < codeBound) : property.step? step.first = some step := by
  obtain ⟨i, hi⟩ := List.mem_iff_getElem?.1 hstep
  refine (step?_eq_some_iff h hbound).2 ⟨_, mem_stretches.2 ⟨i, hi, rfl⟩, Nat.le_refl _, ?_⟩
  cases hnext : property.toList[i + 1]? with
  | none => exact hbound
  | some next =>
    obtain ⟨hlt, rfl⟩ := List.getElem?_eq_some_iff.1 hi
    obtain ⟨hnextlt, rfl⟩ := List.getElem?_eq_some_iff.1 hnext
    exact List.pairwise_iff_getElem.1 (pairwise_of_ascends h) i (i + 1) hlt hnextlt
      (Nat.lt_succ_self i)

end Search

section Runs

/-- Runs of code points, each with its first one and the one behind its last, with the
lower runs on the left. -/
inductive RunTree where
  | leaf
  | node (below : RunTree) (run : Nat × Nat) (above : RunTree)

/-- The tree of ascending runs. The first argument is its height, which bounds how many runs
it has. -/
def RunTree.ofList : Nat → List (Nat × Nat) → RunTree
  | 0, _ => leaf
  | height + 1, runs =>
    match runs.drop (Nat.pow 2 height - 1) with
    | [] => ofList height runs
    | run :: above =>
      node (ofList height (runs.take (Nat.pow 2 height - 1))) run (ofList height above)

/-- Whether one run has all code points from one up to another. -/
def RunTree.covers : RunTree → Nat → Nat → Bool
  | leaf, _, _ => false
  | node below run above, first, stop =>
    if stop ≤ run.1 then covers below first stop
    else if run.2 ≤ first then covers above first stop
    else run.1 ≤ first && stop ≤ run.2

/-- What a tree covers lies in one of the runs that it is made of. -/
theorem RunTree.exists_of_covers {height first stop : Nat} {runs : List (Nat × Nat)}
    (h : (ofList height runs).covers first stop) :
    ∃ run ∈ runs, run.1 ≤ first ∧ stop ≤ run.2 := by
  induction height generalizing runs with
  | zero => cases h
  | succ height ih =>
    rw [ofList] at h
    split at h
    · exact ih h
    · rename_i run above hdrop
      have hdropped : ∀ other ∈ run :: above, other ∈ runs :=
        fun other hother => List.mem_of_mem_drop (hdrop ▸ hother)
      rw [covers] at h
      split at h
      · obtain ⟨found, hfound, hrun⟩ := ih h
        exact ⟨found, List.mem_of_mem_take hfound, hrun⟩
      · split at h
        · obtain ⟨found, hfound, hrun⟩ := ih h
          exact ⟨found, hdropped found (List.mem_cons_of_mem _ hfound), hrun⟩
        · rw [Bool.and_eq_true, decide_eq_true_eq, decide_eq_true_eq] at h
          exact ⟨run, hdropped run List.mem_cons_self, h⟩

end Runs

end RuleGateway.Property
