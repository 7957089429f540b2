import Mathlib
import RuleGateway.Proofs.Url.Domain.Composition

/-!
# Characters that names have

What a character becomes in a name stays as it is (`isKept_of_mapChar?`), also when it is
taken apart or put together with others (`isKept_of_mem_compose`). The table is checked
stretch by stretch: what the characters of a stretch become lies in a stretch of characters
that stay.
-/

namespace RuleGateway.Domain

open Property

/-- Whether a character stays as it is in a name. -/
def IsKept (c : Char) : Prop := mapChar? c = some [c]

section Tables

variable (table : List Step)

/-- The runs of characters of a stretch that stay as they are. -/
def runsOf (stretch : Step × Nat) : List (Nat × Nat) :=
  match stretch.1.value with
  | 'V' => [(stretch.1.first, stretch.2)]
  | 'A' => (List.range ((stretch.2 - stretch.1.first) / 2)).map fun i =>
      (stretch.1.first + (2 * i + 1), stretch.1.first + (2 * i + 2))
  | _ => []

/-- The runs of characters that stay as they are: in ASCII all but the capital letters. -/
def keptRuns : List (Nat × Nat) := (0, 0x41) :: (0x5b, asciiEnd) :: (stretches table).flatMap runsOf

/-- These runs as a tree. -/
def keptTree : RunTree := .ofList 12 (keptRuns table)

/-- Whether what the characters of a stretch become stays as it is. -/
def isSteady (stretch : Step × Nat) : Bool :=
  match stretch.1.value with
  | 'T' => stretch.1.points.all fun n => (keptTree table).covers n (n + 1)
  | 'S' => stretch.1.points.head?.any fun n =>
      (keptTree table).covers n (n + (stretch.2 - stretch.1.first))
  | 'A' => stretch.1.points.head? == some (stretch.1.first + 1) &&
      (stretch.2 - stretch.1.first) % 2 == 0
  | _ => true

/-- Whether the characters of a step of compositions stay as they are. -/
def isKeptPair (step : Step) : Bool :=
  (step.first :: step.points).all fun n => (keptTree table).covers n (n + 1)

set_option maxRecDepth 100000 in
theorem mapping_steady :
    ((ascends mapping.toList && mapping.toList.all fun step => asciiEnd ≤ step.first) &&
      (stretches mapping.toList).all (isSteady mapping.toList) &&
      (pairs.toList.all (isKeptPair mapping.toList) &&
        ((syllableBase, syllableBase + syllableCount) :: letterRuns).all fun run =>
          (keptTree mapping.toList).covers run.1 run.2)) = true := by
  have hmapping : mapping.toList = mappedLetters.toList ++ mappedSigns.toList ++
      mappedSquares.toList ++ mappedIdeographs.toList ++ mappedForms.toList ++
      mappedHistoric.toList ++ mappedRest.toList := by
    simp only [mapping, Array.toList_append]
  rw [hmapping, mappedLetters, mappedSigns, mappedSquares, mappedIdeographs, mappedForms,
    mappedHistoric, mappedRest, pairs]
  iterate 8 rw [String.toList_ofList]
  decide +kernel

theorem ascends_mapping : ascends mapping.toList := by
  have h := mapping_steady
  simp only [Bool.and_eq_true] at h
  exact h.1.1.1

theorem asciiEnd_le_of_mapping : ∀ step ∈ mapping.toList, asciiEnd ≤ step.first := by
  have h := mapping_steady
  simp only [Bool.and_eq_true] at h
  exact fun step hstep => of_decide_eq_true (List.all_eq_true.1 h.1.1.2 step hstep)

theorem isSteady_of_mapping :
    ∀ stretch ∈ stretches mapping.toList, isSteady mapping.toList stretch := by
  have h := mapping_steady
  simp only [Bool.and_eq_true] at h
  exact List.all_eq_true.1 h.1.2

theorem covers_of_pairs : ∀ step ∈ pairs.toList, ∀ n ∈ step.first :: step.points,
    (keptTree mapping.toList).covers n (n + 1) := by
  have h := mapping_steady
  simp only [Bool.and_eq_true] at h
  exact fun step hstep => List.all_eq_true.1 (List.all_eq_true.1 h.2.1 step hstep)

theorem covers_of_korean : ∀ run ∈ (syllableBase, syllableBase + syllableCount) :: letterRuns,
    (keptTree mapping.toList).covers run.1 run.2 := by
  have h := mapping_steady
  simp only [Bool.and_eq_true] at h
  exact List.all_eq_true.1 h.2.2

end Tables

section Characters

variable {c : Char} {out text : Text} {step : Step} {n first stop : Nat}

/-- What a character becomes in the stretch of a step. -/
def become? (step : Step) (c : Char) : Option Text :=
  let shifted := Char.ofNat (step.points.headD c.toNat + (c.toNat - step.first))
  match step.value with
  | 'V' => some [c]
  | 'I' => some []
  | 'T' => some (step.points.map Char.ofNat)
  | 'S' => some [shifted]
  | 'A' => some (if (c.toNat - step.first) % 2 = 0 then [shifted] else [c])
  | _ => none

/-- Outside ASCII a character becomes what its step says. -/
theorem mapChar?_of_wide (h : asciiEnd ≤ c.toNat) :
    mapChar? c = (mapping.step? c.toNat).bind (become? · c) := by
  -- Opened as a function, over any table: at a character, the check would read the table.
  obtain ⟨f, hf⟩ : ∃ f, f = mapChar? := ⟨_, rfl⟩
  obtain ⟨table, htable⟩ : ∃ table, table = mapping := ⟨_, rfl⟩
  rw [← hf]
  delta mapChar? at hf
  rw [← htable] at hf ⊢
  rw [hf]
  dsimp only
  have hwide : ¬ c.toNat < 128 := Nat.not_lt.2 h
  rw [if_neg hwide]
  cases table.step? c.toNat <;> rfl

theorem toNat_lt_codeBound (c : Char) : c.toNat < codeBound := codeBound_of_isCode (isCode_toNat c)

theorem mapChar?_of_stretch (h : asciiEnd ≤ c.toNat)
    (hstretch : (step, stop) ∈ stretches mapping.toList) (hlow : step.first ≤ c.toNat)
    (hhigh : c.toNat < stop) : mapChar? c = become? step c := by
  rw [mapChar?_of_wide h, (step?_eq_some_iff ascends_mapping (toNat_lt_codeBound c)).2
    ⟨stop, hstretch, hlow, hhigh⟩, Option.bind_some]

theorem isKept_of_ascii (h : c.toNat < asciiEnd) (hsmall : c.toLower = c) : IsKept c := by
  rw [IsKept, mapChar?_of_ascii h, hsmall]

/-- A character of a run that stays as it is does. -/
theorem isKept_of_run (hrun : (first, stop) ∈ keptRuns mapping.toList) (hlow : first ≤ c.toNat)
    (hhigh : c.toNat < stop) : IsKept c := by
  have hsmall : ∀ n < 128, n < 0x41 ∨ 0x5b ≤ n → (Char.ofNat n).toLower = Char.ofNat n := by decide
  have hascii (hc : c.toNat < 128) (hrange : c.toNat < 0x41 ∨ 0x5b ≤ c.toNat) : IsKept c := by
    have hlower := hsmall c.toNat hc hrange
    rw [Char.ofNat_toNat] at hlower
    exact isKept_of_ascii hc hlower
  have hend : asciiEnd = 128 := rfl
  rcases List.mem_cons.1 hrun with heq | hrun
  · cases heq
    exact hascii (by omega) (.inl hhigh)
  rcases List.mem_cons.1 hrun with heq | hrun
  · cases heq
    exact hascii (by omega) (.inr hlow)
  obtain ⟨⟨step, bound⟩, hstretch, hmem⟩ := List.mem_flatMap.1 hrun
  obtain ⟨i, hstep, -⟩ := mem_stretches.1 hstretch
  have hwide := asciiEnd_le_of_mapping step (List.mem_of_getElem? hstep)
  rw [runsOf] at hmem
  split at hmem
  · rename_i hvalue
    cases List.mem_singleton.1 hmem
    rw [IsKept, mapChar?_of_stretch (Nat.le_trans hwide hlow) hstretch hlow hhigh, become?, hvalue]
    rfl
  · rename_i hvalue
    obtain ⟨k, hk, heq⟩ := List.mem_map.1 hmem
    rw [List.mem_range] at hk
    cases heq
    dsimp only at hk hlow hhigh
    have hodd : ¬ (c.toNat - step.first) % 2 = 0 := by omega
    rw [IsKept, mapChar?_of_stretch (by omega) hstretch (by omega) (by omega), become?, hvalue]
    exact congrArg some (if_neg hodd)
  · cases hmem

theorem isKept_ofNat (hrun : (first, stop) ∈ keptRuns mapping.toList) (hlow : first ≤ n)
    (hhigh : n < stop) : IsKept (Char.ofNat n) := by
  by_cases hvalid : n.isValidChar
  · have hn : (Char.ofNat n).toNat = n := by
      rw [Char.ofNat, dif_pos hvalid]
      rfl
    exact isKept_of_run hrun (hn.symm ▸ hlow) (hn.symm ▸ hhigh)
  · have hzero : Char.ofNat n = '\x00' := by
      rw [Char.ofNat, dif_neg hvalid]
      rfl
    rw [hzero]
    exact isKept_of_ascii (by decide) (by decide)

theorem isKept_of_covers (h : (keptTree mapping.toList).covers first stop) (hlow : first ≤ n)
    (hhigh : n < stop) : IsKept (Char.ofNat n) := by
  obtain ⟨run, hrun, hfirst, hstop⟩ := RunTree.exists_of_covers h
  exact isKept_ofNat hrun (Nat.le_trans hfirst hlow) (Nat.lt_of_lt_of_le hhigh hstop)

/-- What a character becomes stays as it is. -/
theorem isKept_of_mapChar? (h : mapChar? c = some out) : ∀ d ∈ out, IsKept d := by
  by_cases hc : c.toNat < asciiEnd
  · have hlower : ∀ n < 128, (Char.ofNat n).toLower.toNat < 128 := by decide
    have hascii := hlower c.toNat hc
    rw [Char.ofNat_toNat] at hascii
    rw [mapChar?_of_ascii hc, Option.some_inj] at h
    rw [← h]
    exact List.forall_mem_singleton.2 (isKept_of_ascii hascii (Char.toLower_toLower_eq_toLower c))
  have hmap := h
  rw [mapChar?_of_wide (Nat.le_of_not_lt hc)] at h
  obtain ⟨step, hstep, hbecome⟩ := Option.bind_eq_some_iff.1 h
  obtain ⟨stop, hstretch, hlow, hhigh⟩ :=
    (step?_eq_some_iff ascends_mapping (toNat_lt_codeBound c)).1 hstep
  have hsteady := isSteady_of_mapping _ hstretch
  have hsame (hout : [c] = out) : ∀ d ∈ out, IsKept d := by
    subst hout
    exact List.forall_mem_singleton.2 hmap
  rw [become?] at hbecome
  split at hbecome
  case h_1 => exact hsame (Option.some_inj.1 hbecome)
  case h_2 =>
    rw [← Option.some_inj.1 hbecome]
    exact List.forall_mem_nil _
  case h_3 hvalue =>
    rw [isSteady, hvalue] at hsteady
    rw [← Option.some_inj.1 hbecome]
    intro d hd
    obtain ⟨n, hn, rfl⟩ := List.mem_map.1 hd
    exact isKept_of_covers (List.all_eq_true.1 hsteady n hn) (Nat.le_refl n) (Nat.lt_succ_self n)
  case h_4 hvalue =>
    rw [isSteady, hvalue] at hsteady
    obtain ⟨n, hn, hcovers⟩ := (Option.any_eq_true _ _).1 hsteady
    rw [← Option.some_inj.1 hbecome, List.headD_eq_head?_getD, hn, Option.getD_some]
    dsimp only at hcovers
    exact List.forall_mem_singleton.2 (isKept_of_covers hcovers (by omega) (by omega))
  case h_5 hvalue =>
    by_cases hodd : (c.toNat - step.first) % 2 = 0
    · rw [isSteady, hvalue] at hsteady
      simp only [Bool.and_eq_true, beq_iff_eq] at hsteady
      obtain ⟨hhead, heven⟩ := hsteady
      obtain ⟨i, hi⟩ : ∃ i, c.toNat = step.first + 2 * i := ⟨(c.toNat - step.first) / 2, by omega⟩
      have hrun : (step.first + (2 * i + 1), step.first + (2 * i + 2)) ∈ keptRuns mapping.toList := by
        refine List.mem_cons_of_mem _ (List.mem_cons_of_mem _ (List.mem_flatMap.2 ⟨_, hstretch, ?_⟩))
        rw [runsOf, hvalue]
        exact List.mem_map.2 ⟨i, List.mem_range.2 (by dsimp only; omega), rfl⟩
      rw [if_pos hodd, Option.some_inj] at hbecome
      rw [← hbecome, List.headD_eq_head?_getD, hhead, Option.getD_some]
      exact List.forall_mem_singleton.2 (isKept_ofNat hrun (by omega) (by omega))
    · rw [if_neg hodd] at hbecome
      exact hsame (Option.some_inj.1 hbecome)
  case h_6 => cases hbecome

/-- The characters of a composed text stay as they are if those of the text do. -/
theorem isKept_of_mem_compose (h : ∀ c ∈ text, IsKept c) : ∀ c ∈ compose text, IsKept c := by
  have hkorean := covers_of_korean
  refine forall_mem_compose ?hletter ?hsyllable ?htable h
  case hletter =>
    intro n hn
    obtain ⟨run, hrun, hrange⟩ := List.any_eq_true.1 hn
    rw [Bool.and_eq_true, decide_eq_true_eq, decide_eq_true_eq] at hrange
    exact isKept_of_covers (hkorean run (List.mem_cons_of_mem _ hrun)) hrange.1 hrange.2
  case hsyllable =>
    intro c hc
    rw [isSyllable, Bool.and_eq_true, decide_eq_true_eq, decide_eq_true_eq] at hc
    have hkept := isKept_of_covers (hkorean _ List.mem_cons_self) hc.1 hc.2
    rwa [Char.ofNat_toNat] at hkept
  case htable =>
    intro step hstep n hn
    exact isKept_of_covers (covers_of_pairs step hstep n hn) (Nat.le_refl n) (Nat.lt_succ_self n)

end Characters

end RuleGateway.Domain
