import RuleGateway.Proofs.Text.Property
import RuleGateway.Proofs.Url.Domain

/-!
# Composed texts

A composed text is composed already (`compose_compose`): when it is taken apart, the marks
that were put on letters stand before others that they have passed, and sorting brings them
back. A dot takes no part in this, so that the labels of a name are composed one by one
(`split_compose`).
-/

namespace RuleGateway.Domain

open Property

section Tables

variable (table : List Step)

/-- The runs of the leads, vowels and trails of Korean syllables. -/
def letterRuns : List (Nat × Nat) :=
  [(leadBase, leadBase + 19), (vowelBase, vowelBase + vowelCount),
    (trailBase + 1, trailBase + trailCount)]

/-- Whether a code point is one of a Korean syllable, or of the letters of one. -/
def isSyllable (n : Nat) : Bool := syllableBase ≤ n && n < syllableBase + syllableCount
def isLetter (n : Nat) : Bool := letterRuns.any fun run => run.1 ≤ n && n < run.2

/-- Whether a code point is that of a character. -/
def isCode (n : Nat) : Bool := n < 0xd800 || 0xdfff < n && n < codeBound

/-- The code points between those of the composed characters of a table. -/
def gapTree : RunTree :=
  .ofList 12 ((0, asciiEnd) :: (stretches table).map fun stretch =>
    (stretch.1.first + 1, stretch.2))

/-- The code points of the composed characters whose first part is not composed. -/
def simpleTree : RunTree :=
  .ofList 12 ((table.filter fun step => step.points.head?.any fun n =>
    (gapTree table).covers n (n + 1)).map fun step => (step.first, step.first + 1))

/-- Whether a composed character is one of two, of which the second one is not composed and
the first one is not, or of such that are not. -/
def isShallow (step : Step) : Bool :=
  isCode step.first && !isSyllable step.first && !isLetter step.first &&
    match step.points with
    | [a, b] => (isCode a && !isSyllable a && a != '.'.toNat) && (isCode b && !isSyllable b) &&
        (gapTree table).covers b (b + 1) &&
        ((gapTree table).covers a (a + 1) || (simpleTree table).covers a (a + 1))
    | _ => false

theorem pairs_shallow : (ascends pairs.toList && pairs.toList.all (isShallow pairs.toList)) = true := by
  rw [pairs, String.toList_ofList]
  decide +kernel

end Tables

section Parts

variable {n m : Nat} {step : Step}

theorem codeBound_of_isCode (h : isCode n) : n < codeBound := by
  have hbound : codeBound = 0x110000 := rfl
  simp only [isCode, Bool.or_eq_true, Bool.and_eq_true, decide_eq_true_eq] at h
  omega

/-- Whether a code point is that of no composed character. -/
structure IsWhole (n : Nat) : Prop where
  syllable : syllableParts? n = none
  pair : pair? n = none

theorem syllableParts?_eq_none (h : isSyllable n = false) : syllableParts? n = none := by
  rw [isSyllable, Bool.and_eq_false_iff, decide_eq_false_iff_not, decide_eq_false_iff_not] at h
  rw [syllableParts?, if_neg]
  rintro ⟨hlow, hhigh⟩
  rcases h with h | h
  · exact h hlow
  · exact h hhigh

theorem pair?_eq_none_iff (h : ascends pairs.toList) (hn : n < codeBound) :
    pair? n = none ↔ ∀ step ∈ pairs.toList, step.first ≠ n := by
  rw [pair?, Option.map_eq_none_iff, Option.filter_eq_none_iff]
  constructor
  · rintro hnone step hstep rfl
    exact hnone step (step?_first h hstep hn) (beq_self_eq_true _)
  · intro hfirst step hstep hsame
    exact hfirst step (Property.step?_eq_some hstep).1 (beq_iff_eq.1 hsame)

theorem pair?_first (h : ascends pairs.toList) (hstep : step ∈ pairs.toList)
    (hbound : step.first < codeBound) : pair? step.first = some step.points := by
  rw [pair?, step?_first h hstep hbound, Option.filter_some, beq_self_eq_true, if_pos rfl,
    Option.map_some]

theorem pair?_eq_none_of_covers (h : ascends pairs.toList) (hn : n < codeBound)
    (hgap : (gapTree pairs.toList).covers n (n + 1)) : pair? n = none := by
  rw [pair?_eq_none_iff h hn]
  rintro step hstep rfl
  obtain ⟨run, hrun, hlow, hhigh⟩ := RunTree.exists_of_covers hgap
  rcases List.mem_cons.1 hrun with rfl | hrun
  · have hwide := (asciiEnd_le_of_pairs step hstep).1
    dsimp only at hhigh
    omega
  · obtain ⟨⟨other, stop⟩, hother, rfl⟩ := List.mem_map.1 hrun
    dsimp only at hlow hhigh
    have hfound : pairs.step? step.first = some other :=
      (step?_eq_some_iff h hn).2 ⟨stop, hother, by omega, by omega⟩
    rw [step?_first h hstep hn, Option.some_inj] at hfound
    rw [hfound] at hlow
    omega

/-- What is known of a composed character and its two parts: the second one is not composed,
and the first one is not or of such that are not. -/
structure IsPair (first a b : Nat) : Prop where
  listed : ∃ step ∈ pairs.toList, step.first = first
  codes : isCode first ∧ isCode a ∧ isCode b
  korean : isSyllable first = false ∧ isLetter first = false
  unpointed : a ≠ '.'.toNat
  parts : pair? first = some [a, b]
  second : IsWhole b
  shallow : IsWhole a ∨ syllableParts? a = none ∧
    ∃ c d, pair? a = some [c, d] ∧ IsWhole c ∧ IsWhole d ∧ isCode c ∧ isCode d

theorem exists_isPair (hstep : step ∈ pairs.toList) :
    ∃ a b, step.points = [a, b] ∧ IsPair step.first a b := by
  obtain ⟨hascends, hshallow⟩ := Bool.and_eq_true_iff.1 pairs_shallow
  have hwhole {n : Nat} (hcode : isCode n && !isSyllable n)
      (hgap : (gapTree pairs.toList).covers n (n + 1)) : IsWhole n := by
    rw [Bool.and_eq_true, Bool.not_eq_true'] at hcode
    exact ⟨syllableParts?_eq_none hcode.2,
      pair?_eq_none_of_covers hascends (codeBound_of_isCode hcode.1) hgap⟩
  have hparts {step : Step} (hstep : step ∈ pairs.toList) :
      isCode step.first ∧ isSyllable step.first = false ∧ isLetter step.first = false ∧
        ∃ a b, step.points = [a, b] ∧ (isCode a && !isSyllable a) ∧ a ≠ '.'.toNat ∧
          isCode b ∧ IsWhole b ∧ ((gapTree pairs.toList).covers a (a + 1) ∨
            (simpleTree pairs.toList).covers a (a + 1)) := by
    have h := List.all_eq_true.1 hshallow step hstep
    rw [isShallow] at h
    split at h
    · rename_i a b hpoints
      simp only [Bool.and_eq_true, Bool.not_eq_true', bne_iff_ne, Bool.or_eq_true] at h
      obtain ⟨⟨⟨hcode, hsyllable⟩, hletter⟩, ⟨⟨⟨ha, hpoint⟩, hb⟩, hgap⟩, hfirst⟩ := h
      have hcodes {n : Nat} (h : isCode n = true ∧ isSyllable n = false) :
          (isCode n && !isSyllable n) = true := by rw [h.1, h.2]; rfl
      exact ⟨hcode, hsyllable, hletter, a, b, hpoints, hcodes ha, hpoint, hb.1,
        hwhole (hcodes hb) hgap, hfirst⟩
    · simp at h
  obtain ⟨hcode, hsyllable, hletter, a, b, hpoints, ha, hpoint, hb, hsecond, hfirst⟩ := hparts hstep
  refine ⟨a, b, hpoints, ⟨step, hstep, rfl⟩, ⟨hcode, (Bool.and_eq_true_iff.1 ha).1, hb⟩,
    ⟨hsyllable, hletter⟩, hpoint, ?_, hsecond, ?_⟩
  · rw [pair?_first hascends hstep (codeBound_of_isCode hcode), hpoints]
  · rcases hfirst with hgap | hsimple
    · exact .inl (hwhole ha hgap)
    · obtain ⟨run, hrun, hlow, hhigh⟩ := RunTree.exists_of_covers hsimple
      obtain ⟨inner, hinner, rfl⟩ := List.mem_map.1 hrun
      obtain ⟨hmem, hhead⟩ := List.mem_filter.1 hinner
      obtain rfl : inner.first = a := by
        dsimp only at hlow hhigh
        omega
      obtain ⟨hcode', hsyllable', -, c, d, hpoints', hc, -, hd, hwhole', -⟩ := hparts hmem
      rw [hpoints', List.head?_cons, Option.any_some] at hhead
      refine .inr ⟨syllableParts?_eq_none hsyllable', c, d, ?_, hwhole hc hhead, hwhole',
        (Bool.and_eq_true_iff.1 hc).1, hd⟩
      rw [pair?_first hascends hmem (codeBound_of_isCode hcode'), hpoints']

theorem takeApart_of_isWhole (h : IsWhole n) (times : Nat) : takeApart times n = [n] := by
  cases times with
  | zero => rfl
  | succ times => rw [takeApart, h.syllable, h.pair]; rfl

theorem takeApart_of_pair (hsyllable : syllableParts? n = none) {a b : Nat}
    (hpair : pair? n = some [a, b]) (times : Nat) :
    takeApart (times + 1) n = takeApart times a ++ takeApart times b := by
  rw [takeApart, hsyllable, hpair]
  simp

theorem IsPair.takeApart_eq {first a b : Nat} (h : IsPair first a b) :
    takeApart 4 first = takeApart 4 a ++ takeApart 4 b := by
  rw [takeApart_of_pair (syllableParts?_eq_none h.korean.1) h.parts, takeApart_of_isWhole h.second,
    takeApart_of_isWhole h.second]
  rcases h.shallow with hwhole | ⟨hsyllable, c, d, hpair, hc, hd, -⟩
  · rw [takeApart_of_isWhole hwhole, takeApart_of_isWhole hwhole]
  · rw [takeApart_of_pair hsyllable hpair, takeApart_of_pair hsyllable hpair,
      takeApart_of_isWhole hc, takeApart_of_isWhole hc, takeApart_of_isWhole hd,
      takeApart_of_isWhole hd]

end Parts

section Korean

variable {n m : Nat}

theorem isSyllable_iff : isSyllable n ↔ 44032 ≤ n ∧ n < 55204 := by
  rw [isSyllable, Bool.and_eq_true, decide_eq_true_eq, decide_eq_true_eq]
  exact Iff.rfl

theorem isLetter_iff : isLetter n ↔
    4352 ≤ n ∧ n < 4371 ∨ 4449 ≤ n ∧ n < 4470 ∨ 4520 ≤ n ∧ n < 4547 := by
  simp only [isLetter, letterRuns, List.any_cons, List.any_nil, Bool.or_false, Bool.or_eq_true,
    Bool.and_eq_true, decide_eq_true_eq]
  exact Iff.rfl

/-- The letters of a syllable are not composed. -/
theorem isWhole_of_isLetter (h : isLetter n) : IsWhole n ∧ isCode n := by
  have hascends := (Bool.and_eq_true_iff.1 pairs_shallow).1
  have hrange := isLetter_iff.1 h
  have hbound : codeBound = 0x110000 := rfl
  refine ⟨⟨syllableParts?_eq_none ?_, (pair?_eq_none_iff hascends (by omega)).2 ?_⟩, ?_⟩
  · have hlow : ¬ syllableBase ≤ n := by
      have hbase : syllableBase = 0xac00 := rfl
      omega
    rw [isSyllable, decide_eq_false hlow, Bool.false_and]
  · rintro step hstep rfl
    obtain ⟨a, b, -, hpair⟩ := exists_isPair hstep
    rw [hpair.korean.2] at h
    cases h
  · rw [isCode, decide_eq_true (by omega), Bool.true_or]

theorem isLetter_of_mem_syllableParts? {parts : List Nat} (h : syllableParts? n = some parts) :
    ∀ m ∈ parts, isLetter m := by
  rw [syllableParts?, Option.ite_none_right_eq_some] at h
  obtain ⟨⟨-, hhigh⟩, hparts⟩ := h
  replace hhigh : n < 55204 := hhigh
  rw [← Option.some_inj.1 hparts]
  intro m hm
  rcases List.mem_append.1 hm with hm | hm
  · rcases List.mem_cons.1 hm with rfl | hm
    · change isLetter (4352 + (n - 44032) / 588) = true
      exact isLetter_iff.2 (by omega)
    · rw [List.mem_singleton.1 hm]
      change isLetter (4449 + (n - 44032) / 28 % 21) = true
      exact isLetter_iff.2 (by omega)
  · replace hm : m ∈ if (n - 44032) % 28 = 0 then [] else [4519 + (n - 44032) % 28] := hm
    split at hm
    · cases hm
    · rw [List.mem_singleton.1 hm]
      exact isLetter_iff.2 (by omega)

theorem syllableParts?_eq {k : Nat} (h : k < 11172) :
    syllableParts? (44032 + k) = some ([4352 + k / 588, 4449 + k / 28 % 21] ++
      if k % 28 = 0 then [] else [4519 + k % 28]) := by
  have hback : 44032 + k - syllableBase = k := Nat.add_sub_cancel_left ..
  have hrange : syllableBase ≤ 44032 + k ∧ 44032 + k < syllableBase + syllableCount :=
    ⟨Nat.le_add_right .., Nat.add_lt_add_left h _⟩
  rw [syllableParts?, if_pos hrange]
  dsimp only
  rw [hback]
  rfl

/-- A syllable is composed of its two letters, or of a syllable of two letters and a third
one. -/
theorem of_syllable? {a b : Nat} (h : syllable? a b = some n) :
    isSyllable n ∧ isLetter b ∧ (isLetter a ∧ syllableParts? n = some [a, b] ∨
      ∃ parts, syllableParts? a = some parts ∧ syllableParts? n = some (parts ++ [b])) := by
  rw [syllable?] at h
  split at h
  · rename_i hrange
    replace hrange : 4352 ≤ a ∧ a < 4371 ∧ 4449 ≤ b ∧ b < 4470 := hrange
    have hvalue : 44032 + ((a - 4352) * 21 + (b - 4449)) * 28 = n := Option.some_inj.1 h
    have hk : ((a - 4352) * 21 + (b - 4449)) * 28 < 11172 := by omega
    have hfirst : 4352 + ((a - 4352) * 21 + (b - 4449)) * 28 / 588 = a := by omega
    have hsecond : 4449 + ((a - 4352) * 21 + (b - 4449)) * 28 / 28 % 21 = b := by omega
    have hthird : ((a - 4352) * 21 + (b - 4449)) * 28 % 28 = 0 := by omega
    have hparts := syllableParts?_eq hk
    rw [hfirst, hsecond, if_pos hthird, hvalue] at hparts
    exact ⟨isSyllable_iff.2 (by omega), isLetter_iff.2 (by omega),
      .inl ⟨isLetter_iff.2 (by omega), hparts⟩⟩
  · split at h
    · rename_i hrange
      replace hrange : 44032 ≤ a ∧ a < 55204 ∧ (a - 44032) % 28 = 0 ∧ 4519 < b ∧ b < 4547 := hrange
      have hvalue : a + (b - 4519) = n := Option.some_inj.1 h
      obtain ⟨k, rfl⟩ : ∃ k, a = 44032 + k * 28 := ⟨(a - 44032) / 28, by omega⟩
      obtain ⟨t, rfl⟩ : ∃ t, b = 4519 + t := ⟨b - 4519, by omega⟩
      obtain rfl : 44032 + (k * 28 + t) = n := by omega
      have hk : k * 28 < 11172 := by omega
      have hkt : k * 28 + t < 11172 := by omega
      have hfirst : (k * 28 + t) / 588 = k * 28 / 588 := by omega
      have hsecond : (k * 28 + t) / 28 = k * 28 / 28 := by omega
      have hthird : (k * 28 + t) % 28 = t := by omega
      have hshort := syllableParts?_eq hk
      have hlong := syllableParts?_eq hkt
      rw [if_pos (by omega), List.append_nil] at hshort
      rw [hfirst, hsecond, hthird, if_neg (by omega)] at hlong
      exact ⟨isSyllable_iff.2 (by omega), isLetter_iff.2 (by omega), .inr ⟨_, hshort, hlong⟩⟩
    · cases h

theorem takeApart_of_syllable {parts : List Nat} (h : syllableParts? n = some parts)
    (times : Nat) : takeApart (times + 1) n = parts := by
  rw [takeApart, h, Option.some_or]
  have hsingle : ∀ m ∈ parts, takeApart times m = [m] := fun m hm =>
    takeApart_of_isWhole (isWhole_of_isLetter (isLetter_of_mem_syllableParts? h m hm)).1 times
  change parts.flatMap (takeApart times) = parts
  rw [List.flatMap_def, List.map_congr_left hsingle, ← List.flatMap_def, List.flatMap_singleton']

end Korean

section Composed

variable {n m : Nat} {a b c : Char}

theorem toNat_ofNat_of_isCode (h : isCode n) : (Char.ofNat n).toNat = n := by
  have hvalid : n.isValidChar := by
    have hbound : codeBound = 0x110000 := rfl
    simp only [isCode, Bool.or_eq_true, Bool.and_eq_true, decide_eq_true_eq] at h
    rw [Nat.isValidChar]
    omega
  rw [Char.ofNat, dif_pos hvalid]
  rfl

theorem isCode_toNat (c : Char) : isCode c.toNat := by
  have hvalid : c.toNat < 0xd800 ∨ 0xdfff < c.toNat ∧ c.toNat < 0x110000 := c.valid
  have hbound : codeBound = 0x110000 := rfl
  simp only [isCode, Bool.or_eq_true, Bool.and_eq_true, decide_eq_true_eq]
  omega

/-- A code point is whole or has two parts, which a table or the arithmetic of syllables
tells. -/
theorem takeApart_cases (hn : isCode n) : IsWhole n ∨
    (∃ parts, syllableParts? n = some parts) ∨ ∃ a b, IsPair n a b := by
  have hascends := (Bool.and_eq_true_iff.1 pairs_shallow).1
  cases hsyllable : syllableParts? n with
  | some parts => exact .inr (.inl ⟨parts, rfl⟩)
  | none =>
    cases hpair : pair? n with
    | none => exact .inl ⟨hsyllable, hpair⟩
    | some parts =>
      obtain ⟨step, hstep, rfl⟩ : ∃ step ∈ pairs.toList, step.first = n :=
        Decidable.byContradiction fun hnone => by
          rw [(pair?_eq_none_iff hascends (codeBound_of_isCode hn)).2 fun step hstep hfirst =>
            hnone ⟨step, hstep, hfirst⟩] at hpair
          cases hpair
      obtain ⟨a, b, -, hfound⟩ := exists_isPair hstep
      exact .inr (.inr ⟨a, b, hfound⟩)

/-- A character is taken apart into such that are not composed. -/
theorem isWhole_of_mem_takeApart (hn : isCode n) (hm : m ∈ takeApart 4 n) :
    IsWhole m ∧ isCode m := by
  rcases takeApart_cases hn with hwhole | ⟨parts, hparts⟩ | ⟨a, b, hpair⟩
  · rw [takeApart_of_isWhole hwhole, List.mem_singleton] at hm
    exact hm ▸ ⟨hwhole, hn⟩
  · rw [takeApart_of_syllable hparts] at hm
    exact isWhole_of_isLetter (isLetter_of_mem_syllableParts? hparts m hm)
  · rw [hpair.takeApart_eq, List.mem_append, takeApart_of_isWhole hpair.second,
      List.mem_singleton] at hm
    rcases hm with hm | rfl
    · rcases hpair.shallow with hwhole | ⟨hsyllable, c, d, hinner, hc, hd, hcodec, hcoded⟩
      · rw [takeApart_of_isWhole hwhole, List.mem_singleton] at hm
        exact hm ▸ ⟨hwhole, hpair.codes.2.1⟩
      · rw [takeApart_of_pair hsyllable hinner, takeApart_of_isWhole hc, takeApart_of_isWhole hd,
          List.mem_append, List.mem_singleton, List.mem_singleton] at hm
        rcases hm with rfl | rfl
        · exact ⟨hc, hcodec⟩
        · exact ⟨hd, hcoded⟩
    · exact ⟨hpair.second, hpair.codes.2.2⟩

/-- What two characters compose is a syllable, or is in the table with these two. -/
theorem of_compose? (h : compose? a b = some c) :
    syllable? a.toNat b.toNat = some c.toNat ∧ isSyllable c.toNat ∨
      IsPair c.toNat a.toNat b.toNat := by
  obtain ⟨n, hn, rfl⟩ := Option.map_eq_some_iff.1 h
  rw [Option.or_eq_some_iff] at hn
  rcases hn with hsyllable | ⟨-, hpair⟩
  · obtain ⟨hkorean, -⟩ := of_syllable? hsyllable
    have hcode : isCode n := by
      have hrange := isSyllable_iff.1 hkorean
      rw [isCode, decide_eq_true (by omega), Bool.true_or]
    rw [toNat_ofNat_of_isCode hcode]
    exact .inl ⟨hsyllable, hkorean⟩
  · obtain ⟨step, hstep, rfl⟩ := Option.map_eq_some_iff.1 hpair
    have hpoints := Array.find?_some hstep
    rw [beq_iff_eq] at hpoints
    obtain ⟨a', b', hsame, hfound⟩ := exists_isPair
      (Array.mem_toList_iff.2 (Array.mem_of_find?_eq_some hstep))
    obtain ⟨rfl, rfl⟩ : a.toNat = a' ∧ b.toNat = b' := by simpa [hpoints] using hsame
    rw [toNat_ofNat_of_isCode hfound.codes.1]
    exact .inr hfound

/-- What two characters compose is taken apart into the parts of both. -/
theorem takeApart_compose? (h : compose? a b = some c) :
    takeApart 4 c.toNat = takeApart 4 a.toNat ++ takeApart 4 b.toNat := by
  rcases of_compose? h with ⟨hsyllable, -⟩ | hpair
  · obtain ⟨-, hb, hparts⟩ := of_syllable? hsyllable
    have hlast := takeApart_of_isWhole (isWhole_of_isLetter hb).1 4
    rcases hparts with ⟨ha, hboth⟩ | ⟨parts, hshort, hlong⟩
    · rw [takeApart_of_syllable hboth, hlast, takeApart_of_isWhole (isWhole_of_isLetter ha).1]
      rfl
    · rw [takeApart_of_syllable hlong, takeApart_of_syllable hshort, hlast]
  · exact hpair.takeApart_eq

end Composed

section Order

variable {text front back : Text} {c : Char}

/-- Texts that are the same, whatever follows, once their marks are sorted. -/
def SortAlike (a b : Text) : Prop := ∀ back, sortMarks (a ++ back) = sortMarks (b ++ back)

theorem SortAlike.append {a b : Text} (h : SortAlike a b) (front back : Text) :
    SortAlike (front ++ a ++ back) (front ++ b ++ back) := by
  intro rest
  have hfront (x y : Text) (hxy : sortMarks x = sortMarks y) :
      sortMarks (front ++ x) = sortMarks (front ++ y) := by
    induction front with
    | nil => exact hxy
    | cons c front ih => rw [List.cons_append, List.cons_append, sortMarks_cons, sortMarks_cons, ih]
  rw [List.append_assoc, List.append_assoc, List.append_assoc, List.append_assoc]
  exact hfront _ _ (h (back ++ rest))

theorem SortAlike.trans {a b c : Text} (h : SortAlike a b) (hother : SortAlike b c) :
    SortAlike a c := fun back => (h back).trans (hother back)

theorem insertMark_insertMark {p q : Char} (hp : markClass p ≠ 0)
    (hpq : markClass p < markClass q) (text : Text) :
    insertMark q (insertMark p text) = insertMark p (insertMark q text) := by
  induction text with
  | nil =>
    have hqp : ¬ (markClass q ≠ 0 ∧ markClass q < markClass p) := by omega
    rw [insertMark, insertMark, insertMark, if_pos ⟨hp, hpq⟩, insertMark, insertMark, if_neg hqp]
  | cons d text ih =>
    rw [insertMark.eq_2 p, insertMark.eq_2 q]
    by_cases hd : markClass d ≠ 0 ∧ markClass d < markClass p
    · rw [if_pos hd, if_pos ⟨hd.1, Nat.lt_trans hd.2 hpq⟩, insertMark, insertMark,
        if_pos ⟨hd.1, Nat.lt_trans hd.2 hpq⟩, if_pos hd, ih]
    · rw [if_neg hd, insertMark, if_pos ⟨hp, hpq⟩, insertMark]
      split
      · rw [insertMark, if_neg hd]
      · rw [insertMark, if_neg (by omega)]

/-- A mark may be put behind others of lower classes. -/
theorem sortAlike_pass {marks : Text} (h : ∀ m ∈ marks, markClass m ≠ 0 ∧ markClass m < markClass c) :
    SortAlike (c :: marks) (marks ++ [c]) := by
  induction marks with
  | nil => exact fun _ => rfl
  | cons m marks ih =>
    rw [List.forall_mem_cons] at h
    have hswap : SortAlike [c, m] [m, c] := fun back => by
      have hc : markClass c ≠ 0 := by omega
      simp only [List.cons_append, List.nil_append, sortMarks_cons, if_neg hc, if_neg h.1.1]
      exact insertMark_insertMark h.1.1 h.1.2 _
    have hfirst := hswap.append [] marks
    have hrest := (ih h.2).append [m] []
    rw [List.append_nil, List.append_nil] at hrest
    exact hfirst.trans hrest

/-- Whether no mark stands before one of a lower class. -/
inductive IsOrdered : Text → Prop where
  | nil : IsOrdered []
  | single (c : Char) : IsOrdered [c]
  | cons {c d : Char} {rest : Text} (step : markClass d = 0 ∨ markClass c ≤ markClass d)
      (ordered : IsOrdered (d :: rest)) : IsOrdered (c :: d :: rest)

theorem IsOrdered.tail (h : IsOrdered (c :: text)) : IsOrdered text := by
  cases h with
  | single => exact .nil
  | cons step ordered => exact ordered

theorem IsOrdered.head (h : IsOrdered (c :: text)) :
    ∀ d ∈ text.head?, markClass d = 0 ∨ markClass c ≤ markClass d := by
  cases h with
  | single => exact fun d hd => by cases hd
  | cons step ordered =>
    rintro d ⟨⟩
    exact step

theorem isOrdered_cons (hhead : ∀ d ∈ text.head?, markClass d = 0 ∨ markClass c ≤ markClass d)
    (h : IsOrdered text) : IsOrdered (c :: text) := by
  cases text with
  | nil => exact .single c
  | cons d text => exact .cons (hhead d rfl) h

theorem isOrdered_insertMark (h : IsOrdered text) : IsOrdered (insertMark c text) := by
  induction text with
  | nil => exact .single c
  | cons d text ih =>
    by_cases hd : markClass d ≠ 0 ∧ markClass d < markClass c
    · rw [insertMark, if_pos hd]
      refine isOrdered_cons (fun e he => ?_) (ih h.tail)
      cases text with
      | nil =>
        cases he
        exact .inr (Nat.le_of_lt hd.2)
      | cons first text =>
        by_cases hfirst : markClass first ≠ 0 ∧ markClass first < markClass c
        · rw [insertMark, if_pos hfirst] at he
          exact h.head e he
        · rw [insertMark, if_neg hfirst] at he
          cases he
          exact .inr (Nat.le_of_lt hd.2)
    · rw [insertMark, if_neg hd]
      exact .cons (by omega) h

theorem isOrdered_sortMarks (text : Text) : IsOrdered (sortMarks text) := by
  induction text with
  | nil => exact .nil
  | cons c text ih =>
    by_cases hc : markClass c = 0
    · rw [sortMarks_cons, if_pos hc]
      exact isOrdered_cons (fun d _ => .inr (by rw [hc]; exact Nat.zero_le _)) ih
    · rw [sortMarks_cons, if_neg hc]
      exact isOrdered_insertMark ih

theorem sortMarks_of_isOrdered (h : IsOrdered text) : sortMarks text = text := by
  induction text with
  | nil => rfl
  | cons c text ih =>
    rw [sortMarks_cons, ih h.tail]
    by_cases hc : markClass c = 0
    · rw [if_pos hc]
    · rw [if_neg hc]
      cases text with
      | nil => rfl
      | cons d text =>
        have hd := h.head d rfl
        rw [insertMark, if_neg (by omega)]

theorem forall_mem_sortMarks {P : Char → Prop} (h : ∀ c ∈ text, P c) :
    ∀ c ∈ sortMarks text, P c := by
  have hinsert (d : Char) (hd : P d) (text : Text) (h : ∀ c ∈ text, P c) :
      ∀ c ∈ insertMark d text, P c := by
    induction text with
    | nil => exact List.forall_mem_singleton.2 hd
    | cons e text ih =>
      by_cases he : markClass e ≠ 0 ∧ markClass e < markClass d
      · rw [insertMark, if_pos he]
        rw [List.forall_mem_cons] at h
        exact List.forall_mem_cons.2 ⟨h.1, ih h.2⟩
      · rw [insertMark, if_neg he]
        exact List.forall_mem_cons.2 ⟨hd, h⟩
  induction text with
  | nil => exact h
  | cons d text ih =>
    rw [List.forall_mem_cons] at h
    by_cases hd : markClass d = 0
    · rw [sortMarks_cons, if_pos hd]
      exact List.forall_mem_cons.2 ⟨h.1, ih h.2⟩
    · rw [sortMarks_cons, if_neg hd]
      exact hinsert d h.1 _ (ih h.2)

end Order

section Composing

variable {text front back : Text} {c : Char} {composer : Composer}

/-- The characters that a text is taken apart into. -/
def apart (text : Text) : Text := (text.flatMap fun c => takeApart 4 c.toNat).map Char.ofNat

theorem apart_append (front back : Text) : apart (front ++ back) = apart front ++ apart back := by
  rw [apart, List.flatMap_append, List.map_append, apart, apart]

theorem compose_eq (text : Text) :
    compose text = ((sortMarks (apart text)).foldl Composer.step {}).reversed.reverse := rfl

/-- Whether a character is not composed. -/
def IsApart (c : Char) : Prop := apart [c] = [c]

theorem apart_of_isApart (h : ∀ c ∈ text, IsApart c) : apart text = text := by
  induction text with
  | nil => rfl
  | cons c text ih =>
    rw [List.forall_mem_cons] at h
    rw [← List.singleton_append, apart_append, h.1, ih h.2]

theorem isApart_of_mem_apart (h : c ∈ apart text) : IsApart c := by
  obtain ⟨n, hn, rfl⟩ := List.mem_map.1 h
  obtain ⟨d, -, hd⟩ := List.mem_flatMap.1 hn
  obtain ⟨hwhole, hcode⟩ := isWhole_of_mem_takeApart (isCode_toNat d) hd
  rw [IsApart, apart, List.flatMap_singleton, toNat_ofNat_of_isCode hcode,
    takeApart_of_isWhole hwhole, List.map_singleton]

theorem apart_compose? {a b : Char} (h : compose? a b = some c) : apart [c] = apart [a, b] := by
  rw [apart, apart, List.flatMap_singleton, takeApart_compose? h]
  simp

/-- What is known while a text is composed: taken apart, what is composed so far is what was
read, up to the order of marks, and the marks that are kept ascend to the next one. -/
structure Composer.IsFaithful (composer : Composer) (front back : Text) : Prop where
  alike : SortAlike (apart composer.reversed.reverse) front
  marks : ∀ m ∈ composer.marks, markClass m ≠ 0 ∧ IsApart m
  falling : composer.marks.Pairwise fun a b => markClass b ≤ markClass a
  next : ∀ c ∈ back.head?, markClass c ≠ 0 → ∀ m ∈ composer.marks, markClass m ≤ markClass c

theorem isFaithful_nil (back : Text) : ({} : Composer).IsFaithful [] back where
  alike := fun _ => rfl
  marks := List.forall_mem_nil _
  falling := .nil
  next := fun _ _ _ => List.forall_mem_nil _

theorem Composer.step_of_some {d : Char} (h : (composer.base? c).bind (compose? · c) = some d) :
    composer.step c = { composer with letter := some d } := by
  rw [Composer.step, h]

theorem Composer.step_of_none (h : (composer.base? c).bind (compose? · c) = none) :
    composer.step c = if markClass c = 0 then { done := composer.reversed, letter := some c }
      else { composer with marks := c :: composer.marks } := by
  rw [Composer.step, h]

theorem Composer.of_base? {a : Char} (h : composer.base? c = some a) :
    composer.letter = some a ∧ ∀ m ∈ composer.marks.head?, markClass m < markClass c := by
  rw [Composer.base?] at h
  split at h
  · rename_i hnil
    rw [hnil]
    exact ⟨h, fun m hm => by cases hm⟩
  · rename_i mark marks hmarks
    obtain ⟨hlt, hletter⟩ := Option.ite_none_right_eq_some.1 h
    rw [hmarks]
    refine ⟨hletter, ?_⟩
    rintro m ⟨⟩
    exact hlt

theorem Composer.IsFaithful.lt_of_base? (h : composer.IsFaithful front back) {a : Char}
    (hbase : composer.base? c = some a) : ∀ m ∈ composer.marks, markClass m < markClass c := by
  obtain ⟨-, hlast⟩ := Composer.of_base? hbase
  have hfalling := h.falling
  cases hmarks : composer.marks with
  | nil => exact List.forall_mem_nil _
  | cons last marks =>
    rw [hmarks] at hlast hfalling
    refine List.forall_mem_cons.2 ⟨hlast last rfl, fun m hm => ?_⟩
    exact Nat.lt_of_le_of_lt ((List.pairwise_cons.1 hfalling).1 m hm) (hlast last rfl)

/-- One more character is read behind what is composed so far. -/
theorem Composer.IsFaithful.alike_concat (h : composer.IsFaithful front back) (hc : IsApart c) :
    SortAlike (apart (composer.reversed.reverse ++ [c])) (front ++ [c]) := by
  have halike := h.alike.append [] [c]
  rw [List.nil_append, List.nil_append] at halike
  rw [apart_append, hc]
  exact halike

/-- A mark that is put on its letter has passed marks of lower classes only. -/
theorem Composer.IsFaithful.put (h : composer.IsFaithful front (c :: back)) (hc : IsApart c)
    (hordered : IsOrdered (c :: back)) {d : Char}
    (hput : (composer.base? c).bind (compose? · c) = some d) :
    Composer.IsFaithful { composer with letter := some d } (front ++ [c]) back := by
  obtain ⟨a, hbase, hcomposed⟩ := Option.bind_eq_some_iff.1 hput
  obtain ⟨hletter, -⟩ := Composer.of_base? hbase
  have hlower := h.lt_of_base? hbase
  refine ⟨?_, h.marks, h.falling, fun e he hmark m hm => ?_⟩
  · have halike := h.alike_concat hc
    have hmarks : apart composer.marks.reverse = composer.marks.reverse :=
      apart_of_isApart fun m hm => (h.marks m (List.mem_reverse.1 hm)).2
    have hnew : apart (Composer.reversed { composer with letter := some d }).reverse =
        apart (composer.done.reverse ++ [a]) ++ (c :: composer.marks.reverse) := by
      simp only [Composer.reversed, List.reverse_append, Option.toList_some, List.reverse_singleton,
        apart_append, hmarks, apart_compose? hcomposed]
      rw [← List.singleton_append (x := a), apart_append, hc]
      simp
    have hold : apart composer.reversed.reverse =
        apart (composer.done.reverse ++ [a]) ++ composer.marks.reverse := by
      simp only [Composer.reversed, hletter, List.reverse_append, Option.toList_some,
        List.reverse_singleton, apart_append, hmarks, List.append_assoc]
    have hpass := (sortAlike_pass fun m hm => ⟨(h.marks m (List.mem_reverse.1 hm)).1,
      hlower m (List.mem_reverse.1 hm)⟩).append (apart (composer.done.reverse ++ [a])) []
    rw [List.append_nil, List.append_nil, ← List.append_assoc, ← hold] at hpass
    rw [apart_append, hc] at halike
    rw [hnew]
    exact hpass.trans halike
  · rcases hordered.head e he with hzero | hle
    · exact absurd hzero hmark
    · exact Nat.le_of_lt (Nat.lt_of_lt_of_le (hlower m hm) hle)

/-- A letter that is not put on the one before is the next to be composed with. -/
theorem Composer.IsFaithful.begin (h : composer.IsFaithful front (c :: back)) (hc : IsApart c) :
    Composer.IsFaithful { done := composer.reversed, letter := some c } (front ++ [c]) back := by
  refine ⟨?_, List.forall_mem_nil _, .nil, fun _ _ _ => List.forall_mem_nil _⟩
  have hnew : (Composer.reversed { done := composer.reversed, letter := some c }).reverse =
      composer.reversed.reverse ++ [c] := by simp [Composer.reversed]
  rw [hnew]
  exact h.alike_concat hc

/-- A mark that is not put on its letter is kept behind the marks that are. -/
theorem Composer.IsFaithful.keep (h : composer.IsFaithful front (c :: back)) (hc : IsApart c)
    (hordered : IsOrdered (c :: back)) (hclass : markClass c ≠ 0) :
    Composer.IsFaithful { composer with marks := c :: composer.marks } (front ++ [c]) back := by
  have hnext := h.next c rfl hclass
  refine ⟨?_, List.forall_mem_cons.2 ⟨⟨hclass, hc⟩, h.marks⟩,
    List.pairwise_cons.2 ⟨hnext, h.falling⟩, fun e he hmark => ?_⟩
  · have hnew : (Composer.reversed { composer with marks := c :: composer.marks }).reverse =
        composer.reversed.reverse ++ [c] := by simp [Composer.reversed]
    rw [hnew]
    exact h.alike_concat hc
  · rcases hordered.head e he with hzero | hle
    · exact absurd hzero hmark
    · exact List.forall_mem_cons.2 ⟨hle, fun m hm => Nat.le_trans (hnext m hm) hle⟩

theorem Composer.IsFaithful.step (h : composer.IsFaithful front (c :: back)) (hc : IsApart c)
    (hordered : IsOrdered (c :: back)) : (composer.step c).IsFaithful (front ++ [c]) back := by
  cases hput : (composer.base? c).bind (compose? · c) with
  | some d =>
    rw [Composer.step_of_some hput]
    exact h.put hc hordered hput
  | none =>
    rw [Composer.step_of_none hput]
    by_cases hclass : markClass c = 0
    · rw [if_pos hclass]
      exact h.begin hc
    · rw [if_neg hclass]
      exact h.keep hc hordered hclass

theorem Composer.IsFaithful.foldl (h : composer.IsFaithful front back)
    (hapart : ∀ c ∈ back, IsApart c) (hordered : IsOrdered back) :
    (back.foldl Composer.step composer).IsFaithful (front ++ back) [] := by
  induction back generalizing composer front with
  | nil => rwa [List.append_nil]
  | cons c back ih =>
    rw [List.forall_mem_cons] at hapart
    have hwhole := ih (h.step hapart.1 hordered) hapart.2 hordered.tail
    rwa [List.append_assoc, List.singleton_append] at hwhole

/-- A composed text is composed already. -/
theorem compose_compose (text : Text) : compose (compose text) = compose text := by
  have hordered := isOrdered_sortMarks (apart text)
  have hapart := forall_mem_sortMarks fun c (hc : c ∈ apart text) => isApart_of_mem_apart hc
  have hfaithful := (isFaithful_nil _).foldl hapart hordered
  have hsorted := hfaithful.alike []
  rw [List.append_nil, List.append_nil, List.nil_append, ← compose_eq,
    sortMarks_of_isOrdered hordered] at hsorted
  rw [compose_eq (compose text), hsorted, compose_eq text]

end Composing

section Characters

variable {text : Text} {P : Char → Prop} {n m : Nat}

/-- What a code point is taken apart into is itself, a letter of a syllable, or in the
table. -/
theorem mem_takeApart {times : Nat} (h : m ∈ takeApart times n) :
    m = n ∨ isLetter m ∨ ∃ step ∈ pairs.toList, m ∈ step.points := by
  induction times generalizing n with
  | zero => exact .inl (List.mem_singleton.1 h)
  | succ times ih =>
    rw [takeApart] at h
    split at h
    · rename_i parts hparts
      obtain ⟨part, hpart, hm⟩ := List.mem_flatMap.1 h
      rcases ih hm with rfl | hother
      · rcases Option.or_eq_some_iff.1 hparts with hsyllable | ⟨-, hpair⟩
        · exact .inr (.inl (isLetter_of_mem_syllableParts? hsyllable _ hpart))
        · obtain ⟨step, hstep, rfl⟩ := Option.map_eq_some_iff.1 hpair
          obtain ⟨hfound, -⟩ := Option.filter_eq_some_iff.1 hstep
          exact .inr (.inr ⟨step, (Property.step?_eq_some hfound).1, hpart⟩)
      · exact .inr hother
    · exact .inl (List.mem_singleton.1 h)

theorem Composer.forall_mem_step {composer : Composer} {c : Char}
    (hcomposed : ∀ {a b d}, compose? a b = some d → P d) (hc : P c)
    (h : ∀ d ∈ composer.reversed, P d) : ∀ d ∈ (composer.step c).reversed, P d := by
  cases hput : (composer.base? c).bind (compose? · c) with
  | some d =>
    obtain ⟨a, -, ha⟩ := Option.bind_eq_some_iff.1 hput
    rw [Composer.step_of_some hput]
    simp only [Composer.reversed, List.forall_mem_append, Option.toList_some,
      List.forall_mem_singleton] at h ⊢
    exact ⟨⟨h.1.1, hcomposed ha⟩, h.2⟩
  | none =>
    rw [Composer.step_of_none hput]
    by_cases hclass : markClass c = 0
    · rw [if_pos hclass]
      exact List.forall_mem_cons.2 ⟨hc, h⟩
    · rw [if_neg hclass]
      exact List.forall_mem_cons.2 ⟨hc, h⟩

/-- A property that composed characters have is one of all characters that are composed so
far. -/
theorem Composer.forall_mem_foldl {composer : Composer}
    (hcomposed : ∀ {a b d}, compose? a b = some d → P d) (htext : ∀ c ∈ text, P c)
    (h : ∀ d ∈ composer.reversed, P d) :
    ∀ d ∈ (text.foldl Composer.step composer).reversed, P d := by
  induction text generalizing composer with
  | nil => exact h
  | cons c text ih =>
    rw [List.forall_mem_cons] at htext
    exact ih htext.2 (Composer.forall_mem_step hcomposed htext.1 h)

/-- A property of characters that letters of syllables, syllables and the characters of the
table have is one of all characters of a composed text. -/
theorem forall_mem_compose (hletter : ∀ n, isLetter n → P (Char.ofNat n))
    (hsyllable : ∀ c : Char, isSyllable c.toNat → P c)
    (htable : ∀ step ∈ pairs.toList, ∀ n ∈ step.first :: step.points, P (Char.ofNat n))
    (h : ∀ c ∈ text, P c) : ∀ c ∈ compose text, P c := by
  have hapart : ∀ c ∈ apart text, P c := by
    intro c hc
    obtain ⟨n, hn, rfl⟩ := List.mem_map.1 hc
    obtain ⟨d, hd, hmem⟩ := List.mem_flatMap.1 hn
    rcases mem_takeApart hmem with rfl | hkorean | ⟨step, hstep, hpoint⟩
    · rw [Char.ofNat_toNat]
      exact h d hd
    · exact hletter n hkorean
    · exact htable step hstep n (List.mem_cons_of_mem _ hpoint)
  have hcomposed {a b d : Char} (h : compose? a b = some d) : P d := by
    rcases of_compose? h with ⟨-, hkorean⟩ | hpair
    · exact hsyllable d hkorean
    · obtain ⟨step, hstep, hfirst⟩ := hpair.listed
      have hd := htable step hstep step.first List.mem_cons_self
      rwa [hfirst, Char.ofNat_toNat] at hd
  intro c hc
  rw [compose_eq, List.mem_reverse] at hc
  exact Composer.forall_mem_foldl hcomposed (forall_mem_sortMarks hapart) (List.forall_mem_nil _) c hc

end Characters

section Dots

variable {text : Text}

/-- No dot is put together with another character. -/
theorem compose?_dot (c : Char) : compose? '.' c = none := by
  rw [Option.eq_none_iff_forall_ne_some]
  intro d hd
  rcases of_compose? hd with ⟨hsyllable, -⟩ | hpair
  · have hnone : syllableParts? '.'.toNat = none := by decide
    rcases (of_syllable? hsyllable).2.2 with ⟨hletter, -⟩ | ⟨parts, hparts, -⟩
    · exact absurd hletter (by decide)
    · rw [hnone] at hparts
      cases hparts
  · exact hpair.unpointed rfl

theorem not_dot_of_mem_compose (h : '.' ∉ text) : '.' ∉ compose text := by
  have hcode {n : Nat} (hcode : isCode n) (hn : n ≠ '.'.toNat) : Char.ofNat n ≠ '.' := fun hdot =>
    hn ((toNat_ofNat_of_isCode hcode).symm.trans (congrArg Char.toNat hdot))
  have hall : ∀ c ∈ compose text, c ≠ '.' := by
    refine forall_mem_compose ?hletter ?hsyllable ?htable fun c hc hdot => h (hdot ▸ hc)
    case hletter =>
      intro n hn
      refine hcode (isWhole_of_isLetter hn).2 ?_
      rintro rfl
      exact absurd hn (by decide)
    case hsyllable =>
      rintro c hc rfl
      exact absurd hc (by decide)
    case htable =>
      intro step hstep
      obtain ⟨hwide, hbehind⟩ := asciiEnd_le_of_pairs step hstep
      obtain ⟨a, b, hpoints, hpair⟩ := exists_isPair hstep
      rw [hpoints] at hbehind ⊢
      have hb : asciiEnd ≤ b := hbehind b (List.mem_singleton_self b)
      have hend : asciiEnd = 128 := rfl
      have hdot : '.'.toNat = 46 := rfl
      refine List.forall_mem_cons.2 ⟨hcode hpair.codes.1 (by omega), List.forall_mem_cons.2
        ⟨hcode hpair.codes.2.1 hpair.unpointed, List.forall_mem_singleton.2
          (hcode hpair.codes.2.2 (by omega))⟩⟩
  exact fun hdot => hall '.' hdot rfl

/-- The composers of a text behind a dot and of the text alone: until a letter is read, one
has the dot where the other one has nothing. -/
def Composer.IsBehind (composer other : Composer) (before : Text) : Prop :=
  (composer = { done := before, letter := some '.', marks := other.marks } ∧
    other = { marks := other.marks }) ∨
  composer = { other with done := other.done ++ '.' :: before }

theorem Composer.IsBehind.step {composer other : Composer} {before : Text}
    (h : composer.IsBehind other before) (c : Char) :
    (composer.step c).IsBehind (other.step c) before := by
  rcases h with ⟨hcomposer, hother⟩ | hcomposer
  · have hput : (composer.base? c).bind (compose? · c) = none := by
      refine Option.bind_eq_none_iff.2 fun a ha => ?_
      have hletter := (Composer.of_base? ha).1
      rw [hcomposer] at hletter
      cases hletter
      exact compose?_dot c
    have hputother : (other.base? c).bind (compose? · c) = none := by
      refine Option.bind_eq_none_iff.2 fun a ha => ?_
      have hletter := (Composer.of_base? ha).1
      rw [hother] at hletter
      cases hletter
    rw [Composer.step_of_none hput, Composer.step_of_none hputother]
    by_cases hclass : markClass c = 0
    · rw [if_pos hclass, if_pos hclass]
      right
      rw [hcomposer, hother]
      simp [Composer.reversed]
    · rw [if_neg hclass, if_neg hclass]
      left
      rw [hcomposer, hother]
      exact ⟨rfl, rfl⟩
  · have hbase : composer.base? c = other.base? c := by
      rw [hcomposer]
      rfl
    cases hput : (other.base? c).bind (compose? · c) with
    | some d =>
      rw [Composer.step_of_some hput, Composer.step_of_some (hbase ▸ hput), hcomposer]
      exact .inr rfl
    | none =>
      rw [Composer.step_of_none hput, Composer.step_of_none (hbase ▸ hput), hcomposer]
      by_cases hclass : markClass c = 0
      · rw [if_pos hclass, if_pos hclass]
        right
        simp [Composer.reversed]
      · rw [if_neg hclass, if_neg hclass]
        exact .inr rfl

theorem Composer.IsBehind.reversed_foldl {composer other : Composer} {before : Text}
    (h : composer.IsBehind other before) (text : Text) :
    (text.foldl Composer.step composer).reversed =
      (text.foldl Composer.step other).reversed ++ '.' :: before := by
  induction text generalizing composer other with
  | nil =>
    rcases h with ⟨hcomposer, hother⟩ | hcomposer
    · rw [List.foldl_nil, List.foldl_nil, hcomposer, hother]
      simp [Composer.reversed]
    · rw [List.foldl_nil, List.foldl_nil, hcomposer]
      simp [Composer.reversed]
  | cons c text ih => exact ih (h.step c)

/-- What stands on either side of a dot is composed by itself. -/
theorem compose_append_dot (front back : Text) :
    compose (front ++ '.' :: back) = compose front ++ '.' :: compose back := by
  have hascii : '.'.toNat < asciiEnd := by decide
  have hdot : markClass '.' = 0 := markClass_of_ascii hascii
  have hapart : apart ['.'] = ['.'] := by
    rw [apart, List.flatMap_singleton, takeApart_of_ascii hascii]
    rfl
  have hput (composer : Composer) : (composer.base? '.').bind (compose? · '.') = none :=
    Option.bind_eq_none_iff.2 fun a _ => compose?_of_ascii hascii a
  have hbehind (composer : Composer) :
      (composer.step '.').IsBehind {} composer.reversed := by
    rw [Composer.step_of_none (hput composer), if_pos hdot]
    exact .inl ⟨rfl, rfl⟩
  rw [compose_eq, apart_append, ← List.singleton_append, apart_append, hapart,
    List.singleton_append, sortMarks_append_cons hdot, List.foldl_append, List.foldl_cons,
    (hbehind _).reversed_foldl, List.reverse_append, List.reverse_cons, List.append_assoc,
    ← compose_eq, ← compose_eq]
  rfl

/-- The parts of a name between its dots are composed one by one. -/
theorem split_compose (name : Text) :
    Text.split '.' (compose name) = (Text.split '.' name).map compose :=
  Text.split_map_of_append compose_append_dot (fun _ => not_dot_of_mem_compose) name

end Dots

end RuleGateway.Domain
