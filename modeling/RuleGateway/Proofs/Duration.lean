import Mathlib.Data.Nat.Digits.Defs
import RuleGateway.Duration
import RuleGateway.Proofs.Text.Digits
import RuleGateway.Proofs.Text.Runs

/-!
# Reading durations

`Writes` says which texts are durations: a number of seconds, or groups of a number and a
unit, with numbers and sums that have no bound of their own. Only the result has to fit
into 64 bits. The reader adds group by group and checks every step, and the sum of what it
has read only grows, so the checks on the way fail exactly if the whole sum does not fit.
The main statement is that the reader takes the texts that `Writes` has and no other ones,
and that it reports an overflow for no sum that fits.
-/

namespace RuleGateway

namespace Text

/-- Decimal digits and the number that they are, with the place value of each digit. -/
structure IsNumber (digits : Text) (n : Nat) : Prop where
  ne_nil : digits ≠ []
  isDigit : ∀ c ∈ digits, c.isDigit
  value : n = Nat.ofDigits 10 (digits.reverse.map fun c => c.toNat - '0'.toNat)

/-- A run of digits is read as the number that it is. -/
theorem decimal?_of_isDigit {digits : Text} (hne : digits ≠ []) (h : ∀ c ∈ digits, c.isDigit) :
    decimal? digits =
      some (Nat.ofDigits 10 (digits.reverse.map fun c => c.toNat - '0'.toNat)) := by
  induction digits using List.reverseRecOn with
  | nil => exact absurd rfl hne
  | append_singleton digits c ih =>
    have hdigit : digit? c = some (c.toNat - '0'.toNat) := if_pos (h c (by simp))
    rw [List.reverse_append, List.reverse_singleton, List.singleton_append, List.map_cons,
      Nat.ofDigits_cons, Nat.add_comm, Nat.mul_comm]
    cases digits with
    | nil => rw [List.nil_append, decimal?, number?_singleton, hdigit]; simp
    | cons d digits =>
      have hfront := ih (List.cons_ne_nil d digits) fun e he => h e (List.mem_append_left _ he)
      rw [decimal?] at hfront
      rw [decimal?, number?_concat (List.cons_ne_nil d digits), hfront, push, Option.bind_some,
        hdigit, Option.map_some]

theorem decimal?_eq_some_iff {digits : Text} {n : Nat} :
    decimal? digits = some n ↔ IsNumber digits n := by
  constructor
  · intro h
    have hne : digits ≠ [] := by
      rintro rfl
      cases h
    have hdigits : ∀ c ∈ digits, c.isDigit := by
      intro c hc
      have hsome := isSome_of_mem_number? h hc
      rw [digit?] at hsome
      split at hsome
      · assumption
      · cases hsome
    refine ⟨hne, hdigits, ?_⟩
    rw [decimal?_of_isDigit hne hdigits] at h
    exact (Option.some.inj h).symm
  · rintro ⟨hne, hdigits, rfl⟩
    exact decimal?_of_isDigit hne hdigits

theorem isNumber_ofNat (n : Nat) : IsNumber (ofNat n) n :=
  decimal?_eq_some_iff.1 (decimal?_ofNat n)

theorem not_isBlank_of_isDigit {c : Char} (h : c.isDigit) : isBlank c = false := by
  have hall : ∀ d < 10, isBlank d.digitChar = false := by decide
  obtain ⟨d, hd, rfl⟩ := exists_digitChar h
  exact hall d hd

/-- A text without blanks is not trimmed. -/
theorem trim_eq_self {text : Text} (h : ∀ c ∈ text, isBlank c = false) : trim text = text := by
  have hstart : Stops isBlank text := fun c hc => h c (List.mem_of_head? hc)
  have hend : Stops isBlank text.reverse := fun c hc =>
    h c (List.mem_reverse.1 (List.mem_of_head? hc))
  rw [trim, trimStart, dropWhile_of_stops hstart, trimEnd, dropWhile_of_stops hend,
    List.reverse_reverse]

end Text

namespace Duration

open Text

/-- The names of the units and their milliseconds. -/
inductive NamesUnit : Text → Nat → Prop
  | millisecond : NamesUnit "ms" 1
  | second : NamesUnit "s" 1000
  | minute : NamesUnit "m" (60 * 1000)
  | hour : NamesUnit "h" (60 * (60 * 1000))
  | day : NamesUnit "d" (24 * (60 * (60 * 1000)))

theorem unit?_eq_some_iff {word : Text} {size : Nat} :
    unit? word = some size ↔ NamesUnit word size := by
  constructor
  · intro h
    unfold unit? at h
    repeat' split at h
    all_goals cases h
    all_goals
      subst word
      constructor
  · rintro (_ | _ | _ | _ | _) <;> rfl

namespace NamesUnit

variable {word : Text} {size : Nat}

theorem size_pos (h : NamesUnit word size) : 0 < size := by
  cases h <;> decide

theorem ne_nil (h : NamesUnit word size) : word ≠ [] := by
  cases h <;> exact List.cons_ne_nil _ _

/-- The characters of a unit are neither digits nor signs nor blanks. -/
theorem of_mem (h : NamesUnit word size) {c : Char} (hc : c ∈ word) :
    c.isDigit = false ∧ c ≠ '+' ∧ isBlank c = false := by
  have hall : word.all (fun c => !c.isDigit && c != '+' && !isBlank c) = true := by
    cases h <;> decide
  have hone := List.all_eq_true.1 hall c hc
  simp only [Bool.and_eq_true, Bool.not_eq_true', bne_iff_ne, and_assoc] at hone
  exact hone

end NamesUnit

/-- Groups of a number and a unit, each listed as its number and the milliseconds of its
unit. -/
inductive WritesGroups : Text → List (Nat × Nat) → Prop
  | nil : WritesGroups [] []
  | cons {digits word rest : Text} {n size : Nat} {groups : List (Nat × Nat)}
      (hnumber : IsNumber digits n) (hunit : NamesUnit word size)
      (hrest : WritesGroups rest groups) :
    WritesGroups (digits ++ (word ++ rest)) ((n, size) :: groups)

/-- The exact sum of groups in milliseconds. -/
def total (groups : List (Nat × Nat)) : Nat := (groups.map fun group => group.1 * group.2).sum

/-- What texts write durations: seconds with an optional plus sign, or at least one group. -/
inductive Writes : Text → Duration → Prop
  | seconds {sign digits : Text} {n : Nat} (hsign : sign = [] ∨ sign = ['+'])
      (hnumber : IsNumber digits n) (hfits : n < Nat.pow 2 64) :
    Writes (sign ++ digits) (ofSecs n)
  | groups {text : Text} {groups : List (Nat × Nat)} (hne : groups ≠ [])
      (hgroups : WritesGroups text groups) (hfits : total groups < Nat.pow 2 64) :
    Writes text { millis := total groups }

theorem total_cons (n size : Nat) (groups : List (Nat × Nat)) :
    total ((n, size) :: groups) = n * size + total groups :=
  List.sum_cons

theorem total_append (front back : List (Nat × Nat)) :
    total (front ++ back) = total front + total back := by
  rw [total, List.map_append, List.sum_append]
  rfl

namespace WritesGroups

variable {text more : Text} {groups others : List (Nat × Nat)}

theorem append (h : WritesGroups text groups) (hmore : WritesGroups more others) :
    WritesGroups (text ++ more) (groups ++ others) := by
  induction h with
  | nil => exact hmore
  | cons hnumber hunit _ ih =>
    rw [List.append_assoc, List.append_assoc]
    exact .cons hnumber hunit ih

/-- A single group. -/
theorem single {digits word : Text} {n size : Nat} (hnumber : IsNumber digits n)
    (hunit : NamesUnit word size) : WritesGroups (digits ++ word) [(n, size)] := by
  have h := cons hnumber hunit nil
  rwa [List.append_nil] at h

theorem eq_nil_iff (h : WritesGroups text groups) : text = [] ↔ groups = [] := by
  cases h with
  | nil => simp
  | cons hnumber => simp [hnumber.ne_nil]

/-- Groups start with a digit. -/
theorem stops (h : WritesGroups text groups) : Stops (fun c => !c.isDigit) text := by
  cases h with
  | nil => exact stops_nil _
  | @cons digits word rest n size groups hnumber =>
    intro c hc
    obtain ⟨d, digits, rfl⟩ := List.exists_cons_of_ne_nil hnumber.ne_nil
    cases hc
    simp [hnumber.isDigit c List.mem_cons_self]

theorem not_isBlank (h : WritesGroups text groups) : ∀ c ∈ text, isBlank c = false := by
  induction h with
  | nil => intro c hc; cases hc
  | cons hnumber hunit _ ih =>
    intro c hc
    rcases List.mem_append.1 hc with hdigit | hc
    · exact not_isBlank_of_isDigit (hnumber.isDigit c hdigit)
    · rcases List.mem_append.1 hc with hword | hrest
      · exact (hunit.of_mem hword).2.2
      · exact ih c hrest

end WritesGroups

theorem secs?_eq_some_iff {text : Text} {n : Nat} :
    secs? text = some n ↔
      ∃ sign digits, text = sign ++ digits ∧ (sign = [] ∨ sign = ['+']) ∧ IsNumber digits n ∧
        n < Nat.pow 2 64 := by
  unfold secs?
  rw [Option.filter_eq_some_iff, decimal?_eq_some_iff, decide_eq_true_eq]
  constructor
  · rintro ⟨hnumber, hfits⟩
    split at hnumber
    · exact ⟨['+'], _, rfl, .inr rfl, hnumber, hfits⟩
    · exact ⟨[], _, rfl, .inl rfl, hnumber, hfits⟩
  · rintro ⟨sign, digits, rfl, rfl | rfl, hnumber, hfits⟩
    · rw [List.nil_append]
      refine ⟨?_, hfits⟩
      split
      · have hplus := hnumber.isDigit '+' List.mem_cons_self
        contradiction
      · exact hnumber
    · exact ⟨hnumber, hfits⟩

/-- Groups are no bare number, because of the units. -/
theorem WritesGroups.secs?_eq_none {text : Text} {groups : List (Nat × Nat)}
    (h : WritesGroups text groups) (hne : groups ≠ []) : secs? text = none := by
  cases h with
  | nil => exact absurd rfl hne
  | @cons digits word rest n size groups hnumber hunit hrest =>
    obtain ⟨c, word, rfl⟩ := List.exists_cons_of_ne_nil hunit.ne_nil
    obtain ⟨hdigit, hplus, -⟩ := hunit.of_mem List.mem_cons_self
    rw [Option.eq_none_iff_forall_ne_some]
    intro m hm
    obtain ⟨sign, number, htext, hsign, hnumber, -⟩ := secs?_eq_some_iff.1 hm
    have hmem : c ∈ sign ++ number := htext ▸ by simp
    rcases List.mem_append.1 hmem with hc | hc
    · rcases hsign with rfl | rfl
      · cases hc
      · exact hplus (List.mem_singleton.1 hc)
    · rw [hnumber.isDigit c hc] at hdigit
      contradiction

section Step

variable {digits word rest : Text} {n size : Nat}

/-- What is read as the first group. -/
theorem group_append (hnumber : IsNumber digits n) (hunit : NamesUnit word size)
    (hrest : Stops (fun c => !c.isDigit) rest) :
    group (digits ++ (word ++ rest)) = (digits, word, rest) := by
  have hword : ∀ c ∈ word, !c.isDigit := fun c hc => by simp [(hunit.of_mem hc).1]
  have hbehind : Stops Char.isDigit (word ++ rest) := by
    obtain ⟨c, word, rfl⟩ := List.exists_cons_of_ne_nil hunit.ne_nil
    exact stops_cons (hunit.of_mem List.mem_cons_self).1 _
  rw [group]
  simp only [takeWhile_append_of_all hnumber.isDigit hbehind,
    dropWhile_append_of_all hnumber.isDigit hbehind, takeWhile_append_of_all hword hrest,
    dropWhile_append_of_all hword hrest]

theorem addGroup_eq (hnumber : IsNumber digits n) (hunit : NamesUnit word size) (sum : Nat) :
    addGroup sum digits word =
      if bound ≤ n then .error .numberOutOfRange
      else if bound ≤ sum + n * size then .error .overflow
      else .ok (sum + n * size) := by
  have hword : word.isEmpty = false := by simp [hunit.ne_nil]
  rw [addGroup, decimal?_eq_some_iff.2 hnumber]
  simp only [hword, Bool.false_eq_true, if_false, unit?_eq_some_iff.2 hunit]

/-- A group is added, or is one whose sum does not fit, only if it is a number with a unit. -/
theorem exists_group_of_addGroup {sum : Nat} {result : Except Problem Nat}
    (h : addGroup sum digits word = result)
    (hresult : result = .error .overflow ∨ ∃ next, result = .ok next) :
    ∃ n size, IsNumber digits n ∧ NamesUnit word size := by
  subst result
  unfold addGroup at hresult
  cases hdigits : decimal? digits with
  | none => simp [hdigits] at hresult
  | some n =>
    cases hword : unit? word with
    | none =>
      simp only [hdigits, hword] at hresult
      split at hresult
      · simp at hresult
      · split at hresult <;> simp at hresult
    | some size => exact ⟨n, size, decimal?_eq_some_iff.1 hdigits, unit?_eq_some_iff.1 hword⟩

theorem exists_of_addGroup {sum next : Nat} (h : addGroup sum digits word = .ok next) :
    ∃ n size, IsNumber digits n ∧ NamesUnit word size ∧ next = sum + n * size ∧ next < bound := by
  obtain ⟨n, size, hnumber, hunit⟩ := exists_group_of_addGroup h (.inr ⟨next, rfl⟩)
  rw [addGroup_eq hnumber hunit] at h
  split at h
  · cases h
  split at h
  · cases h
  · rename_i hfits
    cases h
    exact ⟨n, size, hnumber, hunit, rfl, Nat.not_le.1 hfits⟩

theorem exists_of_overflow {sum : Nat} (h : addGroup sum digits word = .error .overflow) :
    ∃ n size, IsNumber digits n ∧ NamesUnit word size ∧ bound ≤ sum + n * size := by
  obtain ⟨n, size, hnumber, hunit⟩ := exists_group_of_addGroup h (.inl rfl)
  rw [addGroup_eq hnumber hunit] at h
  split at h
  · cases h
  split at h
  · rename_i hover
    exact ⟨n, size, hnumber, hunit, hover⟩
  · cases h

end Step

/-- Groups added to a sum as the reader adds them, with a check at every step. -/
def addListed (sum : Nat) (groups : List (Nat × Nat)) : Except Problem Nat :=
  groups.foldlM
    (fun sum group =>
      if bound ≤ group.1 then .error .numberOutOfRange
      else if bound ≤ sum + group.1 * group.2 then .error .overflow
      else .ok (sum + group.1 * group.2))
    sum

/-- The checks on the way pass if the whole sum fits, because it only grows. -/
theorem addListed_of_lt (sum : Nat) {groups : List (Nat × Nat)}
    (hsizes : ∀ group ∈ groups, 0 < group.2) (h : sum + total groups < bound) :
    addListed sum groups = .ok (sum + total groups) := by
  induction groups generalizing sum with
  | nil => rfl
  | cons group groups ih =>
    obtain ⟨n, size⟩ := group
    rw [total_cons] at h ⊢
    have hn : n ≤ n * size := Nat.le_mul_of_pos_right n (hsizes (n, size) List.mem_cons_self)
    have hrest := ih (sum + n * size)
      (fun group hgroup => hsizes group (List.mem_cons_of_mem _ hgroup)) (by omega)
    rw [addListed] at hrest
    rw [addListed, List.foldlM_cons, if_neg (by dsimp only; omega), if_neg (by dsimp only; omega),
      ← Nat.add_assoc]
    exact hrest

/-- Some check fails if the whole sum does not fit. It is the one for the sum, unless a
number alone is out of range. -/
theorem addListed_of_le (sum : Nat) {groups : List (Nat × Nat)} (hsum : sum < bound)
    (h : bound ≤ sum + total groups) :
    addListed sum groups = .error .overflow ∨
      addListed sum groups = .error .numberOutOfRange ∧ ∃ group ∈ groups, bound ≤ group.1 := by
  induction groups generalizing sum with
  | nil => exact absurd h (Nat.not_le.2 hsum)
  | cons group groups ih =>
    obtain ⟨n, size⟩ := group
    rw [total_cons] at h
    rw [addListed, List.foldlM_cons]
    by_cases hn : bound ≤ n
    · rw [if_pos hn]
      exact .inr ⟨rfl, _, List.mem_cons_self, hn⟩
    by_cases hadded : bound ≤ sum + n * size
    · rw [if_neg hn, if_pos hadded]
      exact .inl rfl
    · rw [if_neg hn, if_neg hadded]
      rcases ih _ (Nat.not_le.1 hadded) (by omega) with hover | ⟨hrange, other, hother, hbig⟩
      · exact .inl hover
      · exact .inr ⟨hrange, other, List.mem_cons_of_mem _ hother, hbig⟩

theorem WritesGroups.size_pos {text : Text} {groups : List (Nat × Nat)}
    (h : WritesGroups text groups) : ∀ group ∈ groups, 0 < group.2 := by
  induction h with
  | nil => intro group hgroup; cases hgroup
  | cons _ hunit _ ih => exact List.forall_mem_cons.2 ⟨hunit.size_pos, ih⟩

section Run

variable {text : Text} {fuel sum : Nat}

theorem addGroups_succ (h : text ≠ []) (fuel sum : Nat) :
    addGroups (fuel + 1) sum text =
      (addGroup sum (group text).1 (group text).2.1).bind
        fun next => addGroups fuel next (group text).2.2 := by
  obtain ⟨c, text, rfl⟩ := List.exists_cons_of_ne_nil h
  rfl

/-- A text is its first group and what follows it, and is read so. -/
theorem exists_addGroups_eq (h : text ≠ []) :
    ∃ digits word rest, text = digits ++ (word ++ rest) ∧ ∀ fuel sum,
      addGroups (fuel + 1) sum text =
        (addGroup sum digits word).bind fun next => addGroups fuel next rest := by
  refine ⟨(group text).1, (group text).2.1, (group text).2.2, ?_, addGroups_succ h⟩
  rw [group, List.takeWhile_append_dropWhile, List.takeWhile_append_dropWhile]

/-- Groups are read as they are listed. -/
theorem WritesGroups.addGroups_eq {groups : List (Nat × Nat)} (h : WritesGroups text groups)
    (hfuel : text.length ≤ fuel) (sum : Nat) : addGroups fuel sum text = addListed sum groups := by
  induction h generalizing fuel sum with
  | nil => cases fuel <;> rfl
  | @cons digits word rest n size groups hnumber hunit hrest ih =>
    have hne : digits ++ (word ++ rest) ≠ [] := by simp [hnumber.ne_nil]
    have hdigits : 0 < digits.length := List.length_pos_iff.2 hnumber.ne_nil
    rw [List.length_append, List.length_append] at hfuel
    obtain ⟨fuel, rfl⟩ : ∃ less, fuel = less + 1 := ⟨fuel - 1, by omega⟩
    rw [addGroups_succ hne, group_append hnumber hunit hrest.stops]
    dsimp only
    rw [addGroup_eq hnumber hunit, addListed, List.foldlM_cons]
    dsimp only
    split
    · rfl
    split
    · rfl
    · exact ih (by omega) _

/-- A text that is read to its end is one of groups, and the result is their exact sum. -/
theorem exists_groups_of_addGroups {result : Nat} (hsum : sum < bound)
    (hfuel : text.length ≤ fuel) (h : addGroups fuel sum text = .ok result) :
    ∃ groups, WritesGroups text groups ∧ result = sum + total groups ∧ result < bound := by
  induction fuel generalizing sum text with
  | zero =>
    obtain rfl := List.length_eq_zero_iff.1 (Nat.le_zero.1 hfuel)
    cases h
    exact ⟨[], .nil, rfl, hsum⟩
  | succ fuel ih =>
    by_cases hne : text = []
    · subst hne
      cases h
      exact ⟨[], .nil, rfl, hsum⟩
    · obtain ⟨digits, word, rest, rfl, hfirst⟩ := exists_addGroups_eq hne
      rw [hfirst] at h
      cases hadded : addGroup sum digits word with
      | error problem =>
        rw [hadded] at h
        cases h
      | ok next =>
        rw [hadded] at h
        obtain ⟨n, size, hnumber, hunit, rfl, hfits⟩ := exists_of_addGroup hadded
        have hdigits : 0 < digits.length := List.length_pos_iff.2 hnumber.ne_nil
        rw [List.length_append, List.length_append] at hfuel
        obtain ⟨groups, hgroups, hresult, hbound⟩ := ih hfits (by omega) h
        refine ⟨(n, size) :: groups, .cons hnumber hunit hgroups, ?_, hbound⟩
        rw [hresult, total_cons, Nat.add_assoc]

/-- An overflow is reported only behind groups whose exact sum does not fit. -/
theorem exists_lead_of_overflow (h : addGroups fuel sum text = .error .overflow) :
    ∃ lead rest groups, text = lead ++ rest ∧ WritesGroups lead groups ∧
      bound ≤ sum + total groups := by
  induction fuel generalizing sum text with
  | zero => cases h
  | succ fuel ih =>
    by_cases hne : text = []
    · subst hne
      cases h
    · obtain ⟨digits, word, rest, rfl, hfirst⟩ := exists_addGroups_eq hne
      rw [hfirst] at h
      cases hadded : addGroup sum digits word with
      | error problem =>
        rw [hadded] at h
        cases h
        obtain ⟨n, size, hnumber, hunit, hover⟩ := exists_of_overflow hadded
        exact ⟨digits ++ word, rest, [(n, size)], (List.append_assoc ..).symm,
          .single hnumber hunit, hover⟩
      | ok next =>
        rw [hadded] at h
        obtain ⟨n, size, hnumber, hunit, rfl, -⟩ := exists_of_addGroup hadded
        obtain ⟨lead, behind, groups, rfl, hlead, hover⟩ := ih h
        refine ⟨digits ++ (word ++ lead), behind, (n, size) :: groups, ?_,
          .cons hnumber hunit hlead, ?_⟩
        · rw [List.append_assoc, List.append_assoc]
        · rw [total_cons]
          omega

end Run

section Read

variable {text : Text} {d : Duration} {groups : List (Nat × Nat)}

theorem read_of_nil (h : trim text = []) : read text = .error .empty := by
  rw [read, h]
  rfl

theorem read_of_secs {n : Nat} (hne : trim text ≠ []) (h : secs? (trim text) = some n) :
    read text = .ok (ofSecs n) := by
  have hinput : (trim text).isEmpty = false := by simp [hne]
  rw [read]
  simp only [hinput, Bool.false_eq_true, if_false, h]

theorem read_of_no_secs (hne : trim text ≠ []) (h : secs? (trim text) = none) :
    read text = (addGroups (trim text).length 0 (trim text)).map fun millis => { millis } := by
  have hinput : (trim text).isEmpty = false := by simp [hne]
  rw [read]
  simp only [hinput, Bool.false_eq_true, if_false, h]

theorem read_of_writesGroups (hne : groups ≠ []) (h : WritesGroups (trim text) groups) :
    read text = (addListed 0 groups).map fun millis => { millis } := by
  rw [read_of_no_secs (mt h.eq_nil_iff.1 hne) (h.secs?_eq_none hne),
    h.addGroups_eq (Nat.le_refl _)]

/-- The reader takes the texts that write a duration, and gives that duration. -/
theorem read_eq_ok_iff : read text = .ok d ↔ Writes (trim text) d := by
  constructor
  · intro h
    by_cases hne : trim text = []
    · rw [read_of_nil hne] at h
      cases h
    cases hsecs : secs? (trim text) with
    | some secs =>
      rw [read_of_secs hne hsecs] at h
      cases h
      obtain ⟨sign, digits, htext, hsign, hnumber, hfits⟩ := secs?_eq_some_iff.1 hsecs
      rw [htext]
      exact .seconds hsign hnumber hfits
    | none =>
      rw [read_of_no_secs hne hsecs] at h
      cases hadded : addGroups (trim text).length 0 (trim text) with
      | error problem =>
        rw [hadded] at h
        cases h
      | ok millis =>
        rw [hadded] at h
        cases h
        obtain ⟨groups, hgroups, hmillis, hfits⟩ :=
          exists_groups_of_addGroups (by decide) (Nat.le_refl _) hadded
        rw [Nat.zero_add] at hmillis
        subst hmillis
        exact .groups (mt hgroups.eq_nil_iff.2 hne) hgroups hfits
  · intro h
    generalize hinput : trim text = input at h
    cases h with
    | seconds hsign hnumber hfits =>
      have hsecs := secs?_eq_some_iff.2 ⟨_, _, hinput, hsign, hnumber, hfits⟩
      exact read_of_secs (by simp [hinput, hnumber.ne_nil]) hsecs
    | groups hne hgroups hfits =>
      subst hinput
      have hadded := addListed_of_lt 0 hgroups.size_pos (by rwa [Nat.zero_add])
      rw [read_of_writesGroups hne hgroups, hadded, Nat.zero_add]
      rfl

theorem read_of_le (hne : groups ≠ []) (h : WritesGroups (trim text) groups)
    (hover : bound ≤ total groups) :
    read text = .error .overflow ∨
      read text = .error .numberOutOfRange ∧ ∃ group ∈ groups, bound ≤ group.1 := by
  rw [read_of_writesGroups hne h]
  rcases addListed_of_le 0 (by decide) (by rwa [Nat.zero_add]) with hsum | ⟨hrange, hbig⟩
  · exact .inl (by rw [hsum]; rfl)
  · exact .inr ⟨by rw [hrange]; rfl, hbig⟩

theorem exists_lead_of_read (h : read text = .error .overflow) :
    ∃ lead rest groups, trim text = lead ++ rest ∧ WritesGroups lead groups ∧
      bound ≤ total groups := by
  by_cases hne : trim text = []
  · rw [read_of_nil hne] at h
    cases h
  cases hsecs : secs? (trim text) with
  | some secs =>
    rw [read_of_secs hne hsecs] at h
    cases h
  | none =>
    rw [read_of_no_secs hne hsecs] at h
    cases hadded : addGroups (trim text).length 0 (trim text) with
    | ok millis =>
      rw [hadded] at h
      cases h
    | error problem =>
      rw [hadded] at h
      cases h
      simpa only [Nat.zero_add] using exists_lead_of_overflow hadded

theorem parse_eq_ok_iff : parse text = .ok d ↔ read text = .ok d := by
  rw [parse]
  cases read text <;> simp [Except.mapError]

theorem parse_eq_error_iff {problem : Problem} :
    parse text = .error { input := text, problem } ↔ read text = .error problem := by
  rw [parse]
  cases read text <;> simp [Except.mapError]

theorem WritesGroups.trim_eq (h : WritesGroups text groups) : trim text = text :=
  trim_eq_self h.not_isBlank

/-- Groups whose sum fits are read as that sum. -/
theorem WritesGroups.parse_eq (h : WritesGroups text groups) (hne : groups ≠ [])
    (hfits : total groups < bound) : parse text = .ok { millis := total groups } := by
  have hwrites : Writes (trim text) { millis := total groups } := by
    rw [h.trim_eq]
    exact .groups hne h hfits
  exact parse_eq_ok_iff.2 (read_eq_ok_iff.2 hwrites)

end Read

/-- What it is to read a text exactly. It is a duration if it writes one between blanks, and
in no other case. Groups whose sum does not fit are no duration, and an overflow is reported
only where the text starts with such groups. Groups behind groups give the sum of what each
of them gives, if that fits. -/
structure ReadsExactly (text : Text) : Prop where
  written : ∀ d, parse text = .ok d ↔ Writes (trim text) d
  exceeded : ∀ groups, groups ≠ [] → WritesGroups (trim text) groups →
    Nat.pow 2 64 ≤ total groups →
    parse text = .error { input := text, problem := .overflow } ∨
      parse text = .error { input := text, problem := .numberOutOfRange } ∧
        ∃ group ∈ groups, Nat.pow 2 64 ≤ group.1
  overflows : parse text = .error { input := text, problem := .overflow } →
    ∃ lead rest groups, trim text = lead ++ rest ∧ WritesGroups lead groups ∧
      Nat.pow 2 64 ≤ total groups
  joined : ∀ more groups others, groups ≠ [] → WritesGroups text groups →
    others ≠ [] → WritesGroups more others → total groups + total others < Nat.pow 2 64 →
    ∃ d e, parse text = .ok d ∧ parse more = .ok e ∧
      parse (text ++ more) = .ok { millis := d.millis + e.millis }

/-- Every text is read exactly. -/
theorem parse_readsExactly (text : Text) : ReadsExactly text := by
  constructor
  case written => exact fun d => parse_eq_ok_iff.trans read_eq_ok_iff
  case exceeded =>
    intro groups hne hgroups hover
    rw [parse_eq_error_iff, parse_eq_error_iff]
    exact read_of_le hne hgroups hover
  case overflows => exact fun h => exists_lead_of_read (parse_eq_error_iff.1 h)
  case joined =>
    intro more groups others hne hgroups hother hmore hfits
    have htotal := total_append groups others
    refine ⟨_, _, hgroups.parse_eq hne (Nat.lt_of_le_of_lt (Nat.le_add_right _ _) hfits),
      hmore.parse_eq hother (Nat.lt_of_le_of_lt (Nat.le_add_left _ _) hfits), ?_⟩
    rw [(hgroups.append hmore).parse_eq (by simp [hne]) (htotal ▸ hfits), htotal]

end Duration

end RuleGateway
