import RuleGateway.Proofs.Duration

/-!
# Reading what was written

A duration is written as groups whose exact sum it is, whatever its size. So the reader
gives it back if it fits into 64 bits of milliseconds. A number of seconds may be 64 bits
wide as well, and such a duration may not fit; each of its groups is in range all the same,
so that the reader then reports an overflow and nothing else.
-/

namespace RuleGateway.Duration

open Text

section Render

variable {c : Char} {size : Nat}

/-- The groups for a count: none for zero. -/
def countGroups (n size : Nat) : List (Nat × Nat) := if n = 0 then [] else [(n, size)]

theorem total_countGroups (n size : Nat) : total (countGroups n size) = n * size := by
  rw [countGroups]
  split
  · rename_i hzero
    rw [hzero, Nat.zero_mul]
    rfl
  · exact Nat.add_zero _

theorem renderCount_writesGroups (n : Nat) (hunit : NamesUnit [c] size) :
    WritesGroups (renderCount n c) (countGroups n size) := by
  rw [renderCount, countGroups]
  split
  · exact .nil
  · exact .single (isNumber_ofNat n) hunit

theorem eq_of_mem_countGroups {n : Nat} {group : Nat × Nat} (h : group ∈ countGroups n size) :
    group.1 = n := by
  rw [countGroups] at h
  split at h
  · cases h
  · rw [List.mem_singleton.1 h]

/-- The groups that a duration is written as. -/
def renderGroups (d : Duration) : List (Nat × Nat) :=
  if d.millis % 1000 ≠ 0 then [(d.millis, 1)]
  else if d.secs = 0 then [(0, 1000)]
  else
    countGroups (d.secs / 3600) (60 * (60 * 1000)) ++
      (countGroups (d.secs % 3600 / 60) (60 * 1000) ++ countGroups (d.secs % 60) 1000)

theorem render_writesGroups (d : Duration) : WritesGroups (render d) (renderGroups d) := by
  rw [render, renderGroups]
  split
  · exact .single (isNumber_ofNat _) .millisecond
  split
  · exact .single (isNumber_ofNat 0) .second
  · rw [List.append_assoc]
    exact (renderCount_writesGroups _ .hour).append
      ((renderCount_writesGroups _ .minute).append (renderCount_writesGroups _ .second))

/-- What is written is exactly the duration. -/
theorem total_renderGroups (d : Duration) : total (renderGroups d) = d.millis := by
  rw [renderGroups]
  split
  · simp [total]
  rename_i hwhole
  have hmillis : d.millis = d.secs * 1000 := by
    rw [secs]
    omega
  split
  · rename_i hzero
    rw [hmillis, hzero]
    rfl
  · rw [total_append, total_append, total_countGroups, total_countGroups, total_countGroups]
    omega

theorem renderGroups_ne_nil (d : Duration) : renderGroups d ≠ [] := by
  intro hnil
  have htotal := total_renderGroups d
  rw [hnil] at htotal
  have hmillis : d.millis = 0 := htotal.symm
  simp [renderGroups, hmillis, secs] at hnil

/-- The numbers of whole seconds are counts of hours, minutes and seconds. -/
theorem le_secs_of_mem {d : Duration} (h : d.millis % 1000 = 0) {group : Nat × Nat}
    (hgroup : group ∈ renderGroups d) : group.1 ≤ d.secs := by
  rw [renderGroups, if_neg (not_not.2 h)] at hgroup
  split at hgroup
  · rw [List.mem_singleton.1 hgroup]
    exact Nat.zero_le _
  · simp only [List.mem_append] at hgroup
    rcases hgroup with hhours | hminutes | hseconds
    · rw [eq_of_mem_countGroups hhours]
      exact Nat.div_le_self ..
    · rw [eq_of_mem_countGroups hminutes]
      omega
    · rw [eq_of_mem_countGroups hseconds]
      exact Nat.mod_le ..

end Render

/-- The durations that there are: those that a text writes, and those made of a number of
seconds or of milliseconds that is 64 bits wide. -/
inductive Obtained : Duration → Prop
  | parsed {text : Text} {d : Duration} (h : parse text = .ok d) : Obtained d
  | seconds {n : Nat} (h : n < Nat.pow 2 64) : Obtained (ofSecs n)
  | milliseconds {n : Nat} (h : n < Nat.pow 2 64) : Obtained { millis := n }

namespace Obtained

variable {d : Duration}

/-- A duration fits into 64 bits of milliseconds, or it is a whole number of seconds that
fits. -/
theorem cases (h : Obtained d) : d.millis < bound ∨ ∃ n < bound, d = ofSecs n := by
  cases h with
  | @parsed text d h =>
    have hwrites := read_eq_ok_iff.1 (parse_eq_ok_iff.1 h)
    generalize trim text = input at hwrites
    cases hwrites with
    | seconds _ _ hfits => exact .inr ⟨_, hfits, rfl⟩
    | groups _ _ hfits => exact .inl hfits
  | seconds h => exact .inr ⟨_, h, rfl⟩
  | milliseconds h => exact .inl h

/-- Each group that such a duration is written as is in range. -/
theorem lt_of_mem_renderGroups (h : Obtained d) {group : Nat × Nat}
    (hgroup : group ∈ renderGroups d) : group.1 < bound := by
  rcases h.cases with hfits | ⟨n, hn, rfl⟩
  · by_cases hwhole : d.millis % 1000 = 0
    · exact Nat.lt_of_le_of_lt (le_secs_of_mem hwhole hgroup)
        (Nat.lt_of_le_of_lt (Nat.div_le_self ..) hfits)
    · rw [renderGroups, if_pos hwhole] at hgroup
      rwa [List.mem_singleton.1 hgroup]
  · have hwhole : (ofSecs n).millis % 1000 = 0 := Nat.mul_mod_left ..
    have hsecs : (ofSecs n).secs = n := Nat.mul_div_cancel _ (by decide)
    exact Nat.lt_of_le_of_lt (hsecs ▸ le_secs_of_mem hwhole hgroup) hn

theorem parse_render_of_le (h : Obtained d) (hlarge : bound ≤ d.millis) :
    parse (render d) = .error { input := render d, problem := .overflow } := by
  have hwrites := render_writesGroups d
  have hread := read_of_le (renderGroups_ne_nil d) (hwrites.trim_eq.symm ▸ hwrites)
    (total_renderGroups d ▸ hlarge)
  rw [parse_eq_error_iff]
  rcases hread with hover | ⟨-, group, hgroup, hbig⟩
  · exact hover
  · exact absurd (h.lt_of_mem_renderGroups hgroup) (Nat.not_lt.2 hbig)

end Obtained

theorem parse_render_of_lt {d : Duration} (h : d.millis < bound) : parse (render d) = .ok d := by
  have hparse := (render_writesGroups d).parse_eq (renderGroups_ne_nil d)
    (total_renderGroups d ▸ h)
  rwa [total_renderGroups] at hparse

/-- A written duration is read as itself if it fits into 64 bits of milliseconds, and is
too large otherwise. It is never read as another one. -/
theorem parse_render_iff {d : Duration} (h : Obtained d) :
    (parse (render d) = .ok d ↔ d.millis < Nat.pow 2 64) ∧
      (Nat.pow 2 64 ≤ d.millis →
        parse (render d) = .error { input := render d, problem := .overflow }) ∧
      ∀ other, parse (render d) = .ok other → other = d := by
  by_cases hfits : d.millis < bound
  · have hparse := parse_render_of_lt hfits
    refine ⟨⟨fun _ => hfits, fun _ => hparse⟩, fun hlarge => ?_, fun other hother => ?_⟩
    · exact absurd hfits (Nat.not_lt.2 hlarge)
    · rw [hparse] at hother
      cases hother
      rfl
  · have hparse := h.parse_render_of_le (Nat.not_lt.1 hfits)
    rw [hparse]
    refine ⟨⟨fun hok => ?_, fun hlt => absurd hlt hfits⟩, fun _ => rfl, fun other hother => ?_⟩
    · cases hok
    · cases hother

/-- The largest number of seconds cannot be read from what it is written as. -/
theorem mostSeconds_parse_render :
    Obtained (ofSecs (Nat.pow 2 64 - 1)) ∧
      parse (render (ofSecs (Nat.pow 2 64 - 1))) =
        .error { input := render (ofSecs (Nat.pow 2 64 - 1)), problem := .overflow } := by
  have hobtained : Obtained (ofSecs (Nat.pow 2 64 - 1)) := .seconds (by decide)
  exact ⟨hobtained, (parse_render_iff hobtained).2.1 (by decide)⟩

end RuleGateway.Duration
