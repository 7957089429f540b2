import RuleGateway.Proofs.Percent
import RuleGateway.Proofs.Text.Runs
import RuleGateway.Proofs.Text.Utf8
import RuleGateway.Url.Domain.Basic

/-!
# Names of hosts

Every name of a host is in characters of ASCII that a host may contain
(`allowed_of_toAscii?`). A name in small letters that has no label in Punycode is
left alone (`toAscii?_of_plain`), since nothing below the first character outside
ASCII has a step in the tables that would change it.
-/

namespace RuleGateway

theorem Property.step?_eq_some {property : Property} {n : Nat} {step : Property.Step}
    (h : property.step? n = some step) : step ∈ property.toList ∧ step.first ≤ n := by
  obtain ⟨hstep, hfirst⟩ := Option.filter_eq_some_iff.1 h
  exact ⟨Array.mem_toList_iff.2 (Array.mem_of_getElem? hstep), of_decide_eq_true hfirst⟩

namespace Punycode

/-- The digits. -/
def digitChars : Text := "abcdefghijklmnopqrstuvwxyz0123456789"

theorem digits_subset (n bias place q : Nat) : digits n bias place q ⊆ digitChars := by
  have hdigit : ∀ n < 36, digit n ∈ digitChars := by decide
  induction n generalizing place q with
  | zero => exact List.nil_subset _
  | succ n ih =>
    have hthreshold : threshold bias place ≤ 26 := Nat.min_le_left ..
    rw [digits]
    split
    · intro c hc
      rw [List.mem_singleton.1 hc]
      exact hdigit q (by omega)
    · have hmod := Nat.mod_lt (q - threshold bias place)
        (show 0 < 36 - threshold bias place by omega)
      exact List.cons_subset.2 ⟨hdigit _ (by omega), ih _ _⟩

theorem output_visit_subset {e : Encoder} (h : e.output ⊆ digitChars) (m ascii : Nat) (c : Char) :
    (e.visit m ascii c).output ⊆ digitChars := by
  rw [Encoder.visit]
  split
  · exact h
  · split
    · exact List.append_subset.2 ⟨h, digits_subset ..⟩
    · exact h

theorem output_run_subset {points : List Nat} {e : Encoder} (h : e.output ⊆ digitChars)
    (label : Text) (ascii next : Nat) :
    (Encoder.run label ascii points next e).output ⊆ digitChars := by
  have hfold (m : Nat) (label : Text) (e : Encoder) (h : e.output ⊆ digitChars) :
      (label.foldl (Encoder.visit m ascii) e).output ⊆ digitChars := by
    induction label generalizing e with
    | nil => exact h
    | cons c label ih => exact ih _ (output_visit_subset h m ascii c)
  induction points generalizing next e with
  | nil => exact h
  | cons m points ih =>
    rw [Encoder.run]
    refine ih ?_ (m + 1)
    exact hfold m label { e with delta := _ } h

/-- What is written in Punycode is in characters of ASCII of the label, hyphens and
digits. -/
theorem mem_encode {label : Text} {c : Char} (h : c ∈ encode label) :
    c ∈ label ∧ c.toNat < 0x80 ∨ c ∈ '-' :: digitChars := by
  rw [encode] at h
  rw [List.mem_append, List.mem_append] at h
  rcases h with (hascii | hhyphen) | hdigit
  · obtain ⟨hmem, hlt⟩ := List.mem_filter.1 hascii
    exact .inl ⟨hmem, of_decide_eq_true hlt⟩
  · split at hhyphen
    · cases hhyphen
    · exact .inr (List.mem_cons.2 (.inl (List.mem_singleton.1 hhyphen)))
  · exact .inr (List.mem_cons_of_mem _ (output_run_subset (List.nil_subset _) _ _ _ hdigit))

end Punycode

namespace Domain

section Tables

/-- The first code point outside ASCII. -/
def asciiEnd : Nat := 0x80

theorem asciiEnd_le_of_markClasses : ∀ step ∈ markClasses.toList, asciiEnd ≤ step.first := by
  rw [markClasses, String.toList_ofList]
  decide +kernel

theorem asciiEnd_le_of_pairs :
    ∀ step ∈ pairs.toList, asciiEnd ≤ step.first ∧ ∀ n ∈ step.points.drop 1, asciiEnd ≤ n := by
  rw [pairs, String.toList_ofList]
  decide +kernel

theorem asciiEnd_le_of_marks : ∀ step ∈ marks.toList, asciiEnd ≤ step.first := by
  rw [marks, String.toList_ofList]
  decide +kernel

/-- No letter or digit of ASCII is written from right to left. -/
theorem value_of_directions : ∀ step ∈ directions.toList, step.first < asciiEnd →
    step.value ≠ 'R' ∧ step.value ≠ 'A' := by
  rw [directions, String.toList_ofList]
  decide +kernel

/-- A table that starts outside ASCII has nothing to say of ASCII. -/
theorem step?_eq_none {property : Property} (h : ∀ step ∈ property.toList, asciiEnd ≤ step.first)
    {n : Nat} (hn : n < asciiEnd) : property.step? n = none := by
  cases hstep : property.step? n with
  | none => rfl
  | some step =>
    obtain ⟨hmem, hfirst⟩ := Property.step?_eq_some hstep
    have := h step hmem
    omega

end Tables

section Plain

variable {c : Char} {text : Text}

theorem markClass_of_ascii (h : c.toNat < asciiEnd) : markClass c = 0 := by
  -- Opened as a function: at a character, the check would read the table.
  obtain ⟨f, hf⟩ : ∃ f, f = markClass := ⟨_, rfl⟩
  rw [← hf]
  delta markClass at hf
  rw [hf]
  dsimp only
  rw [step?_eq_none asciiEnd_le_of_markClasses h]

theorem mapChar?_of_ascii (h : c.toNat < asciiEnd) : mapChar? c = some [c.toLower] := by
  -- As above.
  obtain ⟨f, hf⟩ : ∃ f, f = mapChar? := ⟨_, rfl⟩
  rw [← hf]
  delta mapChar? at hf
  rw [hf]
  exact if_pos h

theorem isMark_of_ascii (h : c.toNat < asciiEnd) : isMark c = false := by
  rw [isMark, Property.holds, step?_eq_none asciiEnd_le_of_marks h]
  rfl

theorem not_runs_of_ascii (h : c.toNat < asciiEnd) : runs ['R', 'A'] c = false := by
  have hholds (value : Char) (hvalue : value = 'R' ∨ value = 'A') :
      directions.holds value c = false := by
    rw [Property.holds]
    cases hstep : directions.step? c.toNat with
    | none => rfl
    | some step =>
      obtain ⟨hmem, hfirst⟩ := Property.step?_eq_some hstep
      obtain ⟨hright, harabic⟩ := value_of_directions step hmem (Nat.lt_of_le_of_lt hfirst h)
      rcases hvalue with rfl | rfl
      · simpa using hright
      · simpa using harabic
  simp [runs, hholds]

theorem takeApart_of_ascii {n : Nat} (h : n < asciiEnd) (times : Nat) :
    takeApart times n = [n] := by
  cases times with
  | zero => rfl
  | succ times =>
    have hsyllable : syllableParts? n = none := by
      rw [syllableParts?, if_neg]
      have hbase : syllableBase = 44032 := rfl
      have hend : asciiEnd = 128 := rfl
      omega
    rw [takeApart, hsyllable, pair?,
      step?_eq_none (fun step hstep => (asciiEnd_le_of_pairs step hstep).1) h]
    rfl

/-- No character of ASCII is put on another. -/
theorem compose?_of_ascii (h : c.toNat < asciiEnd) (a : Char) : compose? a c = none := by
  have hsyllable : syllable? a.toNat c.toNat = none := by
    have hend : asciiEnd = 128 := rfl
    have hvowel : vowelBase = 4449 := rfl
    have htrail : trailBase = 4519 := rfl
    rw [syllable?, if_neg (by omega), if_neg (by omega)]
  have hpair : pairs.find? (·.points == [a.toNat, c.toNat]) = none := by
    rw [Array.find?_eq_none]
    intro step hstep hpoints
    have hle := (asciiEnd_le_of_pairs step (Array.mem_toList_iff.2 hstep)).2 c.toNat
      (by simp [eq_of_beq hpoints])
    omega
  rw [compose?, hsyllable, hpair]
  rfl

theorem sortMarks_cons (c : Char) (text : Text) : sortMarks (c :: text) =
    if markClass c = 0 then c :: sortMarks text else insertMark c (sortMarks text) := by
  rw [sortMarks, List.foldr_cons, sortMarks]

/-- No mark is sorted behind a character that is none. -/
theorem sortMarks_append_cons {c : Char} (h : markClass c = 0) (front back : Text) :
    sortMarks (front ++ c :: back) = sortMarks front ++ c :: sortMarks back := by
  have hinsert (d : Char) (sorted rest : Text) :
      insertMark d (sorted ++ c :: rest) = insertMark d sorted ++ c :: rest := by
    induction sorted with
    | nil => exact if_neg fun hmark => hmark.1 h
    | cons e sorted ih =>
      rw [List.cons_append, insertMark, insertMark, ih]
      by_cases he : markClass e ≠ 0 ∧ markClass e < markClass d
      · rw [if_pos he, if_pos he, List.cons_append]
      · rw [if_neg he, if_neg he, List.cons_append, List.cons_append]
  induction front with
  | nil => rw [List.nil_append, sortMarks_cons, if_pos h]; rfl
  | cons d front ih =>
    rw [List.cons_append, sortMarks_cons, sortMarks_cons, ih, hinsert]
    by_cases hd : markClass d = 0
    · rw [if_pos hd, if_pos hd, List.cons_append]
    · rw [if_neg hd, if_neg hd]

theorem sortMarks_of_ascii (h : ∀ c ∈ text, c.toNat < asciiEnd) : sortMarks text = text := by
  induction text with
  | nil => rfl
  | cons c text ih =>
    rw [sortMarks_cons, if_pos (markClass_of_ascii (h c List.mem_cons_self)),
      ih fun d hd => h d (List.mem_cons_of_mem c hd)]

theorem sortMarks_append_of_ascii (h : ∀ c ∈ text, c.toNat < asciiEnd) (front : Text) :
    sortMarks (front ++ text) = sortMarks front ++ text := by
  cases text with
  | nil => rw [List.append_nil, List.append_nil]
  | cons c text =>
    rw [sortMarks_append_cons (markClass_of_ascii (h c List.mem_cons_self)),
      sortMarks_of_ascii fun d hd => h d (List.mem_cons_of_mem c hd)]

/-- A character of ASCII is only put behind what was composed before. -/
theorem reversed_foldl_step (h : ∀ c ∈ text, c.toNat < asciiEnd) (composer : Composer) :
    (text.foldl Composer.step composer).reversed = text.reverse ++ composer.reversed := by
  induction text generalizing composer with
  | nil => rfl
  | cons c text ih =>
    have hc := h c List.mem_cons_self
    have hbase : (composer.base? c).bind (compose? · c) = none :=
      Option.bind_eq_none_iff.2 fun a _ => compose?_of_ascii hc a
    have hstep : composer.step c = { done := composer.reversed, letter := some c } := by
      rw [Composer.step, hbase]
      exact if_pos (markClass_of_ascii hc)
    rw [List.foldl_cons, hstep, ih fun d hd => h d (List.mem_cons_of_mem c hd)]
    simp [Composer.reversed]

/-- Text in ASCII is left as it is, whatever is composed before it. -/
theorem compose_append_of_ascii (h : ∀ c ∈ text, c.toNat < asciiEnd) (front : Text) :
    compose (front ++ text) = compose front ++ text := by
  have hapart : (text.flatMap fun c => takeApart 4 c.toNat).map Char.ofNat = text := by
    induction text with
    | nil => rfl
    | cons c text ih =>
      rw [List.flatMap_cons, takeApart_of_ascii (h c List.mem_cons_self), List.map_append,
        ih fun d hd => h d (List.mem_cons_of_mem c hd), List.map_singleton, Char.ofNat_toNat,
        List.singleton_append]
  rw [compose, List.flatMap_append, List.map_append, hapart, sortMarks_append_of_ascii h,
    List.foldl_append, reversed_foldl_step h, List.reverse_append, List.reverse_reverse, compose]

/-- A text in ASCII is composed already. -/
theorem compose_of_ascii (h : ∀ c ∈ text, c.toNat < asciiEnd) : compose text = text :=
  compose_append_of_ascii h []

theorem joinsWell_of_ascii (h : ∀ c ∈ text, c.toNat < asciiEnd) (before : Text) :
    joinsWell before text = true := by
  induction text generalizing before with
  | nil => rfl
  | cons c text ih =>
    have hc := h c List.mem_cons_self
    have hjoiner : (c == parter || c == binder) = false := by
      rw [Bool.or_eq_false_iff, beq_eq_false_iff_ne, beq_eq_false_iff_ne]
      constructor <;> rintro rfl <;> exact absurd hc (by decide)
    rw [joinsWell, hjoiner, ih fun d hd => h d (List.mem_cons_of_mem c hd)]
    rfl

theorem isAscii_iff : Text.isAscii text ↔ ∀ c ∈ text, c.toNat < asciiEnd := by
  simp [Text.isAscii, asciiEnd]

theorem isLabel_of_ascii (h : ∀ c ∈ text, c.toNat < asciiEnd) : isLabel text = true := by
  have hmark : (text.head?.map isMark).getD false = false := by
    cases text with
    | nil => rfl
    | cons c text =>
      rw [List.head?_cons, Option.map_some, Option.getD_some]
      exact isMark_of_ascii (h c List.mem_cons_self)
  rw [isLabel, hmark, joinsWell_of_ascii h, isAscii_iff.2 h]
  rfl

/-- A name in small letters of ASCII that a host may contain, without Punycode. -/
structure IsPlain (name : Text) : Prop where
  ascii : ∀ c ∈ name, c.toNat < asciiEnd
  small : ∀ c ∈ name, c.toLower = c
  allowed : ∀ c ∈ name, isForbidden c = false
  unmarked : ∀ part ∈ Text.split '.' name, Text.after? punycodeMark part = none

/-- A text of small letters and other characters of ASCII that a host may have is normal. -/
theorem normalize?_of_ascii {name : Text} (hascii : ∀ c ∈ name, c.toNat < asciiEnd)
    (hsmall : ∀ c ∈ name, c.toLower = c) (hallowed : ∀ c ∈ name, isForbidden c = false) :
    normalize? name = some name := by
  have hmap : name.mapM mapChar? = some (name.map fun c => [c]) :=
    Text.mapM_eq_some fun c hc => by rw [mapChar?_of_ascii (hascii c hc), hsmall c hc]
  have hnone : (!name.any isForbidden) = true := by
    simpa using hallowed
  have hflat : (name.map fun c => [c]).flatten = name :=
    List.flatMap_def.symm.trans (List.flatMap_singleton' name)
  rw [normalize?, map?, hmap, Option.map_some, Option.map_some, hflat, compose_of_ascii hascii,
    Option.filter_some, hnone]
  rfl

/-- A text that a host may have has no escapes. -/
theorem decode?_of_allowed {name : Text} (hallowed : ∀ c ∈ name, isForbidden c = false) :
    Utf8.decode? (Percent.decodeLoose name) = some name := by
  have hpercent : '%' ∉ name := fun hmem => by
    have := hallowed '%' hmem
    contradiction
  rw [Percent.decodeLoose_of_escapeless (Percent.escapeless_of_not_mem hpercent)]
  exact Utf8.decode?_encode _

/-- A plain name is left alone. -/
theorem toAscii?_of_plain {name : Text} (h : IsPlain name) : toAscii? name = some name := by
  have hparts : ∀ part ∈ Text.split '.' name, ∀ c ∈ part, c.toNat < asciiEnd :=
    fun part hpart c hc => h.ascii c ((Text.of_mem_split hpart).1.subset hc)
  have hlabels : (Text.split '.' name).mapM label? = some ((Text.split '.' name).map id) :=
    Text.mapM_eq_some fun part hpart => by
      rw [label?, h.unmarked part hpart]
      exact if_pos (isLabel_of_ascii (hparts part hpart))
  have hmixed : (Text.split '.' name).any isMixed = false := by
    rw [List.any_eq_false]
    intro part hpart
    rw [isMixed, Bool.not_eq_true, List.any_eq_false]
    intro c hc
    rw [not_runs_of_ascii (hparts part hpart c hc)]
    decide
  have hascii : (Text.split '.' name).map labelToAscii = Text.split '.' name := by
    refine (List.map_congr_left fun part hpart => ?_).trans (List.map_id _)
    rw [labelToAscii, if_pos (isAscii_iff.2 (hparts part hpart))]
    rfl
  rw [toAscii?]
  simp only [decode?_of_allowed h.allowed,
    normalize?_of_ascii h.ascii h.small h.allowed, hlabels, List.map_id, hmixed, Option.bind_eq_bind,
    Option.bind_some, Bool.false_and, Bool.false_eq_true, if_false, hascii, Text.join_split]

end Plain

section Allowed

/-- Whether a character may stand in the name of a host. -/
def IsAllowed (c : Char) : Prop := c.toNat < asciiEnd ∧ isForbidden c = false

theorem not_isForbidden_of_normalize? {text name : Text} (h : normalize? text = some name)
    {c : Char} (hc : c ∈ name) : isForbidden c = false := by
  obtain ⟨-, hallowed⟩ := Option.filter_eq_some_iff.1 h
  rw [Bool.not_eq_true', List.any_eq_false] at hallowed
  simpa using hallowed c hc

/-- What a label is that is not itself the part of the name that stands for it. -/
structure IsDecoded (label : Text) : Prop where
  wide : Text.isAscii label = false
  undotted : '.' ∉ label
  normal : normalize? label = some label

/-- A label is a part of a name, or a normal text outside ASCII that a part is written for. -/
theorem of_label? {part label : Text} (h : label? part = some label) :
    isLabel label ∧ (Text.after? punycodeMark part = none ∧ label = part ∨ IsDecoded label) := by
  rw [label?] at h
  split at h
  · rename_i hmark
    obtain ⟨hlabel, hsame⟩ := Option.ite_none_right_eq_some.1 h
    rw [← Option.some_inj.1 hsame]
    exact ⟨hlabel, .inl ⟨hmark, rfl⟩⟩
  · dsimp only at h
    split at h
    · cases h
    · obtain ⟨decoded, -, h⟩ := Option.bind_eq_some_iff.1 h
      split at h
      · cases h
      · rename_i hrefused
        rw [not_or, not_or, Bool.not_eq_true, List.contains_iff_mem, Ne, Decidable.not_not] at hrefused
        obtain ⟨hlabel, hsame⟩ := Option.ite_none_right_eq_some.1 h
        rw [← Option.some_inj.1 hsame]
        exact ⟨hlabel, .inr ⟨hrefused.1, hrefused.2.1, hrefused.2.2⟩⟩

theorem labelToAscii_allowed {label : Text} (h : ∀ c ∈ label, isForbidden c = false) :
    ∀ c ∈ labelToAscii label, IsAllowed c := by
  intro c hc
  rw [labelToAscii] at hc
  split at hc
  · rename_i hascii
    exact ⟨isAscii_iff.1 hascii c hc, h c hc⟩
  · have hall : ∀ d ∈ punycodeMark ++ '-' :: Punycode.digitChars,
        d.toNat < asciiEnd ∧ isForbidden d = false := Text.forall_mem (by decide)
    rcases List.mem_append.1 hc with hmark | hcode
    · exact hall c (List.mem_append_left _ hmark)
    · rcases Punycode.mem_encode hcode with ⟨hmem, hlt⟩ | hdigit
      · exact ⟨hlt, h c hmem⟩
      · exact hall c (List.mem_append_right _ hdigit)

/-- Every name of a host is in characters that it may have. -/
theorem allowed_of_toAscii? {text name : Text} (h : toAscii? text = some name) :
    ∀ c ∈ name, IsAllowed c := by
  obtain ⟨decoded, -, h⟩ := Option.bind_eq_some_iff.1 h
  obtain ⟨normal, hnormal, h⟩ := Option.bind_eq_some_iff.1 h
  obtain ⟨labels, hlabels, h⟩ := Option.bind_eq_some_iff.1 h
  dsimp only at h
  obtain ⟨-, hname⟩ := Option.ite_none_left_eq_some.1 h
  cases hname
  intro c hc
  rcases Text.mem_join hc with rfl | ⟨written, hwritten, hmem⟩
  · exact ⟨by decide, by decide⟩
  · obtain ⟨label, hlabel, rfl⟩ := List.mem_map.1 hwritten
    obtain ⟨part, hpart, hread⟩ := Text.exists_of_mem_mapM hlabels hlabel
    refine labelToAscii_allowed (fun d hd => ?_) c hmem
    rcases (of_label? hread).2 with ⟨-, rfl⟩ | hdecoded
    · exact not_isForbidden_of_normalize? hnormal ((Text.of_mem_split hpart).1.subset hd)
    · exact not_isForbidden_of_normalize? hdecoded.normal hd

theorem map?_concat {c : Char} (h : c.toNat < asciiEnd) (text : Text) :
    map? (text ++ [c]) = (map? text).map (· ++ [c.toLower]) := by
  have hone : [c].mapM mapChar? = some [[c.toLower]] := by
    rw [List.mapM_cons, mapChar?_of_ascii h]
    rfl
  rw [map?, map?, List.mapM_append, hone]
  cases text.mapM mapChar? with
  | none => rfl
  | some texts => simp

/-- No host has a name with a blank or a control character at its end. -/
theorem toAscii?_concat_of_blank {c : Char} (h : c.toNat ≤ 0x20) (text : Text) :
    toAscii? (text ++ [c]) = none := by
  have hall : ∀ n ≤ 0x20, (Char.ofNat n).toLower = Char.ofNat n ∧ isForbidden (Char.ofNat n) ∧
      Char.ofNat n ≠ '%' ∧ Text.hexDigit? (Char.ofNat n) = none := by decide
  have hchar := hall c.toNat h
  rw [Char.ofNat_toNat] at hchar
  obtain ⟨hlower, hforbidden, hpercent, hhex⟩ := hchar
  have hascii : c.toNat < asciiEnd := Nat.lt_of_le_of_lt h (by decide)
  have hlast : Percent.decodeLoose [c] = Utf8.encode [c] := by
    rw [Percent.decodeLoose_cons hpercent]
    rfl
  have hstops : ∀ d, [c].head? = some d → Text.hexDigit? d = none := by
    rintro d ⟨⟩
    exact hhex
  rw [Option.eq_none_iff_forall_ne_some]
  intro name hname
  obtain ⟨decoded, hdecoded, hname⟩ := Option.bind_eq_some_iff.1 hname
  obtain ⟨normal, hnormal, -⟩ := Option.bind_eq_some_iff.1 hname
  rw [Percent.decodeLoose_append hstops, hlast, Utf8.decode?_append_encode hascii] at hdecoded
  obtain ⟨front, -, rfl⟩ := Option.map_eq_some_iff.1 hdecoded
  have hmem : c ∈ normal := by
    have hcomposed := (Option.filter_eq_some_iff.1 hnormal).1
    rw [map?_concat hascii, hlower] at hcomposed
    obtain ⟨mapped, hmapped, rfl⟩ := Option.map_eq_some_iff.1 hcomposed
    obtain ⟨before, -, rfl⟩ := Option.map_eq_some_iff.1 hmapped
    rw [compose_append_of_ascii (List.forall_mem_singleton.2 hascii)]
    exact List.mem_append_right _ (List.mem_singleton_self _)
  rw [not_isForbidden_of_normalize? hnormal hmem] at hforbidden
  exact Bool.false_ne_true hforbidden

end Allowed

end Domain

end RuleGateway
