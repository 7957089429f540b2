import RuleGateway.Proofs.Url.Domain.Punycode

/-!
# Names brought into ASCII again

A name in ASCII that was read from a text is read as it is (`toAscii?_again_iff`), unless it
has a label in Punycode that is longer than one may be that is read.
-/

namespace RuleGateway.Domain

section Normal

variable {text name part : Text}

theorem isKept_of_normalize? (h : normalize? text = some name) : ∀ c ∈ name, IsKept c := by
  obtain ⟨mapped, hmapped, rfl⟩ := Option.map_eq_some_iff.1 (Option.filter_eq_some_iff.1 h).1
  refine isKept_of_mem_compose fun c hc => ?_
  obtain ⟨texts, htexts, rfl⟩ := Option.map_eq_some_iff.1 hmapped
  obtain ⟨out, hout, hmem⟩ := List.mem_flatten.1 hc
  obtain ⟨d, -, hd⟩ := Text.exists_of_mem_mapM htexts hout
  exact isKept_of_mapChar? hd c hmem

theorem map?_of_isKept (h : ∀ c ∈ text, IsKept c) : map? text = some text := by
  have hmap : text.mapM mapChar? = some (text.map fun c => [c]) :=
    Text.mapM_eq_some fun c hc => h c hc
  rw [map?, hmap, Option.map_some]
  exact congrArg some (List.flatMap_def.symm.trans (List.flatMap_singleton' text))

/-- Each part of a normal name between dots is normal. -/
theorem normalize?_of_mem_split (h : normalize? text = some name)
    (hpart : part ∈ Text.split '.' name) : normalize? part = some part := by
  have hkept := isKept_of_normalize? h
  have hallowed : ∀ c ∈ name, isForbidden c = false := fun c hc => not_isForbidden_of_normalize? h hc
  obtain ⟨mapped, -, rfl⟩ := Option.map_eq_some_iff.1 (Option.filter_eq_some_iff.1 h).1
  have hsub := (Text.of_mem_split hpart).1.subset
  have hcomposed : compose part = part := by
    rw [split_compose] at hpart
    obtain ⟨whole, -, rfl⟩ := List.mem_map.1 hpart
    exact compose_compose whole
  have hnone : (!part.any isForbidden) = true := by
    simpa using fun c hc => hallowed c (hsub hc)
  rw [normalize?, map?_of_isKept fun c hc => hkept c (hsub hc), Option.map_some, hcomposed,
    Option.filter_some, hnone]
  rfl

end Normal

section Labels

variable {text name label : Text} {c : Char}

theorem toLower_of_isKept (hascii : c.toNat < asciiEnd) (h : IsKept c) : c.toLower = c := by
  rw [IsKept, mapChar?_of_ascii hascii] at h
  simpa using h

/-- What a label that is part of a name is: normal, without dots, and read as itself where it
is in ASCII. -/
structure IsPart (label : Text) : Prop where
  valid : isLabel label
  normal : normalize? label = some label
  undotted : '.' ∉ label
  plain : Text.isAscii label → label? label = some label

theorem isPart_of_label? {part : Text} (hname : normalize? text = some name)
    (hpart : part ∈ Text.split '.' name) (h : label? part = some label) : IsPart label := by
  obtain ⟨hlabel, hcases⟩ := of_label? h
  rcases hcases with ⟨-, rfl⟩ | hdecoded
  · exact ⟨hlabel, normalize?_of_mem_split hname hpart, (Text.of_mem_split hpart).2, fun _ => h⟩
  · refine ⟨hlabel, hdecoded.normal, hdecoded.undotted, fun hascii => ?_⟩
    rw [hdecoded.wide] at hascii
    cases hascii

/-- The characters of a written label. -/
theorem IsPart.of_mem (h : IsPart label) (hc : c ∈ labelToAscii label) :
    c.toNat < asciiEnd ∧ c.toLower = c ∧ isForbidden c = false ∧ c ≠ '.' := by
  have hinside (hmem : c ∈ label) (hascii : c.toNat < asciiEnd) :
      c.toNat < asciiEnd ∧ c.toLower = c ∧ isForbidden c = false ∧ c ≠ '.' :=
    ⟨hascii, toLower_of_isKept hascii (isKept_of_normalize? h.normal c hmem),
      not_isForbidden_of_normalize? h.normal hmem, fun hdot => h.undotted (hdot ▸ hmem)⟩
  rw [labelToAscii] at hc
  split at hc
  · rename_i hascii
    exact hinside hc (isAscii_iff.1 hascii c hc)
  · have hall : ∀ d ∈ punycodeMark ++ '-' :: Punycode.digitChars, d.toNat < asciiEnd ∧
        d.toLower = d ∧ isForbidden d = false ∧ d ≠ '.' := Text.forall_mem (by decide)
    rcases List.mem_append.1 hc with hmark | hcode
    · exact hall c (List.mem_append_left _ hmark)
    · rcases Punycode.mem_encode hcode with ⟨hmem, hlt⟩ | hdigit
      · exact hinside hmem hlt
      · exact hall c (List.mem_append_right _ hdigit)

/-- A label outside ASCII is read back from its form, unless that is too long. -/
theorem IsPart.label?_labelToAscii (h : IsPart label)
    (hform : ∀ code, Text.after? punycodeMark (labelToAscii label) = some code →
      code.length ≤ Punycode.maxForm) : label? (labelToAscii label) = some label := by
  cases hascii : Text.isAscii label with
  | true =>
    rw [labelToAscii, if_pos hascii]
    exact h.plain hascii
  | false =>
    have hwritten : labelToAscii label = punycodeMark ++ Punycode.encode label := by
      rw [labelToAscii, hascii, if_neg Bool.false_ne_true]
    have hafter : Text.after? punycodeMark (labelToAscii label) = some (Punycode.encode label) := by
      rw [hwritten]
      exact Text.after?_eq_some_iff.2 rfl
    have hcode : Text.isAscii (Punycode.encode label) := isAscii_iff.2 fun c hc =>
      (h.of_mem (hwritten ▸ List.mem_append_right _ hc)).1
    have hlength : label.length ≤ maxLabel := by
      have hvalid := h.valid
      rw [isLabel, hascii, Bool.false_or, Bool.and_eq_true, decide_eq_true_eq] at hvalid
      exact hvalid.2
    have hdecode := Punycode.decode?_encode hlength (hform _ hafter)
    have hkept : ¬ (Text.isAscii label = true ∨ label.contains '.' = true ∨
        normalize? label ≠ some label) := by
      rw [hascii, List.contains_iff_mem, h.normal]
      simpa using h.undotted
    rw [label?, hafter]
    simp only [hcode, hdecode, Option.bind_eq_bind, Option.bind_some, Bool.not_true,
      Bool.false_eq_true, if_false, if_neg hkept, h.valid, if_true]

end Labels

section Names

variable {text name : Text}

/-- Whether every label of a name that is marked as Punycode is one that is read. -/
def IsReadable (name : Text) : Prop :=
  ∀ part ∈ Text.split '.' name, ∀ code, Text.after? punycodeMark part = some code →
    code.length ≤ Punycode.maxForm

theorem exists_decode?_of_label? {part code label : Text}
    (hcode : Text.after? punycodeMark part = some code) (h : label? part = some label) :
    ∃ decoded, Punycode.decode? code = some decoded := by
  rw [label?, hcode] at h
  obtain ⟨-, hread⟩ := Option.ite_none_left_eq_some.1 h
  obtain ⟨decoded, hdecoded, -⟩ := Option.bind_eq_some_iff.1 hread
  exact ⟨decoded, hdecoded⟩

theorem isReadable_of_toAscii? (hascii : ∀ c ∈ name, c.toNat < asciiEnd)
    (hsmall : ∀ c ∈ name, c.toLower = c) (hallowed : ∀ c ∈ name, isForbidden c = false)
    (h : toAscii? name = some text) : IsReadable name := by
  intro part hpart code hcode
  rw [toAscii?, decode?_of_allowed hallowed, Option.bind_eq_bind, Option.bind_some,
    normalize?_of_ascii hascii hsmall hallowed, Option.bind_some] at h
  obtain ⟨labels, hlabels, -⟩ := Option.bind_eq_some_iff.1 h
  obtain ⟨label, hlabel⟩ := Text.exists_of_mapM hlabels hpart
  obtain ⟨decoded, hdecoded⟩ := exists_decode?_of_label? hcode hlabel
  exact Punycode.length_le_maxForm hdecoded

/-- A name that was read is read as it is if and only if no label in Punycode is too long. -/
theorem toAscii?_again_iff (h : toAscii? text = some name) :
    toAscii? name = some name ↔ IsReadable name := by
  obtain ⟨decoded, -, hbehind⟩ := Option.bind_eq_some_iff.1 h
  obtain ⟨normal, hnormal, hbehind⟩ := Option.bind_eq_some_iff.1 hbehind
  obtain ⟨labels, hlabels, hbehind⟩ := Option.bind_eq_some_iff.1 hbehind
  dsimp only at hbehind
  obtain ⟨hdirection, hname⟩ := Option.ite_none_left_eq_some.1 hbehind
  rw [Option.some_inj] at hname
  have hparts : ∀ label ∈ labels, IsPart label := by
    intro label hlabel
    obtain ⟨part, hpart, hread⟩ := Text.exists_of_mem_mapM hlabels hlabel
    exact isPart_of_label? hnormal hpart hread
  have hchars : ∀ c ∈ name, c.toNat < asciiEnd ∧ c.toLower = c ∧ isForbidden c = false := by
    intro c hc
    rw [← hname] at hc
    rcases Text.mem_join hc with rfl | ⟨written, hwritten, hmem⟩
    · decide
    · obtain ⟨label, hlabel, rfl⟩ := List.mem_map.1 hwritten
      obtain ⟨hascii, hsmall, hallowed, -⟩ := (hparts label hlabel).of_mem hmem
      exact ⟨hascii, hsmall, hallowed⟩
  have hascii := fun c hc => (hchars c hc).1
  have hsmall := fun c hc => (hchars c hc).2.1
  have hallowed := fun c hc => (hchars c hc).2.2
  have hsplit : Text.split '.' name = labels.map labelToAscii := by
    rw [← hname]
    refine Text.split_join ?_ fun written hwritten hdot => ?_
    · exact fun hnil => Text.ne_nil_of_mapM hlabels (Text.split_ne_nil _ _)
        (List.map_eq_nil_iff.1 hnil)
    · obtain ⟨label, hlabel, rfl⟩ := List.mem_map.1 hwritten
      exact ((hparts label hlabel).of_mem hdot).2.2.2 rfl
  refine ⟨isReadable_of_toAscii? hascii hsmall hallowed, fun hreadable => ?_⟩
  have hagain : (Text.split '.' name).mapM label? = some labels := by
    have hread : labels.mapM (fun label => label? (labelToAscii label)) = some (labels.map id) :=
      Text.mapM_eq_some fun label hlabel => (hparts label hlabel).label?_labelToAscii
        (hreadable _ (hsplit ▸ List.mem_map_of_mem hlabel))
    rw [hsplit, List.mapM_map]
    exact hread.trans (congrArg some (List.map_id labels))
  rw [toAscii?]
  simp only [decode?_of_allowed hallowed, normalize?_of_ascii hascii hsmall hallowed, hagain,
    Option.bind_eq_bind, Option.bind_some, if_neg hdirection, hname]

end Names

end RuleGateway.Domain
