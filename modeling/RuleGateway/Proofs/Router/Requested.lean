import RuleGateway.Proofs.Percent.Slash
import RuleGateway.Proofs.Router.Mount

/-!
# The normal form of what is matched

The path of a request is brought into normal form first and decoded after that. The first
step settles how plain slashes are written, so that all writings of a path with more or
fewer of them are matched alike. An escaped slash becomes one only in the second step, and
`isTidy_requested_iff` says where it is then one too many.
-/

namespace RuleGateway

namespace Path

variable {path text : Text}

/-- Whether a path is the root, or has no repeated slash and none at its end. -/
def IsTidy (path : Text) : Prop :=
  path = ['/'] ∨ path ≠ [] ∧ ¬ "//".toList <:+: path ∧ ¬ "/".toList <:+ path

section Normal

theorem collapse_eq_self_iff : collapse text = text ↔ ¬ "//".toList <:+: text := by
  constructor
  · rintro hsame ⟨front, back, rfl⟩
    have hshorter := length_collapse_lt front back
    rw [List.append_assoc] at hsame
    change collapse (front ++ '/' :: '/' :: back) = front ++ '/' :: '/' :: back at hsame
    rw [hsame] at hshorter
    exact Nat.lt_irrefl _ hshorter
  · intro h
    induction text with
    | nil => rfl
    | cons c rest ih =>
      have hcut : ¬ (c = '/' ∧ rest.head? = some '/') := by
        rintro ⟨rfl, hhead⟩
        obtain ⟨more, rfl⟩ := List.head?_eq_some_iff.1 hhead
        exact h ⟨[], more, rfl⟩
      rw [collapse_cons hcut, ih fun hrest => h (hrest.trans (List.suffix_cons c rest).isInfix)]

theorem collapse_collapse (text : Text) : collapse (collapse text) = collapse text := by
  induction text with
  | nil => rfl
  | cons c rest ih =>
    rw [collapse_step]
    split
    · exact ih
    · rename_i hcut
      rw [collapse_cons (by rwa [head?_collapse]), ih]

theorem isSuffix_slash_iff : "/".toList <:+ path ↔ path.getLast? = some '/' :=
  List.singleton_suffix_iff_getLast?_eq_some

/-- What remains of a text without repeated slashes when its final slash is dropped has
none at its end. -/
theorem getLast?_dropFinalSlash (h : ¬ "//".toList <:+: text) :
    (Text.dropFinalSlash text).getLast? ≠ some '/' := by
  by_cases hlast : text.getLast? = some '/'
  · obtain ⟨front, rfl⟩ := List.getLast?_eq_some_iff.1 hlast
    rw [Text.dropFinalSlash_concat]
    intro hfront
    obtain ⟨more, rfl⟩ := List.getLast?_eq_some_iff.1 hfront
    exact h ⟨more, [], by simp⟩
  · rwa [Text.dropFinalSlash_of_ne hlast]

theorem isTidy_normalize (path : Text) : IsTidy (normalize path) := by
  by_cases hne : path = []
  · subst hne
    exact .inl rfl
  by_cases hroot : collapse path = ['/']
  · exact .inl (normalize_of_root hroot)
  have hcollapsed : ¬ "//".toList <:+: collapse path :=
    collapse_eq_self_iff.1 (collapse_collapse path)
  rw [normalize_of_ne hne hroot]
  refine .inr ⟨?_, ?_, ?_⟩
  · intro hempty
    by_cases hlast : (collapse path).getLast? = some '/'
    · obtain ⟨front, hfront⟩ := List.getLast?_eq_some_iff.1 hlast
      rw [hfront, Text.dropFinalSlash_concat] at hempty
      rw [hfront, hempty] at hroot
      exact hroot rfl
    · rw [Text.dropFinalSlash_of_ne hlast] at hempty
      exact hne (collapse_eq_nil.1 hempty)
  · intro hslashes
    exact hcollapsed (hslashes.trans (isPrefix_dropFinalSlash _).isInfix)
  · rw [isSuffix_slash_iff]
    exact getLast?_dropFinalSlash hcollapsed

/-- The tidy paths are those that have their normal form. -/
theorem normalize_eq_self_iff : normalize path = path ↔ IsTidy path := by
  constructor
  · intro h
    exact h ▸ isTidy_normalize path
  · rintro (rfl | ⟨hne, hslashes, hlast⟩)
    · rfl
    · rw [isSuffix_slash_iff] at hlast
      exact normalize_of_collapsed hne (collapse_eq_self_iff.2 hslashes) hlast

theorem normalize_normalize (path : Text) : normalize (normalize path) = normalize path :=
  normalize_eq_self_iff.2 (isTidy_normalize path)

end Normal

section Spelled

open Percent

/-- Whether a path is a slash, or has no two slashes beside each other and none at its end,
where each of them may be escaped or not. -/
def IsSpaced (path : Text) : Prop :=
  path ∈ slashes ∨ path ≠ [] ∧ (∀ slash ∈ slashes, ∀ next ∈ slashes, ¬ slash ++ next <:+: path) ∧
    ∀ slash ∈ slashes, ¬ slash <:+ path

variable (h : Spells path text)

include h

theorem eq_slash_iff_of_spells : text = ['/'] ↔ path ∈ slashes := by
  constructor
  · rintro rfl
    obtain ⟨slash, hslash, front, back, rfl, hfront, hback⟩ := exists_slash [] [] h
    rw [spells_nil_iff.1 hfront, spells_nil_iff.1 hback, List.nil_append, List.append_nil]
    exact hslash
  · intro hslash
    rw [← List.append_nil path, ← List.nil_append (path ++ [])] at h
    obtain ⟨before, behind, rfl, hbefore, hbehind⟩ := (spells_slash_iff hslash).1 h
    rw [nil_spells_iff.1 hbefore, nil_spells_iff.1 hbehind]
    rfl

theorem eq_nil_iff_of_spells : text = [] ↔ path = [] := by
  constructor
  · rintro rfl
    exact spells_nil_iff.1 h
  · rintro rfl
    exact nil_spells_iff.1 h

theorem slashes_infix_iff_of_spells :
    "//".toList <:+: text ↔ ∃ slash ∈ slashes, ∃ next ∈ slashes, slash ++ next <:+: path := by
  constructor
  · rintro ⟨before, behind, rfl⟩
    rw [List.append_assoc] at h
    obtain ⟨slash, hslash, front, rest, rfl, -, hrest⟩ :=
      exists_slash before ('/' :: behind) h
    obtain ⟨next, hnext, gap, back, rfl, hgap, -⟩ := exists_slash [] behind hrest
    rw [spells_nil_iff.1 hgap]
    exact ⟨slash, hslash, next, hnext, front, back, by simp⟩
  · rintro ⟨slash, hslash, next, hnext, front, back, rfl⟩
    rw [List.append_assoc, List.append_assoc] at h
    obtain ⟨before, rest, rfl, -, hrest⟩ := (spells_slash_iff hslash).1 h
    rw [← List.nil_append (next ++ back)] at hrest
    obtain ⟨gap, behind, rfl, hgap, -⟩ := (spells_slash_iff hnext).1 hrest
    rw [nil_spells_iff.1 hgap]
    exact ⟨before, behind, by simp⟩

theorem slash_suffix_iff_of_spells :
    "/".toList <:+ text ↔ ∃ slash ∈ slashes, slash <:+ path := by
  constructor
  · rintro ⟨before, rfl⟩
    obtain ⟨slash, hslash, front, back, rfl, -, hback⟩ := exists_slash before [] h
    rw [spells_nil_iff.1 hback, List.append_nil]
    exact ⟨slash, hslash, front, rfl⟩
  · rintro ⟨slash, hslash, front, rfl⟩
    rw [← List.append_nil slash] at h
    obtain ⟨before, behind, rfl, -, hbehind⟩ := (spells_slash_iff hslash).1 h
    rw [nil_spells_iff.1 hbehind]
    exact ⟨before, rfl⟩

/-- What a path spells is tidy if the path is, with escaped slashes taken for slashes. -/
theorem isTidy_iff_of_spells : IsTidy text ↔ IsSpaced path := by
  rw [IsTidy, IsSpaced, eq_slash_iff_of_spells h, Ne, eq_nil_iff_of_spells h,
    slashes_infix_iff_of_spells h, slash_suffix_iff_of_spells h]
  simp only [not_exists, not_and, ne_eq]

end Spelled

end Path

namespace Matcher

/-- What is matched of a request path has its normal form unless an escaped slash of the
normalized path stands beside another slash or at the end. All paths with one normal form
are matched alike. -/
theorem isTidy_requested_iff (path : Text) :
    (Path.IsTidy (requested path) ↔
      ¬ Percent.IsReadable (Path.normalize path) ∨ Path.IsSpaced (Path.normalize path)) ∧
    (Path.normalize (requested path) = requested path ↔ Path.IsTidy (requested path)) ∧
    Path.IsTidy (Path.normalize path) ∧
    requested (Path.normalize path) = requested path := by
  refine ⟨?_, Path.normalize_eq_self_iff, Path.isTidy_normalize path, ?_⟩
  · by_cases hreadable : Percent.IsReadable (Path.normalize path)
    · obtain ⟨text, htext⟩ := hreadable
      rw [requested, htext.decode_eq, Path.isTidy_iff_of_spells htext]
      exact (or_iff_right (not_not_intro ⟨text, htext⟩)).symm
    · rw [requested, Percent.decode_of_not_isReadable hreadable]
      exact iff_of_true (Path.isTidy_normalize path) (.inl hreadable)
  · rw [requested, requested, Path.normalize_normalize]

/-- A rule for one path. -/
def docsMatcher : Matcher where
  base := "/docs"
  rule :=
    { kind := .exact, target := "https://new.example".toList, appendPath := true, status := 302,
      priority := Rule.priorityOf 1 }
  sequence := 0

/-- A slash that is escaped at the end of a path is there when the path is matched, and the
rule for the path without it is missed. -/
theorem docsMatcher_misses_escaped_slash :
    requested "/docs%2F" = "/docs/".toList ∧ ¬ Path.IsTidy (requested "/docs%2F") ∧
      Path.normalize (requested "/docs%2F") = "/docs".toList ∧
      (docsMatcher.resolve? (Path.normalize (requested "/docs%2F")) none).isSome ∧
      docsMatcher.resolve? (requested "/docs%2F") none = none := by
  have hrequested : requested "/docs%2F" = "/docs/".toList := by decide +kernel
  have hnormal : Path.normalize "/docs/" = "/docs".toList := by decide
  rw [hrequested, hnormal]
  refine ⟨rfl, ?_, rfl, ?_, ?_⟩
  · rw [← Path.normalize_eq_self_iff, hnormal]
    decide
  · decide +kernel
  · decide +kernel

end Matcher

end RuleGateway
