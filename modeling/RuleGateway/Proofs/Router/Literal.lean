import RuleGateway.Proofs.Router.Nesting

/-!
# What a literal base path takes

A rule at a literal base path is reached in two ways. The pattern of the base path takes
the base path alone, and a subtree rule compares texts. Together they take the base path
and what lies under it segment by segment, and what is carried over to the target is the
path without the base path, neither more nor less (`resolve?_literal`).
-/

namespace RuleGateway

namespace Path

variable {path base rest : Text}

/-- Whether the segments of a base path are the first segments of a path. Every path is
within the root. -/
def IsWithin (path base : Text) : Prop :=
  base = ['/'] ∨ path.head? = some '/' ∧ segments base <+: segments path

/-- The text that goes before what is within a base path. There is none before what is
within the root. -/
def stem (base : Text) : Text := if base = ['/'] then [] else base

theorem stem_of_ne (h : base ≠ ['/']) : stem base = base := if_neg h

/-- To compare the texts is to compare the segments. -/
theorem isUnder_iff_isWithin (hbase : base.head? = some '/') :
    isUnder path base ↔ IsWithin path base := by
  rw [isUnder_iff, IsWithin]
  refine or_congr Iff.rfl ?_
  constructor
  · rintro (rfl | ⟨rest, rfl⟩)
    · exact ⟨hbase, List.prefix_rfl⟩
    · rw [List.head?_append, hbase, segments_append_cons]
      exact ⟨rfl, List.prefix_append _ _⟩
  · rintro ⟨hpath, more, hmore⟩
    have hjoin : path = base ++ ofSegments more := by
      rw [← ofSegments_segments hpath, ← hmore, ofSegments_append, ofSegments_segments hbase]
    cases more with
    | nil => exact .inl (hjoin.trans (List.append_nil base))
    | cons segment more => exact .inr ⟨segment ++ ofSegments more, hjoin⟩

end Path

namespace Matcher

variable {matcher : Matcher} {base path rest resolved : Text} {query : Option Text}

/-- What follows a base path in another path is found for the paths under it. -/
theorem remainder?_eq_some_iff (hne : path ≠ base) :
    remainder? base path = some rest ↔
      path = Path.stem base ++ rest ∧ (base = ['/'] ∨ rest.head? = some '/') := by
  by_cases hroot : base = ['/']
  · subst hroot
    rw [remainder?, if_pos rfl, if_neg hne, Path.stem, if_pos rfl, Option.some_inj]
    simp
  · rw [remainder?, if_neg hroot, if_neg hne, Path.stem_of_ne hroot, Option.filter_eq_some_iff,
      Text.after?_eq_some_iff, beq_iff_eq]
    simp [hroot]

theorem isSome_remainder?_iff (hne : path ≠ base) :
    (remainder? base path).isSome ↔ Path.isUnder path base := by
  rw [Option.isSome_iff_exists, Path.isUnder_iff]
  simp only [remainder?_eq_some_iff hne, hne, false_or]
  by_cases hroot : base = ['/']
  · simp [hroot, Path.stem]
  · simp only [hroot, false_or, Path.stem_of_ne hroot, List.head?_eq_some_iff]
    constructor
    · rintro ⟨_, hpath, rest, rfl⟩
      exact ⟨rest, hpath⟩
    · rintro ⟨rest, hpath⟩
      exact ⟨_, hpath, rest, rfl⟩

/-- A target with the query of a request: behind a question mark if there is something to
ask and nothing is asked yet. -/
structure IsAsked (text : Text) (query : Option Text) (resolved : Text) : Prop where
  appended : ∀ asked, query = some asked → asked ≠ [] → '?' ∉ text →
    resolved = text ++ '?' :: asked
  kept : query = none ∨ query = some [] ∨ '?' ∈ text → resolved = text

theorem isAsked_withQuery (text : Text) (query : Option Text) :
    IsAsked text query (withQuery text query) := by
  constructor
  · rintro asked rfl hasked htext
    simp [withQuery, hasked, htext]
  · rintro (rfl | rfl | htext)
    · rfl
    · rfl
    · cases query <;> simp [withQuery, htext]

section Literal

variable (hbase : matcher.base.head? = some '/') (hliteral : matcher.pattern.isDynamic = false)

include hbase hliteral

theorem scan?_literal (path : Text) :
    matcher.pattern.scan? path = if path = matcher.base then some [] else none := by
  rw [Pattern.scan?_eq_captures?, pattern, Pattern.captures?_of_not_isDynamic hbase hliteral]

/-- A path other than the base path is left to a subtree rule. -/
theorem target?_of_ne (hne : path ≠ matcher.base) :
    matcher.target? path =
      if matcher.rule.isInert = false ∧ matcher.rule.kind = .subtree then
        matcher.resolveBelow? path
      else none := by
  rw [target?, scan?_literal hbase hliteral, if_neg hne]
  cases matcher.rule.isInert <;> simp [hliteral]

theorem isSome_target?_iff :
    (matcher.target? path).isSome ↔ matcher.rule.isInert = false ∧
      (path = matcher.base ∨ matcher.rule.kind = .subtree ∧ Path.isUnder path matcher.base) := by
  by_cases hsame : path = matcher.base
  · rw [target?, scan?_literal hbase hliteral, if_pos hsame]
    cases matcher.rule.isInert <;> simp [hsame]
  · have hbelow : (matcher.resolveBelow? path).isSome ↔ Path.isUnder path matcher.base := by
      rw [resolveBelow?, Option.isSome_map, isSome_remainder?_iff hsame]
    rw [target?_of_ne hbase hliteral hsame]
    split
    · rename_i h
      simp [h, hsame, hbelow]
    · rename_i h
      simp only [Option.isSome_none, Bool.false_eq_true, false_iff, hsame, false_or]
      rintro ⟨hinert, hkind, -⟩
      exact h ⟨hinert, hkind⟩

end Literal

/-- The target of a rule without its final slash, and behind it what the rule carries
over. -/
def carried (rule : Rule) (rest : Text) : Text :=
  Text.dropFinalSlash rule.target ++ if rule.appendPath then rest else []

/-- A rule at a literal base path takes the base path and, if it is a subtree rule, what is
within it. A name that only begins like the base path is not. Below the base path the
target carries what follows it, and then the query. -/
theorem resolve?_literal (matcher : Matcher) (hbase : matcher.base.head? = some '/')
    (hliteral : matcher.pattern.isDynamic = false) (path : Text) (query : Option Text) :
    ((matcher.resolve? path query).isSome ↔ matcher.rule.isInert = false ∧
      (path = matcher.base ∨
        matcher.rule.kind = .subtree ∧ Path.IsWithin path matcher.base)) ∧
    (∀ c rest, matcher.base ≠ ['/'] → c ≠ '/' →
      matcher.resolve? (matcher.base ++ c :: rest) query = none) ∧
    ∀ resolved, matcher.resolve? path query = some resolved → path ≠ matcher.base →
      ∃ rest, path = Path.stem matcher.base ++ rest ∧
        IsAsked (carried matcher.rule rest) query resolved := by
  refine ⟨?_, ?_, ?_⟩
  · rw [resolve?, Option.isSome_map, isSome_target?_iff hbase hliteral,
      Path.isUnder_iff_isWithin hbase]
  · intro c rest hroot hc
    have hne : matcher.base ++ c :: rest ≠ matcher.base := by simp
    have hnone : (matcher.target? (matcher.base ++ c :: rest)).isSome = false := by
      rw [Bool.eq_false_iff, Ne, isSome_target?_iff hbase hliteral, Path.isUnder_iff]
      simp [hroot, hc]
    rw [resolve?, Option.map_eq_none_iff]
    exact Option.not_isSome_iff_eq_none.1 (by simp [hnone])
  · intro resolved hresolve hne
    obtain ⟨found, hfound, rfl⟩ := Option.map_eq_some_iff.1 hresolve
    rw [target?_of_ne hbase hliteral hne] at hfound
    obtain ⟨-, hbelow⟩ := Option.ite_none_right_eq_some.1 hfound
    obtain ⟨rest, hrest, hcarried⟩ := Option.map_eq_some_iff.1 hbelow
    have hfound' : found = carried matcher.rule rest := by
      rw [← hcarried, carried]
      cases matcher.rule.appendPath <;> simp
    refine ⟨rest, ((remainder?_eq_some_iff hne).1 hrest).1, ?_⟩
    rw [hfound']
    exact isAsked_withQuery _ _

/-- A rule at a base path that ends in a slash, so that an empty segment goes before what
is within it. -/
def menuMatcher : Matcher where
  base := "/café/"
  rule :=
    { kind := .subtree, target := "https://new.example/".toList, appendPath := true, status := 302,
      priority := Rule.priorityOf 1 }
  sequence := 0

theorem menuMatcher_resolves :
    menuMatcher.base.head? = some '/' ∧ menuMatcher.pattern.isDynamic = false ∧
      Path.IsWithin "/café//thé" menuMatcher.base ∧
      menuMatcher.resolve? "/café//thé" (some "a=1".toList) =
        some "https://new.example/thé?a=1".toList ∧
      menuMatcher.resolve? "/café/thé" (some "a=1".toList) = none := by
  have hbase : menuMatcher.base.head? = some '/' := by decide
  have hliteral : menuMatcher.pattern.isDynamic = false := by decide
  have hwithin : Path.IsWithin "/café//thé" menuMatcher.base := .inr ⟨by decide, by decide⟩
  obtain ⟨hsome, hother, hcarried⟩ := resolve?_literal menuMatcher hbase hliteral "/café//thé"
    (some "a=1".toList)
  obtain ⟨resolved, hresolved⟩ :=
    Option.isSome_iff_exists.1 (hsome.2 ⟨by decide, .inr ⟨rfl, hwithin⟩⟩)
  obtain ⟨rest, hpath, hasked⟩ := hcarried resolved hresolved (by decide)
  have hstem : "/café/".toList ++ "/thé".toList = "/café/".toList ++ rest := hpath
  obtain rfl := List.append_cancel_left hstem
  refine ⟨hbase, hliteral, hwithin, ?_, hother 't' "hé" (by decide) (by decide)⟩
  rw [hresolved, hasked.appended _ rfl (by decide) (by decide)]
  rfl

end Matcher

end RuleGateway
