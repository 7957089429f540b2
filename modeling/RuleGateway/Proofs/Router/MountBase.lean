import Mathlib.Data.List.TakeWhile
import RuleGateway.Proofs.Router.Mount

/-!
# Where a rule is mounted

A base path is read in three ways: its pattern is made of its segments, what lies below
it is found by comparing texts, and its mount is cut off by the length of the segments
before the first dynamic one. All paths that a matcher resolves lie under its mount
(`isMounted_of_key`), with empty segments in the base path as well, and where the first
segment is dynamic already, since the mount is the root then.
-/

namespace RuleGateway

namespace Path

variable {base segment : Text}

/-- The segments of a base path before the first dynamic one. -/
def leading (base : Text) : List Text := (segments base).takeWhile (!isDynamic ·)

/-- The segments of a base path from the first dynamic one on. -/
def trailing (base : Text) : List Text := (segments base).dropWhile (!isDynamic ·)

theorem leading_append_trailing (base : Text) : leading base ++ trailing base = segments base :=
  List.takeWhile_append_dropWhile

theorem not_isDynamic_of_mem_leading (h : segment ∈ leading base) : isDynamic segment = false := by
  simpa using List.mem_takeWhile_imp h

theorem isDynamic_of_trailing {rest : List Text} (h : trailing base = segment :: rest) :
    isDynamic segment := by
  have hstop := List.head?_dropWhile_not (!isDynamic ·) (segments base)
  rw [← trailing, h] at hstop
  simpa using hstop

theorem trailing_eq_nil_iff :
    trailing base = [] ↔ ∀ segment ∈ segments base, isDynamic segment = false := by
  rw [trailing, List.dropWhile_eq_nil_iff]
  simp

theorem ofSegments_leading_append (h : base.head? = some '/') :
    ofSegments (leading base) ++ ofSegments (trailing base) = base := by
  rw [← ofSegments_append, leading_append_trailing, ofSegments_segments h]

/-- The mount of a base path is its leading segments, or the root if there are none. -/
theorem literalPrefix?_eq (h : base.head? = some '/') :
    literalPrefix? base =
      some (if leading base = [] then ['/'] else ofSegments (leading base)) := by
  have hcut : Text.takeBytes? (Text.byteLength (ofSegments (leading base))) base =
      some (ofSegments (leading base)) := by
    conv_lhs => arg 2; rw [← ofSegments_leading_append h]
    exact Text.takeBytes?_append ..
  rw [literalPrefix?, ← leading, hcut]
  cases leading base <;> rfl

end Path

theorem Segment.isDynamic_ofText (segment : Text) :
    (ofText segment).isDynamic = Path.isDynamic segment := by
  cases hdynamic : Path.isDynamic segment with
  | false =>
    rw [ofText_literal hdynamic]
    rfl
  | true =>
    obtain rfl | ⟨name, rfl⟩ := Path.isDynamic_iff.1 hdynamic
    · rfl
    · rw [ofText_param]
      rfl

/-- A pattern is dynamic if its base path goes on behind the leading segments. -/
theorem Pattern.isDynamic_ofBase_eq_false_iff {base : Text} :
    (ofBase base).isDynamic = false ↔ Path.trailing base = [] := by
  rw [Path.trailing_eq_nil_iff, isDynamic, ofBase, List.any_map]
  simp [Segment.isDynamic_ofText]

namespace Matcher

variable {matcher : Matcher}

/-- How the mount of a matcher belongs to its base path and to the paths that it
resolves. -/
structure IsMounted (matcher : Matcher) : Prop where
  found : Path.literalPrefix? matcher.base = some matcher.mountBase
  starts : matcher.mountBase <+: matcher.base
  literal : ∀ segment ∈ Path.segments matcher.mountBase, Path.isDynamic segment = false
  whole : matcher.mountBase = matcher.base ↔ matcher.pattern.isDynamic = false
  under : ∀ path query target, matcher.resolve? path query = some target →
    Path.isUnder path matcher.mountBase

section Rooted

variable (h : matcher.base.head? = some '/')

include h

theorem mountBase_eq :
    matcher.mountBase = if Path.leading matcher.base = [] then ['/']
      else Path.ofSegments (Path.leading matcher.base) := by
  rw [mountBase, Path.literalPrefix?_eq h, Option.getD_some]

theorem mountBase_isPrefix : matcher.mountBase <+: matcher.base := by
  rw [mountBase_eq h]
  split
  · obtain ⟨rest, hrest⟩ := List.head?_eq_some_iff.1 h
    exact ⟨rest, hrest.symm⟩
  · exact ⟨_, Path.ofSegments_leading_append h⟩

/-- A mount has no dynamic segment. -/
theorem not_isDynamic_of_mem_mountBase :
    ∀ segment ∈ Path.segments matcher.mountBase, Path.isDynamic segment = false := by
  rw [mountBase_eq h]
  split
  · decide
  · have hslash : ∀ segment ∈ Path.leading matcher.base, '/' ∉ segment := by
      intro segment hsegment
      have hmem := (List.takeWhile_subset _) hsegment
      exact (Text.of_mem_split (List.mem_of_mem_tail hmem)).2
    rw [Path.segments_ofSegments hslash]
    intro segment hsegment
    exact Path.not_isDynamic_of_mem_leading hsegment

/-- The mount is the whole base path exactly if the base path is literal. -/
theorem mountBase_eq_base_iff :
    matcher.mountBase = matcher.base ↔ matcher.pattern.isDynamic = false := by
  constructor
  · intro hwhole
    rw [pattern, Pattern.isDynamic_ofBase_eq_false_iff, Path.trailing_eq_nil_iff, ← hwhole]
    exact not_isDynamic_of_mem_mountBase h
  · intro hliteral
    rw [pattern, Pattern.isDynamic_ofBase_eq_false_iff] at hliteral
    have hall := Path.leading_append_trailing matcher.base
    rw [hliteral, List.append_nil] at hall
    have hne : Path.leading matcher.base ≠ [] := by
      rw [hall]
      exact Path.segments_of_slash h
    rw [mountBase_eq h, if_neg hne, hall, Path.ofSegments_segments h]

/-- A path that the pattern takes goes on behind the leading segments with a slash. -/
theorem isUnder_of_scan? {path : Text} (hdynamic : matcher.pattern.isDynamic)
    (hscan : (matcher.pattern.scan? path).isSome) : Path.isUnder path matcher.mountBase := by
  have htrailing : Path.trailing matcher.base ≠ [] := by
    intro hnil
    rw [← Pattern.isDynamic_ofBase_eq_false_iff, ← pattern, hdynamic] at hnil
    cases hnil
  obtain ⟨segment, rest, hrest⟩ := List.exists_cons_of_ne_nil htrailing
  rw [pattern, Pattern.isSome_scan?_iff, ← Path.leading_append_trailing, hrest] at hscan
  obtain ⟨texts, hassigns⟩ := hscan
  obtain ⟨left, rfl, hleft⟩ :=
    (Path.assigns_literals fun _ hmem => Path.not_isDynamic_of_mem_leading hmem).1 hassigns
  obtain ⟨text, -, further, -, -, rfl, -⟩ :=
    (Path.assigns_dynamic (Path.isDynamic_of_trailing hrest)).1 hleft
  rw [Path.isUnder_iff, mountBase_eq h]
  split
  · exact .inl rfl
  · exact .inr (.inr ⟨text ++ further, rfl⟩)

/-- What a matcher resolves lies under its mount. -/
theorem isUnder_mountBase {path target : Text} {query : Option Text}
    (hresolve : matcher.resolve? path query = some target) :
    Path.isUnder path matcher.mountBase := by
  cases hdynamic : matcher.pattern.isDynamic with
  | false =>
    rw [(mountBase_eq_base_iff h).2 hdynamic]
    exact isUnder_of_resolve? h hdynamic hresolve
  | true =>
    have hsome : (matcher.resolve? path query).isSome := by
      rw [hresolve]
      rfl
    exact isUnder_of_scan? h hdynamic ((isSome_resolve?_iff hdynamic path query).1 hsome).2

end Rooted

/-- Every matcher whose base path belongs to a key of the slots is mounted at the literal
part of its base path. -/
theorem isMounted_of_key {key : Text} (hbase : matcher.base = baseOfKey key) :
    IsMounted matcher := by
  have hslash : matcher.base.head? = some '/' := hbase ▸ baseOfKey_head? key
  exact
    { found := by rw [mountBase, Path.literalPrefix?_eq hslash, Option.getD_some]
      starts := mountBase_isPrefix hslash
      literal := not_isDynamic_of_mem_mountBase hslash
      whole := mountBase_eq_base_iff hslash
      under := fun _ _ _ => isUnder_mountBase hslash }

/-- A rule at a base path with an empty segment before its parameter. -/
def gappedMatcher : Matcher where
  base := "/user//:id"
  rule :=
    { kind := .exact, target := "https://up.example/:id".toList, appendPath := true, status := 302,
      priority := Rule.priorityOf 1 }
  sequence := 0

theorem gappedMatcher_isMounted :
    gappedMatcher.base = baseOfKey "/user//:id/" ∧
      gappedMatcher.mountBase = "/user/".toList ∧
      gappedMatcher.resolve? "/user//7" none = some "https://up.example/7".toList ∧
      Path.isUnder "/user//7" gappedMatcher.mountBase ∧ IsMounted gappedMatcher := by
  have hbase : gappedMatcher.base = baseOfKey "/user//:id/" := by decide
  have hresolve : gappedMatcher.resolve? "/user//7" none = some "https://up.example/7".toList := by
    decide +kernel
  have hmounted := isMounted_of_key hbase
  exact ⟨hbase, by decide, hresolve, hmounted.under _ _ _ hresolve, hmounted⟩

end Matcher

end RuleGateway
