import Mathlib.Data.List.Infix
import RuleGateway.Proofs.Router.Ranking
import RuleGateway.Proofs.Text.Runs

/-!
# Literal base paths

A base path without dynamic segments accepts itself and, for a subtree rule, what
lies below it. Two such base paths that accept the same path are therefore
nested: `nested_of_isUnder` says that they have different lengths and that the
segments of the shorter one are the first segments of the longer one.
-/

namespace RuleGateway

namespace Path

/-- The segments of a base path. The root has none. -/
def steps (base : Text) : List Text := if base = ['/'] then [] else segments base

theorem ofSegments_eq_join {segments : List Text} (h : segments ≠ []) :
    ofSegments segments = '/' :: Text.join '/' segments := by
  induction segments with
  | nil => contradiction
  | cons segment rest ih =>
    cases rest with
    | nil => simp [ofSegments, Text.join]
    | cons next rest => simpa [ofSegments, Text.join] using ih (by simp)

/-- A path from the root is its segments, each after a slash. -/
theorem ofSegments_segments {base : Text} (h : base.head? = some '/') :
    ofSegments (segments base) = base := by
  obtain ⟨rest, rfl⟩ := List.head?_eq_some_iff.1 h
  have hsegments : segments ('/' :: rest) = Text.split '/' rest := by simp [segments, Text.split]
  rw [hsegments, ofSegments_eq_join (Text.split_ne_nil '/' rest), Text.join_split]

theorem segments_append_cons (front back : Text) :
    segments (front ++ '/' :: back) = segments front ++ Text.split '/' back := by
  rw [segments, Text.split_append_cons, List.tail_append_of_ne_nil (Text.split_ne_nil '/' front),
    segments]

theorem ofSegments_append (front back : List Text) :
    ofSegments (front ++ back) = ofSegments front ++ ofSegments back :=
  List.flatMap_append

theorem segments_of_slash {path : Text} (h : path.head? = some '/') : segments path ≠ [] := by
  obtain ⟨rest, rfl⟩ := List.head?_eq_some_iff.1 h
  simpa [segments, Text.split] using Text.split_ne_nil '/' rest

theorem segments_append {back : Text} (h : back.head? = some '/') (front : Text) :
    segments (front ++ back) = segments front ++ segments back := by
  obtain ⟨rest, rfl⟩ := List.head?_eq_some_iff.1 h
  have hback : segments ('/' :: rest) = Text.split '/' rest := by simp [segments, Text.split]
  rw [segments_append_cons, hback]

theorem segments_ofSegments {kept : List Text} (h : ∀ segment ∈ kept, '/' ∉ segment) :
    segments (ofSegments kept) = kept := by
  induction kept with
  | nil => rfl
  | cons segment kept ih =>
    have hsegment : segments ('/' :: segment) = [segment] := by
      rw [segments, Text.split, if_pos rfl, List.tail_cons,
        Text.split_of_not_mem (h segment List.mem_cons_self)]
    have hkept := ih fun other hother => h other (List.mem_cons_of_mem _ hother)
    have hcons : ofSegments (segment :: kept) = ('/' :: segment) ++ ofSegments kept := rfl
    cases kept with
    | nil => simpa [ofSegments] using hsegment
    | cons next kept => rw [hcons, segments_append rfl, hsegment, hkept, List.singleton_append]

theorem isUnder_iff {path base : Text} :
    isUnder path base ↔ base = ['/'] ∨ path = base ∨ ∃ rest, path = base ++ '/' :: rest := by
  rw [isUnder, Bool.or_eq_true, Bool.or_eq_true, beq_iff_eq, beq_iff_eq, or_assoc]
  refine or_congr Iff.rfl (or_congr Iff.rfl ?_)
  cases hafter : Text.after? base path with
  | none =>
    refine ⟨fun h => by contradiction, ?_⟩
    rintro ⟨rest, rfl⟩
    rw [Text.after?_append] at hafter
    contradiction
  | some rest =>
    obtain rfl := Text.after?_eq_some_iff.1 hafter
    simp [List.head?_eq_some_iff]

theorem isUnder_self (path : Text) : isUnder path path :=
  isUnder_iff.2 (.inr (.inl rfl))

/-- A path under a base path other than the root, with a slash behind it, starts
with the base path and a slash. -/
theorem prefix_of_isUnder {path base : Text} (h : isUnder path base) (hroot : base ≠ ['/']) :
    base ++ ['/'] <+: path ++ ['/'] := by
  rcases isUnder_iff.1 h with rfl | rfl | ⟨rest, rfl⟩
  · contradiction
  · exact List.prefix_rfl
  · exact ⟨rest ++ ['/'], by simp⟩

theorem isUnder_of_isPrefix {path base : Text} (h : base ++ ['/'] <+: path ++ ['/']) :
    isUnder path base := by
  obtain ⟨rest, hrest⟩ := h
  rw [isUnder_iff]
  rcases List.eq_nil_or_concat rest with rfl | ⟨init, last, rfl⟩
  · rw [List.append_nil] at hrest
    exact .inr (.inl (List.append_cancel_right hrest).symm)
  · rw [List.concat_eq_append, ← List.append_assoc] at hrest
    have hpath := (List.append_inj' hrest rfl).1
    exact .inr (.inr ⟨init, by rw [← hpath, List.append_assoc, List.singleton_append]⟩)

/-- Base paths that a path lies under lie under each other, one way or the other. -/
theorem isUnder_total {path a b : Text} (ha : isUnder path a) (hb : isUnder path b) :
    isUnder a b ∨ isUnder b a := by
  by_cases hroot : b = ['/']
  · exact .inl (isUnder_iff.2 (.inl hroot))
  by_cases hroot' : a = ['/']
  · exact .inr (isUnder_iff.2 (.inl hroot'))
  have hpa := prefix_of_isUnder ha hroot'
  have hpb := prefix_of_isUnder hb hroot
  rcases List.prefix_or_prefix_of_prefix hpa hpb with hab | hba
  · exact .inr (isUnder_of_isPrefix hab)
  · exact .inl (isUnder_of_isPrefix hba)

theorem length_lt_of_isUnder {path base : Text} (hpath : path.head? = some '/')
    (h : isUnder path base) (hne : path ≠ base) : base.length < path.length := by
  rcases isUnder_iff.1 h with rfl | hsame | ⟨rest, rfl⟩
  · obtain ⟨rest, rfl⟩ := List.head?_eq_some_iff.1 hpath
    cases rest with
    | nil => contradiction
    | cons c rest => simp
  · contradiction
  · simp

/-- A path under a base path goes on behind the segments of the base path. -/
theorem steps_prefix_of_isUnder {path base : Text} (hbase : base.head? = some '/')
    (h : isUnder path base) : steps base <+: steps path := by
  by_cases hroot : base = ['/']
  · rw [steps, if_pos hroot]
    exact List.nil_prefix
  rcases isUnder_iff.1 h with hslash | rfl | ⟨rest, rfl⟩
  · contradiction
  · exact List.prefix_rfl
  · have hlonger : base ++ '/' :: rest ≠ ['/'] := by
      obtain ⟨more, rfl⟩ := List.head?_eq_some_iff.1 hbase
      simp
    rw [steps, steps, if_neg hroot, if_neg hlonger, segments_append_cons]
    exact List.prefix_append _ _

/-- Two base paths that a path lies under are nested. -/
theorem nested_of_isUnder {path a b : Text} (ha : a.head? = some '/') (hb : b.head? = some '/')
    (hunder : isUnder path a) (hunder' : isUnder path b) (hne : a ≠ b) :
    a.length ≠ b.length ∧ (b.length < a.length → steps b <+: steps a) := by
  rcases isUnder_total hunder hunder' with hab | hba
  · have hlonger := length_lt_of_isUnder ha hab hne
    exact ⟨Nat.ne_of_gt hlonger, fun _ => steps_prefix_of_isUnder hb hab⟩
  · have hshorter := length_lt_of_isUnder hb hba hne.symm
    exact ⟨Nat.ne_of_lt hshorter, fun hlt => absurd hlt (Nat.lt_asymm hshorter)⟩

end Path

namespace Pattern

theorem captures?_literals (texts : List Text) (path : Text) :
    captures? (texts.map .literal) path =
      if path = Path.ofSegments texts then some [] else none := by
  induction texts generalizing path with
  | nil => cases path <;> simp [captures?, Path.ofSegments]
  | cons text texts ih =>
    have hsegments : Path.ofSegments (text :: texts) = '/' :: (text ++ Path.ofSegments texts) := by
      simp [Path.ofSegments]
    rw [hsegments, List.map_cons]
    by_cases hslash : ∃ rest, path = '/' :: rest
    · obtain ⟨rest, rfl⟩ := hslash
      rw [captures?]
      cases hafter : Text.after? text rest with
      | none =>
        have hne : rest ≠ text ++ Path.ofSegments texts := by
          rintro rfl
          rw [Text.after?_append] at hafter
          contradiction
        simp [hne]
      | some left =>
        rw [Text.after?_eq_some_iff.1 hafter, Option.bind_some, ih]
        simp
    · rw [captures?_of_not_slash _ _ _ fun rest hrest => hslash ⟨rest, hrest⟩, if_neg]
      rintro rfl
      exact hslash ⟨_, rfl⟩

/-- The pattern of a base path without dynamic segments is made of its segments. -/
theorem ofBase_of_not_isDynamic {base : Text} (h : (ofBase base).isDynamic = false) :
    ofBase base = (Path.segments base).map .literal := by
  have hliteral (text : Text) (h : (Segment.ofText text).isDynamic = false) :
      Segment.ofText text = .literal text := by
    unfold Segment.ofText at h ⊢
    split at h
    · contradiction
    · rename_i hstar
      rw [if_neg hstar]
      split at h
      · contradiction
      · rfl
  rw [ofBase]
  apply List.map_congr_left
  intro text htext
  have hall := List.any_eq_false.1 h
  exact hliteral text (Bool.eq_false_iff.2 (hall _ (List.mem_map_of_mem htext)))

/-- A base path without dynamic segments takes itself alone. -/
theorem captures?_of_not_isDynamic {base : Text} (hbase : base.head? = some '/')
    (h : (ofBase base).isDynamic = false) (path : Text) :
    captures? (ofBase base) path = if path = base then some [] else none := by
  rw [ofBase_of_not_isDynamic h, captures?_literals, Path.ofSegments_segments hbase]

end Pattern

namespace Matcher

/-- What follows a base path starts with a slash, if anything follows. -/
theorem remainder?_eq_some {base path rest : Text} (h : remainder? base path = some rest) :
    base = ['/'] ∧ (rest = path ∨ path = ['/'] ∧ rest = []) ∨
      base ≠ ['/'] ∧ path = base ++ rest ∧ (rest = [] ∨ rest.head? = some '/') := by
  rw [remainder?] at h
  split at h
  · rename_i hroot
    cases h
    by_cases hpath : path = ['/'] <;> simp [hroot, hpath]
  · rename_i hroot
    split at h
    · rename_i hpath
      cases h
      exact .inr ⟨hroot, by simp [hpath], .inl rfl⟩
    · obtain ⟨hrest, hslash⟩ := Option.filter_eq_some_iff.1 h
      exact .inr ⟨hroot, Text.after?_eq_some_iff.1 hrest, .inr (eq_of_beq hslash)⟩

theorem isUnder_of_remainder? {base path rest : Text} (h : remainder? base path = some rest) :
    Path.isUnder path base := by
  rw [Path.isUnder_iff]
  rcases remainder?_eq_some h with ⟨hroot, -⟩ | ⟨-, rfl, rfl | hslash⟩
  · exact .inl hroot
  · exact .inr (.inl (List.append_nil base))
  · obtain ⟨rest, rfl⟩ := List.head?_eq_some_iff.1 hslash
    exact .inr (.inr ⟨rest, rfl⟩)

/-- The two ways in which a matcher comes to a target: its pattern takes the
path, or a literal subtree rule carries over what follows the base path. -/
theorem target?_eq_some {matcher : Matcher} {path target : Text}
    (h : matcher.target? path = some target) :
    (∃ captures, matcher.pattern.captures? path = some captures ∧
      target = Template.fill matcher.pattern matcher.rule.target captures) ∨
    matcher.pattern.captures? path = none ∧ matcher.rule.kind = .subtree ∧
      matcher.pattern.isDynamic = false ∧ matcher.resolveBelow? path = some target := by
  rw [target?, Pattern.scan?_eq_captures?] at h
  split at h
  · contradiction
  · split at h
    · rename_i captures hcaptures
      exact .inl ⟨captures, hcaptures, (Option.some.inj h).symm⟩
    · rename_i hnone
      obtain ⟨⟨hkind, hliteral⟩, hbelow⟩ := Option.ite_none_right_eq_some.1 h
      exact .inr ⟨hnone, hkind, hliteral, hbelow⟩

/-- What a literal base path accepts lies under it. -/
theorem isUnder_of_resolve? {matcher : Matcher} {path target : Text} {query : Option Text}
    (hbase : matcher.base.head? = some '/') (hliteral : matcher.pattern.isDynamic = false)
    (h : matcher.resolve? path query = some target) : Path.isUnder path matcher.base := by
  obtain ⟨found, hfound, -⟩ := Option.map_eq_some_iff.1 h
  rcases target?_eq_some hfound with ⟨captures, hcaptures, -⟩ | ⟨-, -, -, hbelow⟩
  · rw [pattern, Pattern.captures?_of_not_isDynamic hbase hliteral] at hcaptures
    obtain ⟨hpath, -⟩ := Option.ite_none_right_eq_some.1 hcaptures
    exact Path.isUnder_iff.2 (.inr (.inl hpath))
  · obtain ⟨rest, hrest, -⟩ := Option.map_eq_some_iff.1 hbelow
    exact isUnder_of_remainder? hrest

end Matcher

end RuleGateway
