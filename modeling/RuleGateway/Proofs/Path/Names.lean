import RuleGateway.Proofs.Router.Requested

/-!
# The names in a path

What stands between the slashes of a path, where anything does, are its names. Slashes
that are repeated or at the end change none of them, and a tidy path from the root is
made of its names and nothing else. So the normal form is canonical: paths from the root
have the same one if and only if they have the same names in the same order
(`normalize_isCanonical`). Of other paths it keeps besides that they do not start at the
root (`normalize_eq_normalize_iff`).
-/

namespace RuleGateway

namespace Path

/-- The parts of a path between its slashes that are not empty. -/
def names (path : Text) : List Text := (Text.split '/' path).filter (!·.isEmpty)

variable {path other text : Text}

section Names

/-- A slash ends a name and is part of none. -/
theorem names_append_slash (front back : Text) :
    names (front ++ '/' :: back) = names front ++ names back := by
  rw [names, Text.split_append_cons, List.filter_append]
  rfl

theorem names_slash (rest : Text) : names ('/' :: rest) = names rest :=
  names_append_slash [] rest

/-- A path from the root has its names among the segments of a base path. -/
theorem names_of_rooted (h : path.head? = some '/') :
    names path = (segments path).filter (!·.isEmpty) := by
  obtain ⟨rest, rfl⟩ := List.head?_eq_some_iff.1 h
  rw [names_slash, names, segments, Text.split, if_pos rfl, List.tail_cons]

/-- Collapsed slashes end the same names. The text in front is the name that is being
read when the next character comes. -/
theorem names_append_collapse (front text : Text) :
    names (front ++ collapse text) = names (front ++ text) := by
  induction text generalizing front with
  | nil => rfl
  | cons c rest ih =>
    by_cases hc : c = '/'
    · subst hc
      have hrest : names (collapse rest) = names rest := ih []
      rw [collapse_step]
      split
      · rename_i hslashes
        obtain ⟨more, rfl⟩ := List.head?_eq_some_iff.1 hslashes.2
        rw [ih, names_append_slash, names_append_slash, names_slash]
      · rw [names_append_slash, names_append_slash, hrest]
    · rw [collapse_cons fun hslashes => hc hslashes.1, List.append_cons front c (collapse rest),
        List.append_cons front c rest, ih]

theorem names_collapse (text : Text) : names (collapse text) = names text :=
  names_append_collapse [] text

theorem names_dropFinalSlash (text : Text) : names (Text.dropFinalSlash text) = names text := by
  by_cases hlast : text.getLast? = some '/'
  · obtain ⟨front, rfl⟩ := List.getLast?_eq_some_iff.1 hlast
    rw [Text.dropFinalSlash_concat, names_append_slash]
    exact (List.append_nil _).symm
  · rw [Text.dropFinalSlash_of_ne hlast]

/-- The normal form of a path has the names of the path. -/
theorem names_normalize (path : Text) : names (normalize path) = names path := by
  by_cases hne : path = []
  · subst hne
    rfl
  by_cases hroot : collapse path = ['/']
  · rw [normalize_of_root hroot, ← hroot, names_collapse]
  · rw [normalize_of_ne hne hroot, names_dropFinalSlash, names_collapse]

end Names

section Rooted

/-- An empty segment is a slash beside another one or at the end. -/
theorem exists_slashes_of_nil_mem (h : [] ∈ segments path) (hrooted : path.head? = some '/') :
    "//".toList <:+: path ∨ "/".toList <:+ path := by
  obtain ⟨front, back, hsegments⟩ := List.append_of_mem h
  have hpath := ofSegments_segments hrooted
  rw [hsegments, ofSegments_append] at hpath
  cases back with
  | nil => exact .inr ⟨ofSegments front, hpath⟩
  | cons next back =>
    refine .inl ⟨ofSegments front, next ++ ofSegments back, ?_⟩
    rw [← hpath, List.append_assoc]
    rfl

/-- A tidy path from the root is its names, each after a slash. -/
theorem ofSegments_names (htidy : IsTidy path) (hroot : path ≠ ['/'])
    (hrooted : path.head? = some '/') : ofSegments (names path) = path := by
  obtain ⟨-, hslashes, hlast⟩ := htidy.resolve_left hroot
  have hnames : names path = segments path := by
    rw [names_of_rooted hrooted, List.filter_eq_self]
    intro segment hmem
    cases segment with
    | nil => exact absurd (exists_slashes_of_nil_mem hmem hrooted) (not_or.2 ⟨hslashes, hlast⟩)
    | cons c segment => rfl
  rw [hnames, ofSegments_segments hrooted]

end Rooted

section Canonical

theorem normalize_ne_nil (path : Text) : normalize path ≠ [] := by
  rcases isTidy_normalize path with hroot | htidy
  · rw [hroot]
    exact List.cons_ne_nil _ _
  · exact htidy.1

/-- The normal form starts as the path does. -/
theorem head?_normalize (hne : path ≠ []) : (normalize path).head? = path.head? := by
  by_cases hroot : collapse path = ['/']
  · rw [normalize_of_root hroot, ← hroot, head?_collapse]
  · have hnormal := normalize_of_ne hne hroot
    obtain ⟨rest, hrest⟩ := isPrefix_dropFinalSlash (collapse path)
    rw [← hnormal] at hrest
    rw [← head?_collapse path, ← hrest, List.head?_append_of_ne_nil _ (normalize_ne_nil path)]

/-- What does not start at the root is normalized as it is below the root. -/
theorem normalize_slash (hne : path ≠ []) (hrooted : path.head? ≠ some '/') :
    normalize ('/' :: path) = '/' :: normalize path := by
  have hroot : collapse path ≠ ['/'] := by
    intro hroot
    rw [← head?_collapse, hroot] at hrooted
    exact hrooted rfl
  rw [← List.singleton_append, normalize_append rfl hne hrooted, normalize_of_ne hne hroot,
    collapse_singleton, List.singleton_append]

theorem normalize_of_rooted (hrooted : path.head? = some '/') :
    normalize path = if names path = [] then ['/'] else ofSegments (names path) := by
  have hne : path ≠ [] := by
    rintro rfl
    cases hrooted
  rw [← names_normalize path]
  by_cases hroot : normalize path = ['/']
  · rw [hroot]
    rfl
  · have hnames := ofSegments_names (isTidy_normalize path) hroot
      ((head?_normalize hne).trans hrooted)
    have hsome : names (normalize path) ≠ [] := by
      intro hnone
      rw [hnone] at hnames
      exact normalize_ne_nil path hnames.symm
    rw [if_neg hsome, hnames]

/-- The normal form is written from the names of a path and from whether it starts at the
root. Without names it is the root in any case. -/
theorem normalize_eq_names (path : Text) :
    normalize path =
      if names path = [] then ['/']
      else if path.head? = some '/' then ofSegments (names path)
      else Text.join '/' (names path) := by
  by_cases hne : path = []
  · subst hne
    rfl
  by_cases hrooted : path.head? = some '/'
  · rw [normalize_of_rooted hrooted, if_pos hrooted]
  · have hbelow : '/' :: normalize path =
        if names path = [] then ['/'] else ofSegments (names path) := by
      rw [← normalize_slash hne hrooted, normalize_of_rooted rfl, names_slash]
    by_cases hnone : names path = []
    · rw [if_pos hnone] at hbelow
      exact absurd (List.cons.inj hbelow).2 (normalize_ne_nil path)
    · rw [if_neg hnone, ofSegments_eq_join hnone] at hbelow
      rw [if_neg hnone, if_neg hrooted, (List.cons.inj hbelow).2]

/-- Two paths have one normal form if and only if they have the same names and, unless they
have none, both start at the root or neither does. -/
theorem normalize_eq_normalize_iff :
    normalize path = normalize other ↔
      names path = names other ∧
        (names path = [] ∨ (path.head? = some '/' ↔ other.head? = some '/')) := by
  constructor
  · intro h
    have hnames : names path = names other := by
      rw [← names_normalize path, h, names_normalize]
    refine ⟨hnames, or_iff_not_imp_left.2 fun hsome => ?_⟩
    have hpath : path ≠ [] := by
      rintro rfl
      exact hsome rfl
    have hother : other ≠ [] := by
      rintro rfl
      exact hsome hnames
    rw [← head?_normalize hpath, h, head?_normalize hother]
  · rintro ⟨hnames, hrooted⟩
    rw [normalize_eq_names path, normalize_eq_names other, ← hnames]
    rcases hrooted with hnone | hrooted
    · rw [if_pos hnone, if_pos hnone]
    · simp only [hrooted]

/-- The normal form is canonical. It is the root or has no repeated slash and none at its
end, and it is its own normal form. Paths from the root have the same one if and only if
they have the same names. -/
theorem normalize_isCanonical :
    (∀ path, IsTidy (normalize path) ∧ normalize (normalize path) = normalize path) ∧
    ∀ path other : Text, path.head? = some '/' → other.head? = some '/' →
      (normalize path = normalize other ↔ names path = names other) := by
  constructor
  · intro path
    exact ⟨isTidy_normalize path, normalize_normalize path⟩
  · intro path other hpath hother
    rw [normalize_eq_normalize_iff]
    exact and_iff_left (.inr (iff_of_true hpath hother))

/-- Slashes that are repeated or at the end make no difference, and the slash between two
names does. -/
theorem normalize_isCanonical_docs :
    "/docs///api//".toList.head? = some '/' ∧ "//docs/api".toList.head? = some '/' ∧
      "/docsapi".toList.head? = some '/' ∧
      IsTidy (normalize "/docs///api//") ∧
      normalize "/docs///api//" = normalize "//docs/api" ∧
      normalize "/docs///api//" ≠ normalize "/docsapi" := by
  have hdocs : "/docs///api//".toList.head? = some '/' := by decide
  have hsame : "//docs/api".toList.head? = some '/' := by decide
  have hother : "/docsapi".toList.head? = some '/' := by decide
  refine ⟨hdocs, hsame, hother, (normalize_isCanonical.1 _).1, ?_, ?_⟩
  · exact (normalize_isCanonical.2 _ _ hdocs hsame).2 (by decide)
  · exact fun h => absurd ((normalize_isCanonical.2 _ _ hdocs hother).1 h) (by decide)

end Canonical

end Path

end RuleGateway
