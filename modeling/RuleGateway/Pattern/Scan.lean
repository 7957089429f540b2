import RuleGateway.Pattern.Basic

/-!
# Matching a pattern in one scan

Trying every way of cutting a path takes a time that grows with a power of its
length, one factor for each dynamic segment. The scan works from the end of the
pattern instead: from what the rest of a pattern takes of every ending of the
path it finds what the pattern takes of every ending, one step for each. The
main statement, `scan?_eq_captures?`, says that both find the same texts.
-/

namespace RuleGateway.Pattern

/-- The endings of a text, from the text itself to the empty one. -/
def endings : Text → List Text
  | [] => [[]]
  | c :: rest => (c :: rest) :: endings rest

/-- What a pattern takes of an ending, if it takes all of it. -/
abbrev Taken := Option (List Text)

/-- One more character in front of the first captured text. -/
def extend (c : Char) : List Text → List Text
  | [] => []
  | text :: texts => (c :: text) :: texts

/-- A new captured text in front, of as many of the given characters as
possible, at every ending of a text. The list holds what follows such a text at
every ending. -/
def runs (take : Char → Bool) : Text → List Taken → List Taken
  | c :: rest, here :: later =>
    let found := runs take rest later
    let longer := if take c then (found.head?.join).map (extend c) else none
    longer.or (here.map ([] :: ·)) :: found
  | _, entries => entries.map (·.map ([] :: ·))

/-- What follows a slash, at every ending of a text. -/
def behindSlash : Text → List Taken → List Taken
  | [], _ => [none]
  | c :: rest, entries =>
    (if c = '/' then entries.tail.head?.join else none) :: behindSlash rest entries.tail

/-- What follows a literal text, at every ending of a text. -/
def behindText (text : Text) : Text → List Taken → List Taken
  | path, entries =>
    let here := if Text.startsWith path text then (entries.drop text.length).head?.join else none
    match path with
    | [] => [here]
    | _ :: rest => here :: behindText text rest entries.tail

/-- The entries of a text that may not be empty: one character of it is taken
before the longest run of the rest. -/
def nonempty (take : Char → Bool) : Text → List Taken → List Taken
  | [], _ => [none]
  | c :: rest, found =>
    (if take c then (found.tail.head?.join).map (extend c) else none) ::
      nonempty take rest found.tail

/-- What the pattern takes of every ending of the path. -/
def table : Pattern → Text → List Taken
  | [], path => (endings path).map fun ending => if ending.isEmpty then some [] else none
  | .literal text :: pattern, path => behindSlash path (behindText text path (table pattern path))
  | .wildcard :: pattern, path => behindSlash path (runs (· != '\n') path (table pattern path))
  | .param _ :: pattern, path =>
    behindSlash path (nonempty (· != '/') path (runs (· != '/') path (table pattern path)))

/-- The texts that the dynamic segments take when the pattern takes the whole
path. Literal segments at the start are compared before a table is made. -/
def scan? : Pattern → Text → Taken
  | .literal text :: pattern, '/' :: path => (Text.after? text path).bind (scan? pattern)
  | pattern, path => (table pattern path).head?.join

/-- A table has one entry for each ending. -/
def tabulate (f : Text → Taken) (path : Text) : List Taken := (endings path).map f

theorem tabulate_cons (f : Text → Taken) (c : Char) (rest : Text) :
    tabulate f (c :: rest) = f (c :: rest) :: tabulate f rest := rfl

theorem head?_tabulate (f : Text → Taken) (path : Text) :
    (tabulate f path).head? = some (f path) := by
  cases path <;> rfl

/-- The first way of cutting a text in two, longest first part first, after
which the rest is taken. -/
def cutFirst? (take : Char → Bool) (f : Text → Taken) (text : Text) : Taken :=
  (splits take text).findSome? fun (taken, left) => (f left).map (taken :: ·)

theorem findSome?_extend (f : Text → Taken) (c : Char) (cuts : List (Text × Text)) :
    (cuts.map fun (taken, left) => (c :: taken, left)).findSome?
        (fun (taken, left) => (f left).map (taken :: ·)) =
      (cuts.findSome? fun (taken, left) => (f left).map (taken :: ·)).map (extend c) := by
  rw [List.findSome?_map, List.map_findSome?]
  congr 1
  funext ⟨taken, left⟩
  cases h : f left <;> simp [h, extend]

theorem cutFirst?_cons (take : Char → Bool) (f : Text → Taken) (c : Char) (rest : Text) :
    cutFirst? take f (c :: rest) =
      (if take c then (cutFirst? take f rest).map (extend c) else none).or
        ((f (c :: rest)).map ([] :: ·)) := by
  unfold cutFirst?
  by_cases h : take c
  · simp only [splits, h, if_true, List.findSome?_append, findSome?_extend]
    cases hf : f (c :: rest) <;> simp [hf]
  · cases hf : f (c :: rest) <;> simp [splits, h, hf]

theorem runs_tabulate (take : Char → Bool) (f : Text → Taken) (path : Text) :
    runs take path (tabulate f path) = tabulate (cutFirst? take f) path := by
  induction path with
  | nil => cases hf : f [] <;> simp [runs, tabulate, endings, cutFirst?, splits, hf]
  | cons c rest ih =>
    simp only [tabulate_cons, runs, ih, head?_tabulate, Option.join_some, cutFirst?_cons]

/-- The first way of cutting a text in two parts of which the first is not
empty. -/
def cutNonempty? (take : Char → Bool) (f : Text → Taken) (text : Text) : Taken :=
  (splits take text).findSome? fun (taken, left) =>
    if taken.isEmpty then none else (f left).map (taken :: ·)

theorem cutNonempty?_cons (take : Char → Bool) (f : Text → Taken) (c : Char) (rest : Text) :
    cutNonempty? take f (c :: rest) =
      if take c then (cutFirst? take f rest).map (extend c) else none := by
  unfold cutNonempty? cutFirst?
  by_cases h : take c
  · rw [← findSome?_extend]
    simp [splits, h, List.findSome?_append, List.findSome?_map, Function.comp_def]
  · simp [splits, h]

theorem nonempty_tabulate (take : Char → Bool) (f : Text → Taken) (path : Text) :
    nonempty take path (tabulate (cutFirst? take f) path) =
      tabulate (cutNonempty? take f) path := by
  induction path with
  | nil => simp [nonempty, tabulate, endings, cutNonempty?, splits]
  | cons c rest ih =>
    simp only [tabulate_cons, nonempty, List.tail_cons, ih, head?_tabulate, Option.join_some,
      cutNonempty?_cons]

theorem behindSlash_tabulate (f : Text → Taken) (path : Text) :
    behindSlash path (tabulate f path) =
      tabulate (fun ending => match ending with | '/' :: rest => f rest | _ => none) path := by
  induction path with
  | nil => rfl
  | cons c rest ih =>
    simp only [tabulate_cons, behindSlash, List.tail_cons, head?_tabulate, Option.join_some, ih]
    by_cases h : c = '/'
    · simp [h]
    · simp only [h, if_false, List.cons.injEq, and_true]
      split
      · next heq => simp_all
      · rfl

theorem drop_tabulate (f : Text → Taken) (lead rest : Text) :
    (tabulate f (lead ++ rest)).drop lead.length = tabulate f rest := by
  induction lead with
  | nil => rfl
  | cons c lead ih => simpa [tabulate_cons] using ih

theorem behindText_entry (f : Text → Taken) (text path : Text) :
    (if Text.startsWith path text then ((tabulate f path).drop text.length).head?.join
      else none) = (Text.after? text path).bind f := by
  unfold Text.startsWith
  cases h : Text.after? text path with
  | none => simp
  | some rest =>
    rw [Text.after?_eq_some_iff.1 h, drop_tabulate, head?_tabulate]
    simp

theorem behindText_tabulate (f : Text → Taken) (text path : Text) :
    behindText text path (tabulate f path) =
      tabulate (fun ending => (Text.after? text ending).bind f) path := by
  induction path with
  | nil =>
    unfold behindText
    rw [behindText_entry]
    rfl
  | cons c rest ih =>
    unfold behindText
    simp only [behindText_entry]
    simp only [tabulate_cons, List.tail_cons, ih]

theorem captures?_of_not_slash (segment : Segment) (pattern : Pattern) (path : Text)
    (h : ∀ rest, path ≠ '/' :: rest) : captures? (segment :: pattern) path = none := by
  unfold captures?
  split <;> simp_all

/-- The entries of a table are what the pattern takes of each ending. -/
theorem table_eq_tabulate (pattern : Pattern) (path : Text) :
    table pattern path = tabulate (captures? pattern) path := by
  induction pattern with
  | nil =>
    simp only [table, tabulate]
    congr 1
    funext ending
    cases ending <;> rfl
  | cons segment pattern ih =>
    cases segment <;>
      simp only [table, ih, behindText_tabulate, runs_tabulate, nonempty_tabulate,
        behindSlash_tabulate] <;>
      congr 1 <;> funext ending <;> split <;>
      first
        | rfl
        | exact (captures?_of_not_slash _ _ _ (by assumption)).symm

/-- The scan finds what trying every cut finds. -/
theorem scan?_eq_captures? (pattern : Pattern) (path : Text) :
    scan? pattern path = captures? pattern path := by
  induction pattern generalizing path with
  | nil => simp [scan?, table_eq_tabulate, head?_tabulate]
  | cons segment pattern ih =>
    unfold scan?
    split
    · next heq =>
      obtain ⟨rfl, rfl⟩ := List.cons.inj heq
      simp only [captures?]
      congr 1
      funext rest
      exact ih rest
    · simp [table_eq_tabulate, head?_tabulate]

end RuleGateway.Pattern
