import RuleGateway.Proofs.Pattern.Assignment
import RuleGateway.Proofs.Router.Nesting

/-!
# Base paths as expressions

A matching engine is given a base path as an expression: captured runs for the
dynamic segments, and the other characters escaped where the syntax of expressions
would read them otherwise. The engine reads the expression and searches a path
from left to right, longer runs first. The main statement is `scan?_greediest`:
what the engine finds is what the scan of the pattern finds, whatever characters
the literal segments have, and it is the greediest assignment of texts to the
dynamic segments.
-/

namespace RuleGateway

namespace Expression

/-- A part of an expression: the start of the text, its end, a character, or a
captured run of characters other than one, which may have to be there. -/
inductive Item where
  | start
  | stop
  | char (c : Char)
  | run (required : Bool) (except : Char)
  deriving DecidableEq, Repr

section Syntax

/-- The characters that the syntax of expressions gives a meaning. -/
def metaCharacters : Text := "\\.+*?()|[]\x7b\x7d^$#&-~"

/-- Whether a character stands for itself only behind a backslash. -/
def isMeta (c : Char) : Bool := metaCharacters.contains c

/-- A text in which every character stands for itself. -/
def escape (text : Text) : Text := text.flatMap fun c => if isMeta c then ['\\', c] else [c]

/-- The expression of a segment. -/
def ofSegment (segment : Text) : Text :=
  if segment = ['*'] then "(.*)"
  else
    match segment with
    | ':' :: _ => "([^/]+)"
    | _ => escape segment

/-- The expression of a base path. -/
def ofBase (base : Text) : Text :=
  '^' :: (if base = ['/'] then ['/']
    else (Path.segments base).flatMap fun segment => '/' :: ofSegment segment) ++ ['$']

/-- The items that an expression is read as, none if it is written in a part of the
syntax that base paths do not need. A dot is any character but a line break. -/
def read? : Text → Option (List Item)
  | [] => some []
  | '\\' :: c :: rest => if isMeta c then (read? rest).map (.char c :: ·) else none
  | '(' :: '.' :: '*' :: ')' :: rest => (read? rest).map (.run false '\n' :: ·)
  | '(' :: '.' :: '+' :: ')' :: rest => (read? rest).map (.run true '\n' :: ·)
  | '(' :: '[' :: '^' :: c :: ']' :: '*' :: ')' :: rest =>
    if isMeta c then none else (read? rest).map (.run false c :: ·)
  | '(' :: '[' :: '^' :: c :: ']' :: '+' :: ')' :: rest =>
    if isMeta c then none else (read? rest).map (.run true c :: ·)
  | '^' :: rest => (read? rest).map (.start :: ·)
  | '$' :: rest => (read? rest).map (.stop :: ·)
  | c :: rest => if isMeta c then none else (read? rest).map (.char c :: ·)

end Syntax

section Search

/-- The captured runs of every way to match the items at the front of a text, in
the order in which they are tried. The flag says whether nothing of the text was
read before. -/
def ways : List Item → Bool → Text → List (List Text)
  | [], _, _ => [[]]
  | .start :: items, fresh, text => if fresh then ways items fresh text else []
  | .stop :: items, fresh, text => if text.isEmpty then ways items fresh text else []
  | .char c :: items, _, text =>
    match text with
    | [] => []
    | d :: rest => if c = d then ways items false rest else []
  | .run required except :: items, fresh, text =>
    (Pattern.splits (· != except) text).flatMap fun (taken, left) =>
      if required && taken.isEmpty then []
      else (ways items (fresh && taken.isEmpty) left).map (taken :: ·)

/-- The first match from some place of a text on. -/
def searchFrom (items : List Item) : Bool → Text → Option (List Text)
  | fresh, [] => (ways items fresh []).head?
  | fresh, c :: rest => (ways items fresh (c :: rest)).head?.or (searchFrom items false rest)

/-- The captured runs of the first match in a text. -/
def search (items : List Item) (text : Text) : Option (List Text) := searchFrom items true text

end Search

section Reading

theorem read?_char {c : Char} (h : isMeta c = false) (rest : Text) :
    read? (c :: rest) = (read? rest).map (.char c :: ·) := by
  conv =>
    lhs
    unfold read?
  split
  case h_1 heq => cases heq
  case h_9 heq =>
    cases heq
    rw [h]
    rfl
  all_goals
    rename_i heq
    cases heq
    contradiction

theorem read?_escaped {c : Char} (h : isMeta c) (rest : Text) :
    read? ('\\' :: c :: rest) = (read? rest).map (.char c :: ·) :=
  if_pos h

theorem read?_wildcard (rest : Text) :
    read? ('(' :: '.' :: '*' :: ')' :: rest) = (read? rest).map (.run false '\n' :: ·) := rfl

theorem read?_param (rest : Text) :
    read? ('(' :: '[' :: '^' :: '/' :: ']' :: '+' :: ')' :: rest) =
      (read? rest).map (.run true '/' :: ·) := rfl

theorem read?_start (rest : Text) : read? ('^' :: rest) = (read? rest).map (.start :: ·) := rfl

theorem read?_escape (text rest : Text) :
    read? (escape text ++ rest) = (read? rest).map (text.map .char ++ ·) := by
  induction text with
  | nil => simp [escape]
  | cons c text ih =>
    rw [escape, List.flatMap_cons, List.append_assoc, ← escape]
    by_cases hc : isMeta c
    · rw [if_pos hc]
      change read? ('\\' :: c :: (escape text ++ rest)) = _
      rw [read?_escaped hc, ih, Option.map_map]
      rfl
    · rw [if_neg hc]
      change read? (c :: (escape text ++ rest)) = _
      rw [read?_char (by simpa using hc), ih, Option.map_map]
      rfl

/-- The items of a segment. -/
def itemsOf : Segment → List Item
  | .literal text => .char '/' :: text.map .char
  | .wildcard => [.char '/', .run false '\n']
  | .param _ => [.char '/', .run true '/']

/-- The items of a pattern. -/
def items (pattern : Pattern) : List Item := .start :: (pattern.flatMap itemsOf ++ [.stop])

theorem read?_ofSegment (segment rest : Text) :
    read? ('/' :: (ofSegment segment ++ rest)) =
      (read? rest).map (itemsOf (Segment.ofText segment) ++ ·) := by
  have hslash : isMeta '/' = false := by decide
  rw [read?_char hslash]
  by_cases hdynamic : Path.isDynamic segment
  · rcases Path.isDynamic_iff.1 hdynamic with rfl | ⟨name, rfl⟩
    · change (read? ('(' :: '.' :: '*' :: ')' :: rest)).map _ = _
      rw [read?_wildcard, Option.map_map]
      rfl
    · have hexpression : ofSegment (':' :: name) = "([^/]+)" := if_neg (by simp)
      rw [hexpression]
      change (read? ('(' :: '[' :: '^' :: '/' :: ']' :: '+' :: ')' :: rest)).map _ = _
      rw [read?_param, Segment.ofText_param, Option.map_map]
      rfl
  · rw [Bool.not_eq_true] at hdynamic
    have hexpression : ofSegment segment = escape segment := by
      rw [Bool.eq_false_iff, ne_eq, Path.isDynamic_iff, not_or, not_exists] at hdynamic
      unfold ofSegment
      rw [if_neg hdynamic.1]
      split
      · rename_i name
        exact absurd rfl (hdynamic.2 name)
      · rfl
    rw [hexpression, read?_escape, Segment.ofText_literal hdynamic, Option.map_map]
    rfl

/-- The expression of a base path is read as the items of its pattern. -/
theorem read?_ofBase (base : Text) : read? (ofBase base) = some (items (Pattern.ofBase base)) := by
  have hstop : read? ['$'] = some [.stop] := by decide
  have hsegments (segments : List Text) :
      read? ((segments.flatMap fun segment => '/' :: ofSegment segment) ++ ['$']) =
        some ((segments.map Segment.ofText).flatMap itemsOf ++ [.stop]) := by
    induction segments with
    | nil => exact hstop
    | cons segment segments ih =>
      rw [List.flatMap_cons, List.append_assoc, List.cons_append, read?_ofSegment, ih,
        List.map_cons, List.flatMap_cons, List.append_assoc]
      rfl
  by_cases hroot : base = ['/']
  · subst hroot
    decide
  · rw [ofBase, if_neg hroot, List.cons_append, read?_start, hsegments]
    rfl

end Reading

section Matching

variable {items : List Item} {fresh : Bool}

/-- Characters match themselves. -/
theorem head?_ways_chars (text path : Text) :
    (ways (text.map .char ++ items) fresh path).head? =
      (Text.after? text path).bind fun left => (ways items (fresh && text.isEmpty) left).head? := by
  induction text generalizing fresh path with
  | nil => simp [Text.after?]
  | cons c text ih =>
    cases path with
    | nil => rfl
    | cons d path =>
      rw [List.map_cons, List.cons_append, ways, Text.after?]
      by_cases hsame : c = d
      · simp only [if_pos hsame, ih, Bool.false_and, List.isEmpty_cons, Bool.and_false]
      · simp only [if_neg hsame, List.head?_nil, Option.bind_none]

/-- A run tries the ways of cutting a text, the longest first. -/
theorem head?_ways_run (required : Bool) (except : Char) (path : Text) :
    (ways (.run required except :: items) fresh path).head? =
      (Pattern.splits (· != except) path).findSome? fun (taken, left) =>
        if required && taken.isEmpty then none
        else (ways items (fresh && taken.isEmpty) left).head?.map (taken :: ·) := by
  rw [ways, List.head?_flatMap]
  congr 1
  funext ⟨taken, left⟩
  dsimp only
  split
  · rfl
  · rw [List.head?_map]

theorem ways_slash (rest : Text) :
    ways (.char '/' :: items) fresh ('/' :: rest) = ways items false rest := by
  rw [ways]
  exact if_pos rfl

theorem ways_not_slash {path : Text} (h : ∀ rest, path ≠ '/' :: rest) :
    ways (.char '/' :: items) fresh path = [] := by
  cases path with
  | nil => rfl
  | cons d rest =>
    rw [ways]
    refine if_neg ?_
    rintro rfl
    exact h rest rfl

/-- The first way to match the items of a pattern captures what the pattern does. -/
theorem head?_ways_pattern (pattern : Pattern) (path : Text) :
    (ways (pattern.flatMap itemsOf ++ [.stop]) fresh path).head? = pattern.captures? path := by
  induction pattern generalizing fresh path with
  | nil => cases path <;> rfl
  | cons segment pattern ih =>
    have hfront : ∃ rest, itemsOf segment = .char '/' :: rest := by
      cases segment <;> exact ⟨_, rfl⟩
    rw [List.flatMap_cons, List.append_assoc]
    by_cases hslash : ∃ rest, path = '/' :: rest
    · obtain ⟨rest, rfl⟩ := hslash
      cases segment with
      | literal text =>
        rw [itemsOf, List.cons_append, ways_slash]
        change (ways (text.map .char ++ _) false rest).head? = _
        simp only [head?_ways_chars, ih, Pattern.captures?]
      | wildcard =>
        change (ways (.char '/' :: .run false '\n' :: (pattern.flatMap itemsOf ++ [.stop])) fresh
          ('/' :: rest)).head? = _
        rw [ways_slash]
        simp only [head?_ways_run, ih, Pattern.captures?, Bool.false_and, Bool.false_eq_true,
          if_false]
      | param name =>
        change (ways (.char '/' :: .run true '/' :: (pattern.flatMap itemsOf ++ [.stop])) fresh
          ('/' :: rest)).head? = _
        rw [ways_slash]
        simp only [head?_ways_run, ih, Pattern.captures?, Bool.true_and]
    · have hnot (rest : Text) : path ≠ '/' :: rest := fun hrest => hslash ⟨rest, hrest⟩
      obtain ⟨items, hitems⟩ := hfront
      rw [Pattern.captures?_of_not_slash _ _ _ hnot, hitems, List.cons_append, ways_not_slash hnot]
      rfl

/-- Nothing that starts at the start of a text is found further on. -/
theorem searchFrom_start (text : Text) : searchFrom (.start :: items) false text = none := by
  induction text with
  | nil => rfl
  | cons c rest ih =>
    rw [searchFrom, ih]
    rfl

/-- The search finds what the pattern captures. -/
theorem search_items (pattern : Pattern) (path : Text) :
    search (Expression.items pattern) path = pattern.captures? path := by
  have hfirst : (ways (Expression.items pattern) true path).head? = pattern.captures? path :=
    head?_ways_pattern pattern path
  rw [← hfirst, search]
  cases path with
  | nil => rfl
  | cons c rest =>
    rw [searchFrom, Expression.items, searchFrom_start, Option.or_none]

end Matching

end Expression

namespace Pattern

open RuleGateway.Path

/-- The engine finds in a path what the scan does. A pattern takes a path if there
are texts for the dynamic segments of the base path that make it the path, the
captured texts are the greediest such texts, and a base path without dynamic
segments takes itself alone. -/
theorem scan?_greediest {base : Text} (h : base.head? = some '/') (path : Text) :
    (∃ items, Expression.read? (Expression.ofBase base) = some items ∧
      Expression.search items path = (ofBase base).scan? path) ∧
    (((ofBase base).scan? path).isSome ↔ ∃ texts, Assigns (segments base) texts path) ∧
    (∀ texts, (ofBase base).scan? path = some texts ↔
      IsGreediest (segments base) texts path) ∧
    ((∀ segment ∈ segments base, Path.isDynamic segment = false) →
      (((ofBase base).scan? path).isSome ↔ path = base)) := by
  have hgreediest (texts : List Text) : (ofBase base).scan? path = some texts ↔
      IsGreediest (segments base) texts path := by
    rw [scan?_eq_captures?]
    exact captures?_eq_some_iff
  refine ⟨⟨_, Expression.read?_ofBase base, ?_⟩, isSome_scan?_iff, hgreediest, ?_⟩
  · rw [scan?_eq_captures?]
    exact Expression.search_items _ path
  · intro hliteral
    have hpattern : (ofBase base).isDynamic = false := by
      refine List.any_eq_false.2 fun segment hsegment => ?_
      obtain ⟨text, htext, rfl⟩ := List.mem_map.1 hsegment
      rw [Segment.ofText_literal (hliteral text htext)]
      exact Bool.false_ne_true
    rw [scan?_eq_captures?, captures?_of_not_isDynamic h hpattern]
    by_cases hpath : path = base
    · simp [hpath]
    · simp [hpath]

/-- Two wildcards compete for a path: the first takes all but the last segment. -/
theorem twoWildcards_greediest :
    "/v1.0/*/*".toList.head? = some '/' ∧
      Expression.ofBase "/v1.0/*/*".toList = "^/v1\\.0/(.*)/(.*)$".toList ∧
      (ofBase "/v1.0/*/*".toList).scan? "/v1.0/a/b/c".toList =
        some ["a/b".toList, "c".toList] ∧
      IsGreediest (segments "/v1.0/*/*".toList) ["a/b".toList, "c".toList] "/v1.0/a/b/c".toList := by
  have hslash : "/v1.0/*/*".toList.head? = some '/' := by decide
  have hscan : (ofBase "/v1.0/*/*".toList).scan? "/v1.0/a/b/c".toList =
      some ["a/b".toList, "c".toList] := by decide +kernel
  obtain ⟨-, -, hgreediest, -⟩ := scan?_greediest hslash "/v1.0/a/b/c".toList
  exact ⟨hslash, by decide, hscan, (hgreediest _).1 hscan⟩

end Pattern

end RuleGateway
