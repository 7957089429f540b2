import RuleGateway.Proofs.Url.Web

/-!
# How a web address is cut

The text of a web address is an opening, with the scheme and the slashes behind it, the
zone that names somebody, a path, and a tail with the query and the fragment. Each of
them is read by itself (`IsCut.parse_eq`), so that an address may be read again with
another path or another tail, and every text that is read as a web address is cut in this
way (`exists_isCut`).
-/

namespace RuleGateway.Url

open Percent

section Cut

/-- The parts of a clean text that is read as a web address. -/
structure IsCut (scheme opening zone path tail : Text) : Prop where
  web : SchemeKind.of scheme = .web
  opens : ∃ slashes, scheme? opening = some (scheme, slashes) ∧ ∀ c ∈ slashes, isAnySlash c
  in_opening : ∀ c ∈ opening, isPathChar c
  named : zone ≠ []
  within : ∀ c ∈ zone, endsAuthority .web c = false
  ended : Ended path
  in_path : ∀ c ∈ path, isPathChar c
  in_tail : Text.Stops isPathChar tail

/-- The segments of a path text from the root, whether a slash is written or not. -/
def rootPieces (path : Text) : List Text := Text.split '/' (slashed (path.drop 1))

variable {scheme opening zone path tail text : Text} {url : Url}

theorem ended_append (hpath : Ended path) (htail : Text.Stops isPathChar tail) :
    Ended (path ++ tail) := by
  cases path with
  | nil =>
    intro c hc
    have hstop := htail c hc
    rw [isPathChar, Bool.and_eq_false_iff, bne_eq_false_iff_eq, bne_eq_false_iff_eq] at hstop
    rcases hstop with rfl | rfl <;> rfl
  | cons c path => exact Text.stops_cons (hpath c rfl) _

theorem isSlash_of_ended {c : Char} {path : Text} (hended : Ended (c :: path))
    (hc : isPathChar c) : isSlash .web c := by
  have hends : endsAuthority .web c := by simpa using hended c rfl
  rcases endsAuthority_iff.1 hends with rfl | rfl | rfl | rfl
  · rfl
  · rfl
  · cases hc
  · cases hc

/-- A path behind an authority is read from the root. -/
theorem parseAfterAuthority_eq (hended : Ended path) (hpath : ∀ c ∈ path, isPathChar c)
    (htail : Text.Stops isPathChar tail) :
    parseAfterAuthority .web (path ++ tail) = (addSegments [] (rootPieces path), tail) := by
  cases path with
  | nil =>
    cases tail with
    | nil => rfl
    | cons c tail =>
      have hslash : isSlash .web c = false := by
        have hstop := htail c rfl
        rw [isPathChar, Bool.and_eq_false_iff, bne_eq_false_iff_eq, bne_eq_false_iff_eq] at hstop
        rcases hstop with rfl | rfl <;> rfl
      have hspecial : ¬ ((c = '?' ∨ c = '#') ∧ !SchemeKind.web.isSpecial) := fun h =>
        absurd h.2 (by decide)
      have hcut := cutPath_of_stops hpath htail
      rw [List.nil_append] at hcut ⊢
      rw [parseAfterAuthority, if_neg (by simp [hslash]), if_neg hspecial, parseSegments, hcut]
      rfl
  | cons c path =>
    have hslash := isSlash_of_ended hended (hpath c List.mem_cons_self)
    rw [List.cons_append, parseAfterAuthority, if_pos hslash, parseSegments,
      cutPath_of_stops (fun d hd => hpath d (List.mem_cons_of_mem c hd)) htail]
    rfl

/-- The tail begins at the first question mark or number sign. -/
theorem IsCut.front_isPathChar (h : IsCut scheme opening zone path tail) :
    ∀ c ∈ opening ++ (zone ++ path), isPathChar c := by
  rw [List.forall_mem_append, List.forall_mem_append]
  refine ⟨h.in_opening, fun c hc => ?_, h.in_path⟩
  have hends := h.within c hc
  rw [isPathChar, Bool.and_eq_true, bne_iff_ne, bne_iff_ne]
  constructor <;> rintro rfl <;> cases hends

/-- An address is its authority, read by itself, its path and its tail. -/
theorem IsCut.parse_eq (h : IsCut scheme opening zone path tail)
    (htext : clean text = opening ++ (zone ++ (path ++ tail))) :
    parse text = (parseAuthority scheme zone).map fun found =>
      withTail
        { scheme, authority := some found.1, path := .rooted (addSegments [] (rootPieces path)) }
        tail := by
  obtain ⟨slashes, hopens, hslashes⟩ := h.opens
  have hbehind : (slashes ++ (zone ++ (path ++ tail))).dropWhile isAnySlash =
      zone ++ (path ++ tail) := by
    obtain ⟨c, more, rfl⟩ := List.exists_cons_of_ne_nil h.named
    refine Text.dropWhile_append_of_all hslashes (Text.stops_cons ?_ _)
    have hends := h.within c List.mem_cons_self
    rw [endsAuthority_web, Bool.or_eq_false_iff, Bool.or_eq_false_iff] at hends
    exact hends.1.1
  have hended := ended_append h.ended h.in_tail
  rw [parse, parseAgainst, htext, scheme?_append hopens]
  simp only [parseWithScheme, h.web, Option.filter_none, hbehind, parseWithAuthority_eq]
  rw [parseAuthority_append h.web h.within hended]
  cases parseAuthority scheme zone with
  | error error => rfl
  | ok found =>
    simp only [Except.map]
    rw [parseAfterAuthority_eq h.ended h.in_path h.in_tail]

/-- Every text that is read as a web address is cut. -/
theorem exists_isCut (hweb : SchemeKind.of url.scheme = .web) (hparse : parse text = .ok url) :
    ∃ opening zone path tail, IsCut url.scheme opening zone path tail ∧
      clean text = opening ++ (zone ++ (path ++ tail)) := by
  cases hscheme : scheme? (clean text) with
  | none =>
    rw [parse, parseAgainst, hscheme] at hparse
    cases hparse
  | some found =>
    obtain ⟨scheme, behind⟩ := found
    rw [parse, parseAgainst, hscheme] at hparse
    have hkind := kind_of_parseWithScheme hweb hparse
    have hparse' : parseWithAuthority scheme (behind.dropWhile isAnySlash) = .ok url := by
      simpa only [parseWithScheme, hkind, Option.filter_none] using hparse
    have hsame := scheme_of_parseWithAuthority hparse'
    obtain ⟨word, htext, hchars, hword⟩ := exists_word_of_scheme? hscheme
    obtain ⟨zone, rest, hzone, hwithin, hended⟩ := exists_zone (behind.dropWhile isAnySlash)
    have hnamed : zone ≠ [] := by
      rintro rfl
      rw [hzone, List.nil_append, parseWithAuthority_of_ended hkind hended] at hparse'
      cases hparse'
    refine ⟨word ++ behind.takeWhile isAnySlash, zone, rest.takeWhile isPathChar,
      rest.dropWhile isPathChar, ?_, ?_⟩
    · constructor
      case web => exact hweb
      case opens => exact ⟨_, hsame ▸ hword _, List.all_eq_true.1 List.all_takeWhile⟩
      case in_opening =>
        rw [List.forall_mem_append]
        refine ⟨hchars, fun c hc => ?_⟩
        rw [isPathChar, Bool.and_eq_true, bne_iff_ne, bne_iff_ne]
        constructor <;> rintro rfl <;>
          exact absurd (List.all_eq_true.1 List.all_takeWhile _ hc) (by decide)
      case named => exact hnamed
      case within => exact hwithin
      case ended =>
        intro c hc
        obtain ⟨more, hmore⟩ := List.takeWhile_prefix (l := rest) isPathChar
        refine hended c ?_
        rw [← hmore, List.head?_append, hc]
        rfl
      case in_path => exact List.all_eq_true.1 List.all_takeWhile
      case in_tail =>
        intro c hc
        have hstop := List.head?_dropWhile_not isPathChar rest
        rw [hc] at hstop
        exact hstop
    · rw [List.takeWhile_append_dropWhile, ← hzone, List.append_assoc,
        List.takeWhile_append_dropWhile, htext]

end Cut

end RuleGateway.Url
