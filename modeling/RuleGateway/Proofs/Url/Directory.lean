import RuleGateway.Proofs.Url.Address

/-!
# Directories and what lies in them

A web address that ends with a slash names a directory, and a text put behind it is
read in the directory, as a page there would read a link (`parse_append`). Reading
cleans the text at its end alone, and it takes steps up where the text has them.
-/

namespace RuleGateway.Url

open Percent

section Clean

/-- What stands before a visible character is cleaned without a view to what follows it. -/
theorem clean_append_cons {c : Char} (hc : isOuter c = false) (front back : Text) :
    clean (front ++ c :: back) = (front.dropWhile isOuter).filter isKept ++ c :: cleanEnd back := by
  have hfront : Text.Stops isOuter (c :: back) := Text.stops_cons hc back
  have hstops : Text.Stops isOuter (c :: (front.dropWhile isOuter).reverse) :=
    Text.stops_cons hc _
  have hreverse : (front.dropWhile isOuter ++ c :: back).reverse =
      back.reverse ++ c :: (front.dropWhile isOuter).reverse := by simp
  rw [clean_eq, Text.dropWhile_append_of_stops hfront, cleanEnd, hreverse,
    Text.dropWhile_append_of_stops hstops]
  simp [cleanEnd, isKept_of_not_isOuter hc]

/-- A word that is read as a scheme. -/
structure IsSchemeWord (word : Text) : Prop where
  letter : (word.head?.map Char.isAlpha).getD false
  chars : ∀ c ∈ word, isSchemeChar c

/-- A scheme is the word up to the first colon, in small letters. -/
theorem scheme?_eq_some_iff {text scheme rest : Text} :
    scheme? text = some (scheme, rest) ↔
      ∃ word, text = word ++ ':' :: rest ∧ scheme = Text.lower word ∧ IsSchemeWord word := by
  constructor
  · intro h
    rw [scheme?] at h
    split at h
    · rename_i hhead
      split at h
      · rename_i after hafter
        cases h
        refine ⟨text.takeWhile isSchemeChar, ?_, rfl, ?_, List.all_eq_true.1 List.all_takeWhile⟩
        · rw [← hafter, List.takeWhile_append_dropWhile]
        · cases text with
          | nil => cases hhead
          | cons c text =>
            have hc : isSchemeChar c := by
              rw [isSchemeChar, Char.isAlphanum]
              rw [List.head?_cons, Option.map_some, Option.getD_some] at hhead
              rw [hhead]
              rfl
            rw [List.takeWhile_cons_of_pos hc]
            exact hhead
      · cases h
    · cases h
  · rintro ⟨word, rfl, rfl, hword⟩
    have hcolon : Text.Stops isSchemeChar (':' :: rest) := Text.stops_cons rfl _
    have hletter : ((word ++ ':' :: rest).head?.map Char.isAlpha).getD false := by
      have hhead := hword.letter
      cases word with
      | nil => cases hhead
      | cons c word => exact hhead
    rw [scheme?, if_pos hletter, Text.dropWhile_append_of_all hword.chars hcolon,
      Text.takeWhile_append_of_all hword.chars hcolon]
    rfl

/-- The scheme of a text is read up to its colon, whatever follows. -/
theorem exists_word_of_scheme? {text scheme rest : Text}
    (h : scheme? text = some (scheme, rest)) :
    ∃ word, text = word ++ rest ∧ (∀ c ∈ word, isPathChar c) ∧
      ∀ back, scheme? (word ++ back) = some (scheme, back) := by
  obtain ⟨word, rfl, rfl, hword⟩ := scheme?_eq_some_iff.1 h
  refine ⟨word ++ [':'], by simp, ?_, fun back => ?_⟩
  · rw [List.forall_mem_append, List.forall_mem_singleton]
    refine ⟨fun c hc => ?_, rfl⟩
    rw [isPathChar, Bool.and_eq_true, bne_iff_ne, bne_iff_ne]
    constructor <;> rintro rfl <;> exact absurd (hword.chars _ hc) (by decide)
  · exact scheme?_eq_some_iff.2 ⟨word, by simp, rfl, hword⟩

theorem scheme?_append {text scheme rest : Text} (h : scheme? text = some (scheme, rest))
    (back : Text) : scheme? (text ++ back) = some (scheme, rest ++ back) := by
  obtain ⟨word, rfl, -, hword⟩ := exists_word_of_scheme? h
  rw [List.append_assoc, hword]

/-- A slash at the end of a text is not part of its scheme. -/
theorem exists_of_scheme? {text scheme rest : Text}
    (h : scheme? (text ++ ['/']) = some (scheme, rest)) :
    ∃ more, more <:+ text ∧ rest = more ++ ['/'] := by
  rw [scheme?] at h
  split at h
  · split at h
    · rename_i after hafter
      cases h
      have hsuffix : ':' :: rest <:+ text ++ ['/'] := hafter ▸ List.dropWhile_suffix _
      rw [List.suffix_concat_iff] at hsuffix
      rcases hsuffix with hnil | ⟨more, hmore, hsuffix⟩
      · cases hnil
      · cases more with
        | nil => cases hmore
        | cons c more =>
          cases hmore
          exact ⟨more, (List.suffix_cons _ _).trans hsuffix, rfl⟩
    · cases h
  · cases h

end Clean

section Directory

/-- The segments of an address that a text behind it goes on from. -/
def directory (url : Url) : List Text := (segmentsOf url).dropLast

/-- A web address that is the address of a directory: its path ends with a slash, and
nothing follows it. -/
structure IsDirectory (url : Url) : Prop where
  web : SchemeKind.of url.scheme = .web
  authority : url.authority.isSome
  path : url.path = .rooted (url.directory ++ [[]])
  settled : ∀ segment ∈ url.directory, IsSettled segment
  query : url.query = none
  fragment : url.fragment = none

theorem isAnySlash_of_mem_split_slashed {text piece : Text}
    (h : piece ∈ Text.split '/' (slashed text)) : ∀ c ∈ piece, isAnySlash c = false := by
  obtain ⟨hpart, hslash⟩ := Text.of_mem_split h
  intro c hc
  rw [isAnySlash, Bool.or_eq_false_iff, beq_eq_false_iff_ne, beq_eq_false_iff_ne]
  constructor
  · rintro rfl
    exact hslash hc
  · rintro rfl
    obtain ⟨d, -, hd⟩ := List.mem_map.1 (hpart.subset hc)
    split at hd
    · cases hd
    · rename_i hnot
      rw [hd] at hnot
      exact hnot rfl

theorem cutPath_append_slash {front : Text} (h : ∀ c ∈ front, isPathChar c) (back : Text) :
    cutPath .web (front ++ '/' :: back) =
      (Text.split '/' (slashed front) ++ (cutPath .web back).1, (cutPath .web back).2) := by
  have hfront : ∀ c ∈ front ++ ['/'], isPathChar c := by
    rw [List.forall_mem_append, List.forall_mem_singleton]
    exact ⟨h, rfl⟩
  have htake : (front ++ ['/'] ++ back).takeWhile isPathChar =
      front ++ ['/'] ++ back.takeWhile isPathChar := List.takeWhile_append_of_pos hfront
  have hdrop : (front ++ ['/'] ++ back).dropWhile isPathChar = back.dropWhile isPathChar :=
    List.dropWhile_append_of_pos hfront
  rw [List.append_assoc, List.singleton_append] at htake hdrop
  change (Text.split '/' (slashed ((front ++ '/' :: back).takeWhile isPathChar)),
    (front ++ '/' :: back).dropWhile isPathChar) = _
  rw [htake, hdrop, slashed, List.map_append, List.map_append, List.append_assoc]
  change (Text.split '/' (slashed front ++ '/' :: _), _) = _
  rw [Text.split_append_cons]
  rfl

/-- What follows an authority and a slash is read behind the segments up to the slash. -/
theorem exists_parseAfterAuthority {front : Text} (hended : Ended (front ++ ['/']))
    (h : ∀ c ∈ front, isPathChar c) :
    ∃ start, (∀ segment ∈ start, IsSettled segment) ∧ ∀ back,
      parseAfterAuthority .web (front ++ '/' :: back) =
        (addSegments start (cutPath .web back).1, (cutPath .web back).2) := by
  cases front with
  | nil => exact ⟨[], List.forall_mem_nil _, fun back => rfl⟩
  | cons c front =>
    have hslash : isSlash .web c := by
      have hc := (List.forall_mem_cons.1 h).1
      have hends : endsAuthority .web c := by simpa using hended c rfl
      rw [endsAuthority_iff] at hends
      rcases hends with rfl | rfl | rfl | rfl
      · rfl
      · rfl
      · cases hc
      · cases hc
    refine ⟨descend [] (Text.split '/' (slashed front)), ?_, fun back => ?_⟩
    · exact isSettled_of_mem_descend (fun piece => isAnySlash_of_mem_split_slashed)
        (List.forall_mem_nil _)
    · have hne : (cutPath .web back).1 ≠ [] := Text.split_ne_nil _ _
      rw [List.cons_append, parseAfterAuthority, if_pos hslash, parseSegments,
        cutPath_append_slash (List.forall_mem_cons.1 h).2, ← addSegments_append hne]

section Scheme

variable {scheme input : Text} {url : Url}

theorem parseWithAuthority_eq (scheme input : Text) :
    parseWithAuthority scheme input =
      (parseAuthority scheme input).map fun found =>
        withTail
          { scheme, authority := some found.1,
            path := .rooted (parseAfterAuthority (.of scheme) found.2).1 }
          (parseAfterAuthority (.of scheme) found.2).2 := by
  rw [parseWithAuthority]
  cases parseAuthority scheme input <;> rfl

/-- Where the authority ends before it starts, nobody is named. -/
theorem parseWithAuthority_of_ended {scheme rest : Text} (hweb : SchemeKind.of scheme = .web)
    (hrest : Ended rest) : parseWithAuthority scheme rest = .error .emptyHost := by
  have hnone : parseAuthority scheme [] = .error .emptyHost :=
    parseAuthority_zone hweb (List.forall_mem_nil _) rfl
  have hempty := parseAuthority_append hweb (List.forall_mem_nil _) hrest
  rw [List.nil_append, hnone] at hempty
  rw [parseWithAuthority_eq, hempty]
  rfl

theorem scheme_of_parseWithAuthority (h : parseWithAuthority scheme input = .ok url) :
    url.scheme = scheme := by
  rw [parseWithAuthority_eq] at h
  cases hauthority : parseAuthority scheme input with
  | error error =>
    rw [hauthority] at h
    cases h
  | ok found =>
    rw [hauthority] at h
    cases h
    rfl

theorem scheme_of_parseOther (h : parseOther scheme input = .ok url) : url.scheme = scheme := by
  rw [parseOther.eq_def] at h
  split at h
  · exact scheme_of_parseWithAuthority h
  · cases h
    rfl
  · cases h
    rfl

theorem scheme_of_parseFileHost (h : parseFileHost input = .ok url) : url.scheme = fileScheme := by
  simp only [parseFileHost, bind, Except.bind, pure, Except.pure] at h
  split at h
  · cases h
    rfl
  · split at h
    · cases h
      rfl
    · split at h
      · cases h
      · cases h
        rfl

theorem scheme_of_parseFile (h : parseFile none input = .ok url) : url.scheme = fileScheme := by
  have hroot {rest : Text} (h : parseFile.fromRoot none rest = .ok url) :
      url.scheme = fileScheme := by
    cases h
    rfl
  rw [parseFile.eq_def] at h
  split at h
  · split at h
    · split at h
      · split at h
        · exact scheme_of_parseFileHost h
        · exact hroot h
      · exact hroot h
    · cases h
      rfl
  · cases h
    rfl

/-- Only a text with a web scheme is a web address. -/
theorem kind_of_parseWithScheme (hweb : SchemeKind.of url.scheme = .web)
    (h : parseWithScheme none scheme input = .ok url) : SchemeKind.of scheme = .web := by
  cases hkind : SchemeKind.of scheme with
  | web => rfl
  | file =>
    simp only [parseWithScheme, hkind, Option.filter_none] at h
    rw [scheme_of_parseFile h] at hweb
    cases hweb
  | other =>
    simp only [parseWithScheme, hkind] at h
    rw [scheme_of_parseOther h, hkind] at hweb
    cases hweb

end Scheme

theorem exists_zone (text : Text) :
    ∃ zone path, text = zone ++ path ∧ (∀ c ∈ zone, endsAuthority .web c = false) ∧
      Ended path := by
  refine ⟨_, _, (List.takeWhile_append_dropWhile (p := (!endsAuthority .web ·))).symm,
    fun c hc => ?_, fun c hc => ?_⟩
  · simpa using List.all_eq_true.1 List.all_takeWhile c hc
  · have hstop := List.head?_dropWhile_not (!endsAuthority .web ·) text
    rw [hc] at hstop
    exact hstop

theorem Ended.append_slash {path : Text} (h : Ended path) (back : Text) :
    Ended (path ++ '/' :: back) := by
  cases path with
  | nil => exact Text.stops_cons rfl back
  | cons c path => exact Text.stops_cons (h c rfl) _

/-- The authority and the segments before a slash do not depend on what follows it. -/
theorem exists_parseWithAuthority {scheme more : Text} {root : Url}
    (hweb : SchemeKind.of scheme = .web) (hmore : ∀ c ∈ more, isPathChar c)
    (hparse : parseWithAuthority scheme ((more ++ ['/']).dropWhile isAnySlash) = .ok root) :
    ∃ authority start, (∀ segment ∈ start, IsSettled segment) ∧ ∀ back,
      parseWithAuthority scheme ((more ++ '/' :: back).dropWhile isAnySlash) =
        .ok (withTail
          { scheme, authority := some authority,
            path := .rooted (addSegments start (cutPath .web back).1) }
          (cutPath .web back).2) := by
  -- Where there are slashes only, no authority is left to be read.
  have hne : (more.dropWhile isAnySlash).isEmpty = false := by
    rw [Bool.eq_false_iff]
    intro hempty
    have hslash : ['/'].dropWhile isAnySlash = [] := rfl
    rw [List.dropWhile_append, if_pos hempty, hslash,
      parseWithAuthority_of_ended hweb (Text.stops_nil _)] at hparse
    cases hparse
  obtain ⟨zone, path, hcut, hzone, hended⟩ := exists_zone (more.dropWhile isAnySlash)
  have hdrop (back : Text) : (more ++ '/' :: back).dropWhile isAnySlash =
      zone ++ (path ++ '/' :: back) := by
    rw [List.dropWhile_append, hne, if_neg Bool.false_ne_true, hcut, List.append_assoc]
  have hpath : ∀ c ∈ path, isPathChar c := fun c hc =>
    hmore c ((List.dropWhile_suffix _).subset (hcut ▸ List.mem_append_right zone hc))
  obtain ⟨start, hstart, hread⟩ := exists_parseAfterAuthority (hended.append_slash []) hpath
  have hwhole (back : Text) : parseAuthority scheme (zone ++ (path ++ '/' :: back)) =
      (parseAuthority scheme zone).map fun found => (found.1, path ++ '/' :: back) :=
    parseAuthority_append hweb hzone (hended.append_slash back)
  cases hauthority : parseAuthority scheme zone with
  | error error =>
    rw [hdrop, parseWithAuthority_eq, hwhole, hauthority] at hparse
    cases hparse
  | ok found =>
    refine ⟨found.1, start, hstart, fun back => ?_⟩
    rw [hdrop, parseWithAuthority_eq, hwhole, hauthority, hweb]
    simp only [Except.map, hread]

/-- What stands behind an address of a directory is read in the directory. -/
theorem parse_append {front : Text} (hquery : '?' ∉ front) (hfragment : '#' ∉ front) {root : Url}
    (hweb : SchemeKind.of root.scheme = .web) (hparse : parse (front ++ ['/']) = .ok root) :
    root.IsDirectory ∧
      ∀ back, parse (front ++ '/' :: back) = .ok (parseInDirectory root (cleanEnd back)) := by
  obtain ⟨inner, hclean⟩ : ∃ inner, inner ⊆ front ∧
      ∀ back, clean (front ++ '/' :: back) = inner ++ '/' :: cleanEnd back :=
    ⟨_, fun c hc => (List.dropWhile_suffix _).subset (List.mem_of_mem_filter hc),
      clean_append_cons rfl front⟩
  cases hscheme : scheme? (inner ++ ['/']) with
  | none =>
    have hend : cleanEnd [] = [] := rfl
    rw [parse, parseAgainst, hclean.2, hend, hscheme] at hparse
    cases hparse
  | some found =>
    obtain ⟨scheme, rest⟩ := found
    obtain ⟨more, hsuffix, rfl⟩ := exists_of_scheme? hscheme
    have hread (back : Text) : parse (front ++ '/' :: back) =
        parseWithScheme none scheme (more ++ '/' :: cleanEnd back) := by
      have happend := scheme?_append hscheme (cleanEnd back)
      rw [List.append_assoc, List.append_assoc, List.singleton_append] at happend
      rw [parse, parseAgainst, hclean.2, happend]
    rw [hread] at hparse
    have hkind := kind_of_parseWithScheme hweb hparse
    have hmore : ∀ c ∈ more, isPathChar c := by
      intro c hc
      have hfront := hclean.1 (hsuffix.subset hc)
      rw [isPathChar, Bool.and_eq_true, bne_iff_ne, bne_iff_ne]
      exact ⟨fun h => hquery (h ▸ hfront), fun h => hfragment (h ▸ hfront)⟩
    have hauthority (input : Text) :
        parseWithScheme none scheme input = parseWithAuthority scheme (input.dropWhile isAnySlash) := by
      simp only [parseWithScheme, hkind, Option.filter_none]
    rw [hauthority] at hparse
    obtain ⟨authority, start, hstart, hdirectory⟩ := exists_parseWithAuthority hkind hmore hparse
    have hroot : root = { scheme, authority := some authority, path := .rooted (start ++ [[]]) } :=
      Except.ok.inj (hparse.symm.trans (hdirectory []))
    have hstart' : root.directory = start := by
      rw [hroot, directory, segmentsOf, List.dropLast_concat]
    constructor
    · constructor
      case web => exact hweb
      case authority => rw [hroot]; rfl
      case path => rw [hstart', hroot]
      case settled => rwa [hstart']
      case query => rw [hroot]
      case fragment => rw [hroot]
    · intro back
      rw [hread, hauthority, hdirectory, hroot]
      simp only [parseInDirectory, parseSegments, hkind, segmentsOf, List.dropLast_concat]

end Directory

end RuleGateway.Url
