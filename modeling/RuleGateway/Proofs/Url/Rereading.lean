import RuleGateway.Proofs.Text.Lower
import RuleGateway.Proofs.Url.Domain.Restating
import RuleGateway.Proofs.Url.Escaping

/-!
# Addresses read again

An address that starts with a scheme and two slashes is read by itself, whatever it is
joined with. What it is read as can be written and read again.
-/

namespace RuleGateway.Url

open Percent

section Path

variable {kind : SchemeKind} {segment : Text} {segments : List Text}

/-- A segment that is no step in the tree and has nothing to escape, where only the
slashes of the kind of scheme end a segment. -/
structure IsSettledFor (kind : SchemeKind) (segment : Text) : Prop where
  no_dot : isSingleDot segment = false
  no_dots : isDoubleDot segment = false
  plain : ∀ c ∈ segment, isEscaped inPathSet c = false ∧ isSlash kind c = false

theorem isSettledFor_nil (kind : SchemeKind) : IsSettledFor kind [] :=
  ⟨rfl, rfl, fun c hc => by cases hc⟩

theorem isSettledFor_encode (hdot : isSingleDot segment = false)
    (hdots : isDoubleDot segment = false) (hslash : ∀ c ∈ segment, isSlash kind c = false) :
    IsSettledFor kind (encode inPathSet segment) where
  no_dot := (not_step_encode hdot hdots).1
  no_dots := (not_step_encode hdot hdots).2
  plain c hc := by
    rcases mem_encode hc with ⟨hmem, hleft⟩ | hescape
    · exact ⟨hleft, hslash c hmem⟩
    · refine ⟨spares_inPathSet.not_isEscaped hescape, ?_⟩
      have hall : ∀ d ∈ '%' :: Text.hexDigits, isSlash kind d = false := by
        cases kind <;> exact Text.forall_mem (by decide)
      exact hall c hescape

/-- Settled segments are added as they are. -/
theorem addSegments_of_settledFor (h : ∀ segment ∈ segments, IsSettledFor kind segment)
    (start : List Text) : addSegments start segments = start ++ segments :=
  addSegments_of_plain (fun segment hsegment => ⟨(h segment hsegment).no_dot,
    (h segment hsegment).no_dots⟩)
    (fun segment hsegment c hc => ((h segment hsegment).plain c hc).1) start

theorem isSlash_of_mem_cutPath {input piece : Text} (h : piece ∈ (cutPath kind input).1) :
    ∀ c ∈ piece, isSlash kind c = false := by
  obtain ⟨hwithin, hslash⟩ := Text.of_mem_split h
  intro c hc
  obtain ⟨d, -, hd⟩ := List.mem_map.1 (hwithin.subset hc)
  split at hd
  · subst hd
    exact absurd hc hslash
  · rename_i hother
    rw [← hd]
    exact Bool.eq_false_iff.2 hother

theorem settledFor_addSegments (hstart : ∀ segment ∈ segments, IsSettledFor kind segment)
    (input : Text) : ∀ segment ∈ addSegments segments (cutPath kind input).1,
      IsSettledFor kind segment :=
  forall_mem_addSegments (isSettledFor_nil kind) hstart fun _ hpiece hdot hdots =>
    isSettledFor_encode hdot hdots (isSlash_of_mem_cutPath hpiece)

theorem cutPath_ne_nil (kind : SchemeKind) (input : Text) : (cutPath kind input).1 ≠ [] := Text.split_ne_nil _ _

theorem isSlash_slash (kind : SchemeKind) : isSlash kind '/' = true := rfl

/-- What is written behind a path is no more of it. -/
theorem cutPath_join (hne : segments ≠ []) (h : ∀ segment ∈ segments, IsSettledFor kind segment)
    {rest : Text} (hrest : Text.Stops isPathChar rest) :
    cutPath kind (Text.join '/' segments ++ rest) = (segments, rest) := by
  have hchars : ∀ c ∈ Text.join '/' segments,
      isPathChar c ∧ (if isSlash kind c then '/' else c) = c := by
    intro c hc
    rcases Text.mem_join hc with rfl | ⟨segment, hsegment, hmem⟩
    · exact ⟨rfl, if_pos (isSlash_slash kind)⟩
    · obtain ⟨hescaped, hother⟩ := (h segment hsegment).plain c hmem
      refine ⟨?_, if_neg (by simp [hother])⟩
      rw [isPathChar, Bool.and_eq_true, bne_iff_ne, bne_iff_ne]
      constructor <;> rintro rfl <;> cases hescaped
  have hparts : ∀ segment ∈ segments, '/' ∉ segment := fun segment hsegment hmem => by
    have hother := ((h segment hsegment).plain '/' hmem).2
    rw [isSlash_slash] at hother
    cases hother
  change (Text.split '/' (((Text.join '/' segments ++ rest).takeWhile isPathChar).map _),
    (Text.join '/' segments ++ rest).dropWhile isPathChar) = _
  rw [Text.takeWhile_append_of_all (fun c hc => (hchars c hc).1) hrest,
    Text.dropWhile_append_of_all (fun c hc => (hchars c hc).1) hrest,
    List.map_congr_left fun c hc => (hchars c hc).2, List.map_id', Text.split_join hne hparts]

/-- What the path behind an authority is read as. -/
theorem settledFor_parseAfterAuthority (hfile : kind ≠ .file) (input : Text) :
    (∀ segment ∈ (parseAfterAuthority kind input).1, IsSettledFor kind segment) ∧
      ((parseAfterAuthority kind input).1 = [] → kind.isSpecial = false) := by
  have hread (start : List Text) (rest : Text) : parseSegments kind start rest =
      (addSegments start (cutPath kind rest).1, (cutPath kind rest).2) := by
    cases kind with
    | file => exact absurd rfl hfile
    | web => rfl
    | other => rfl
  have hsettled (rest : Text) :
      (∀ segment ∈ (parseSegments kind [] rest).1, IsSettledFor kind segment) ∧
        ((parseSegments kind [] rest).1 = [] → kind.isSpecial = false) := by
    rw [hread]
    exact ⟨settledFor_addSegments (List.forall_mem_nil _) rest, fun hnil =>
      absurd hnil (addSegments_ne_nil (cutPath_ne_nil kind rest) [])⟩
  rw [parseAfterAuthority.eq_def]
  split
  · split
    · exact ⟨List.forall_mem_singleton.2 (isSettledFor_nil kind), fun hnil => by cases hnil⟩
    · rename_i hspecial
      exact ⟨List.forall_mem_nil _, fun _ => Bool.eq_false_iff.2 hspecial⟩
  · split
    · exact hsettled _
    · split
      · rename_i hmark
        exact ⟨List.forall_mem_nil _, fun _ => by simpa using hmark.2⟩
      · exact hsettled _

/-- The path behind an authority is read as it is written. -/
theorem parseAfterAuthority_written (hfile : kind ≠ .file)
    (h : ∀ segment ∈ segments, IsSettledFor kind segment)
    (hne : segments = [] → kind.isSpecial = false) {rest : Text}
    (hrest : Text.Stops isPathChar rest) :
    parseAfterAuthority kind (Path.ofSegments segments ++ rest) = (segments, rest) := by
  by_cases hnil : segments = []
  · have hspecial := hne hnil
    subst hnil
    cases rest with
    | nil => simp [Path.ofSegments, parseAfterAuthority, hspecial]
    | cons c rest =>
      have hmark : c = '?' ∨ c = '#' := by
        have hstop := hrest c rfl
        rw [isPathChar, Bool.and_eq_false_iff, bne_eq_false_iff_eq, bne_eq_false_iff_eq] at hstop
        exact hstop
      have hslash : isSlash kind c = false := by
        rw [isSlash, hspecial, Bool.false_and, Bool.or_false, beq_eq_false_iff_ne]
        rcases hmark with rfl | rfl <;> decide
      change parseAfterAuthority kind (c :: rest) = _
      rw [parseAfterAuthority, if_neg (by simp [hslash]), if_pos ⟨hmark, by simp [hspecial]⟩]
  · rw [Path.ofSegments_eq_join hnil, List.cons_append, parseAfterAuthority,
      if_pos (isSlash_slash kind), parseSegments, cutPath_join hnil h hrest]
    cases kind with
    | file => exact absurd rfl hfile
    | web => simp only [addSegments_of_settledFor h, List.nil_append]
    | other => simp only [addSegments_of_settledFor h, List.nil_append]

end Path

section Tail

variable {kind : SchemeKind} {query fragment : Option Text}

/-- A query and a fragment as they are read. -/
structure IsEscapedTail (kind : SchemeKind) (query fragment : Option Text) : Prop where
  query : ∃ plain : Option Text, query = plain.map (encode (inQuerySet kind))
  fragment : ∃ plain : Option Text, fragment = plain.map (encode inFragmentSet)

/-- A query and a fragment as they stand in an address. -/
def tailText (query fragment : Option Text) : Text :=
  asked query ++ (fragment.map ('#' :: ·)).getD []

theorem isEscapedTail_parseTail (kind : SchemeKind) (input : Text) :
    IsEscapedTail kind (parseTail kind input).1 (parseTail kind input).2 := by
  have hfragment (text : Text) :
      ∃ plain : Option Text, fragment? text = plain.map (encode inFragmentSet) := by
    rw [fragment?.eq_def]
    split
    · exact ⟨some _, rfl⟩
    · exact ⟨none, rfl⟩
  by_cases hquery : input.head? = some '?'
  · obtain ⟨rest, rfl⟩ := List.head?_eq_some_iff.1 hquery
    rw [parseTail_query]
    exact ⟨⟨some _, rfl⟩, hfragment _⟩
  · rw [parseTail_of_ne_query kind hquery]
    exact ⟨⟨none, rfl⟩, hfragment _⟩

theorem stops_tailText (query fragment : Option Text) :
    Text.Stops isPathChar (tailText query fragment) := by
  cases query with
  | some query => exact Text.stops_cons rfl _
  | none =>
    cases fragment with
    | some fragment => exact Text.stops_cons rfl _
    | none => exact Text.stops_nil _

/-- A query and a fragment are read as they are written. -/
theorem parseTail_tailText (h : IsEscapedTail kind query fragment) :
    parseTail kind (tailText query fragment) = (query, fragment) := by
  obtain ⟨plain, rfl⟩ := h.query
  obtain ⟨rest, rfl⟩ := h.fragment
  have hfragment : fragment? (((rest.map (encode inFragmentSet)).map ('#' :: ·)).getD []) =
      rest.map (encode inFragmentSet) := by
    cases rest with
    | none => rfl
    | some rest => exact congrArg some (encode_encode spares_inFragmentSet rest)
  cases plain with
  | none =>
    have hhead : (tailText none (rest.map (encode inFragmentSet))).head? ≠ some '?' := by
      cases rest <;> simp [tailText, asked]
    rw [Option.map_none, parseTail_of_ne_query kind hhead]
    exact congrArg (none, ·) hfragment
  | some plain =>
    have hkept : ∀ c ∈ encode (inQuerySet kind) plain, (c != '#') = true := by
      intro c hc
      rw [bne_iff_ne]
      rintro rfl
      rcases mem_encode hc with ⟨-, hleft⟩ | hescape
      · cases kind <;> cases hleft
      · exact absurd hescape (by decide)
    have hstops : Text.Stops (· != '#')
        (((rest.map (encode inFragmentSet)).map ('#' :: ·)).getD []) := by
      cases rest with
      | none => exact Text.stops_nil _
      | some rest => exact Text.stops_cons rfl _
    change parseTail kind ('?' :: (encode (inQuerySet kind) plain ++ _)) = _
    rw [parseTail_query, Text.takeWhile_append_of_all hkept hstops,
      Text.dropWhile_append_of_all hkept hstops, hfragment,
      encode_encode (spares_inQuerySet_of kind)]
    rfl

theorem withTail_tailText (url : Url) (h : IsEscapedTail (.of url.scheme) query fragment) :
    withTail url (tailText query fragment) = { url with query, fragment } := by
  rw [withTail, parseTail_tailText h]

/-- What is escaped has no blanks. -/
theorem not_isOuter_of_mem_tailText (h : IsEscapedTail kind query fragment) {c : Char}
    (hc : c ∈ tailText query fragment) : isOuter c = false := by
  obtain ⟨plain, rfl⟩ := h.query
  obtain ⟨rest, rfl⟩ := h.fragment
  have hescaped {inSet : Char → Bool} (hblank : ∀ n ≤ 0x20, inSet (Char.ofNat n)) {text : Text}
      (hmem : c ∈ encode inSet text) : isOuter c = false := by
    rcases mem_encode hmem with ⟨-, hleft⟩ | hescape
    · exact not_isOuter_of_not_isEscaped hblank hleft
    · have hall : ∀ d ∈ '%' :: Text.hexDigits, isOuter d = false := Text.forall_mem (by decide)
      exact hall c hescape
  rcases List.mem_append.1 hc with hquery | hfragment
  · obtain ⟨text, htext, hmem⟩ := mem_asked.1 hquery
    obtain ⟨plain, -, rfl⟩ := Option.map_eq_some_iff.1 htext
    rcases List.mem_cons.1 hmem with rfl | hmem
    · rfl
    · exact hescaped (by cases kind <;> decide) hmem
  · cases rest with
    | none => cases hfragment
    | some rest =>
      rcases List.mem_cons.1 hfragment with rfl | hmem
      · rfl
      · exact hescaped (by decide) hmem

end Tail

section Lead

variable {text scheme rest : Text}

theorem isSchemeChar_toLower {c : Char} (h : isSchemeChar c) :
    isSchemeChar c.toLower ∧ isOuter c.toLower = false ∧ (c.isAlpha → c.toLower.isAlpha) ∧
      c.toLower.toNat < 0x80 := by
  have hc : c.toNat < 0x80 := Nat.lt_of_not_le fun hwide => by
    rw [isBlind_isSchemeChar.wide c hwide] at h
    cases h
  have hall : ∀ n < 128, isSchemeChar (Char.ofNat n) → isSchemeChar (Char.ofNat n).toLower ∧
      isOuter (Char.ofNat n).toLower = false ∧
        ((Char.ofNat n).isAlpha → (Char.ofNat n).toLower.isAlpha) ∧
          (Char.ofNat n).toLower.toNat < 0x80 := by decide
  exact Text.forall_ascii (p := fun c => isSchemeChar c → isSchemeChar c.toLower ∧
    isOuter c.toLower = false ∧ (c.isAlpha → c.toLower.isAlpha) ∧ c.toLower.toNat < 0x80) hall hc h

/-- A scheme is read again as it was read, in small letters. -/
theorem scheme?_scheme (h : scheme? text = some (scheme, rest)) (back : Text) :
    scheme? (scheme ++ ':' :: back) = some (scheme, back) ∧
      ∀ c ∈ scheme, isOuter c = false ∧ c.toNat < 0x80 := by
  obtain ⟨word, -, rfl, hword⟩ := scheme?_eq_some_iff.1 h
  constructor
  · refine scheme?_eq_some_iff.2 ⟨Text.lower word, rfl, (Text.lower_lower word).symm, ?_, ?_⟩
    · have hletter := hword.letter
      have hchars := hword.chars
      cases word with
      | nil => cases hletter
      | cons c word => exact (isSchemeChar_toLower (hchars c List.mem_cons_self)).2.2.1 hletter
    · intro c hc
      obtain ⟨d, hd, rfl⟩ := List.mem_map.1 hc
      exact (isSchemeChar_toLower (hword.chars d hd)).1
  · intro c hc
    obtain ⟨d, hd, rfl⟩ := List.mem_map.1 hc
    obtain ⟨-, hvisible, -, hascii⟩ := isSchemeChar_toLower (hword.chars d hd)
    exact ⟨hvisible, hascii⟩

/-- An address from behind the two slashes after its scheme. -/
def afterSlashes (scheme input : Text) : Except UrlError Url :=
  match SchemeKind.of scheme with
  | .file => parseFileHost input
  | .web => parseWithAuthority scheme (input.dropWhile isAnySlash)
  | .other => parseWithAuthority scheme input

/-- No base that is no file has part in an address with a scheme and two slashes. -/
theorem parseAgainst_of_slashes {base : Option Url}
    (hbase : ∀ found ∈ base, SchemeKind.of found.scheme ≠ .file) {input : Text}
    (h : scheme? (clean text) = some (scheme, '/' :: '/' :: input)) :
    parseAgainst base text = afterSlashes scheme input := by
  have hslash : isAnySlash '/' = true := rfl
  have hscheme : parseAgainst base text = parseWithScheme base scheme ('/' :: '/' :: input) := by
    rw [parseAgainst.eq_def]
    dsimp only
    rw [h]
  rw [hscheme, parseWithScheme, afterSlashes]
  cases hkind : SchemeKind.of scheme with
  | file =>
    have hnone : base.filter (·.scheme == scheme) = none := by
      rw [Option.filter_eq_none_iff]
      intro found hfound hsame
      refine hbase found hfound ?_
      rw [beq_iff_eq.1 hsame, hkind]
    dsimp only
    rw [hnone, parseFile, if_pos hslash]
    exact if_pos hslash
  | web =>
    dsimp only
    split
    · rw [List.takeWhile_cons_of_pos hslash, List.takeWhile_cons_of_pos hslash,
        if_neg (by simp), List.dropWhile_cons_of_pos hslash, List.dropWhile_cons_of_pos hslash]
    · rw [List.dropWhile_cons_of_pos hslash, List.dropWhile_cons_of_pos hslash]
  | other => rfl

theorem clean_of_visible (h : ∀ c ∈ text, isOuter c = false) : clean text = text := by
  rw [clean_of_stops fun c hc => h c (List.mem_of_head? hc), cleanEnd_of_visible h]

/-- What is written behind a scheme and two slashes is read behind them. -/
theorem parseAgainst_written {base : Option Url}
    (hbase : ∀ found ∈ base, SchemeKind.of found.scheme ≠ .file)
    (h : scheme? text = some (scheme, rest)) {back : Text} (hback : ∀ c ∈ back, isOuter c = false) :
    parseAgainst base (lead scheme back) = afterSlashes scheme back := by
  obtain ⟨hscheme, hvisible⟩ := scheme?_scheme h ('/' :: '/' :: back)
  refine parseAgainst_of_slashes hbase ?_
  rw [clean_of_visible, lead, hscheme]
  intro c hc
  rw [lead, List.mem_append, List.mem_cons, List.mem_cons, List.mem_cons] at hc
  rcases hc with hword | rfl | rfl | rfl | hmem
  · exact (hvisible c hword).1
  · rfl
  · rfl
  · rfl
  · exact hback c hmem

end Lead

section Spelled

variable {url : Url} {authority : Authority} {segments : List Text}

/-- What an address with an authority is read as, if it is the address of no file. -/
structure IsSpelledOut (url : Url) (authority : Authority) (segments : List Text) : Prop where
  named : url.authority = some authority
  path : url.path = .rooted segments
  spelled : IsSpelled url.scheme authority
  settled : ∀ segment ∈ segments, IsSettledFor (.of url.scheme) segment
  rooted : segments = [] → (SchemeKind.of url.scheme).isSpecial = false
  tail : IsEscapedTail (.of url.scheme) url.query url.fragment
  read : ∀ host ∈ authority.host, ∃ text, text ≠ [] ∧ readHost (.of url.scheme) text = .ok host

theorem exists_isSpelledOut {scheme input : Text} (hfile : SchemeKind.of scheme ≠ .file)
    (h : parseWithAuthority scheme input = .ok url) :
    url.scheme = scheme ∧ ∃ authority segments, IsSpelledOut url authority segments := by
  rw [parseWithAuthority_eq] at h
  cases hauthority : parseAuthority scheme input with
  | error error =>
    rw [hauthority] at h
    cases h
  | ok found =>
    rw [hauthority] at h
    cases h
    obtain ⟨hsettled, hrooted⟩ := settledFor_parseAfterAuthority hfile found.2
    exact ⟨rfl, found.1, _, rfl, rfl, isSpelled_of_parseAuthority hauthority, hsettled, hrooted,
      isEscapedTail_parseTail _ _, exists_readHost hauthority⟩

/-- What stands behind the two slashes of an address. -/
def behindSlashes (url : Url) (authority : Authority) (segments : List Text) : Text :=
  authority.render ++ (Path.ofSegments segments ++ tailText url.query url.fragment)

theorem render_eq_lead (hauthority : url.authority = some authority)
    (hpath : url.path = .rooted segments) :
    url.render = lead url.scheme (behindSlashes url authority segments) := by
  rw [render_of_rooted hauthority hpath, lead, lead, behindSlashes, List.append_assoc]
  rfl

/-- Addresses that are written alike up to their hosts have hosts that are written alike. -/
theorem render_eq_of_alike {host found : Host} (hauthority : url.authority = some authority)
    (hhost : authority.host = some host) (hpath : url.path = .rooted segments)
    (hsame : ({ url with authority := some { authority with host := some found } } : Url).render =
      url.render) : found.render = host.render := by
  have hleft : ({ url with authority := some { authority with host := some found } } : Url).render =
      lead url.scheme (behindSlashes url { authority with host := some found } segments) :=
    render_eq_lead rfl hpath
  rw [hleft, render_eq_lead hauthority hpath] at hsame
  have hbehind : "://".toList ++ behindSlashes url { authority with host := some found } segments =
      "://".toList ++ behindSlashes url authority segments := List.append_cancel_left hsame
  have hzone : Authority.render { authority with host := some found } = authority.render :=
    List.append_cancel_right (List.append_cancel_left hbehind)
  rw [render_authority rfl, render_authority hhost] at hzone
  have hplace : placeText found authority.port = placeText host authority.port := by
    change (if authority.hasCredentials then userText authority ++ '@' :: placeText found authority.port
      else placeText found authority.port) = _ at hzone
    split at hzone
    · exact (List.cons.inj (List.append_cancel_left hzone)).2
    · exact hzone
  exact List.append_cancel_right hplace

theorem not_isOuter_of_mem_ofSegments {kind : SchemeKind}
    (h : ∀ segment ∈ segments, IsSettledFor kind segment) {c : Char}
    (hc : c ∈ Path.ofSegments segments) : isOuter c = false := by
  obtain ⟨segment, hsegment, hmem⟩ := List.mem_flatMap.1 hc
  rcases List.mem_cons.1 hmem with rfl | hmem
  · rfl
  · exact not_isOuter_of_not_isEscaped (by decide) ((h segment hsegment).plain c hmem).1

theorem IsSpelledOut.not_isOuter (h : IsSpelledOut url authority segments) {c : Char}
    (hc : c ∈ behindSlashes url authority segments) : isOuter c = false := by
  rw [behindSlashes, List.mem_append, List.mem_append] at hc
  rcases hc with hzone | hpath | htail
  · exact (isZoneChar_of_mem_render h.spelled hzone).1
  · exact not_isOuter_of_mem_ofSegments h.settled hpath
  · exact not_isOuter_of_mem_tailText h.tail htail

/-- What stands behind the slashes is in ASCII. -/
theorem isAscii_behindSlashes {kind : SchemeKind} (hauthority : Text.isAscii authority.render)
    (hsettled : ∀ segment ∈ segments, IsSettledFor kind segment)
    (htail : IsEscapedTail kind url.query url.fragment) :
    Text.isAscii (behindSlashes url authority segments) := by
  obtain ⟨query, hquery⟩ := htail.query
  obtain ⟨fragment, hfragment⟩ := htail.fragment
  rw [Domain.isAscii_iff] at hauthority ⊢
  intro c hc
  rw [behindSlashes, tailText, hquery, hfragment, List.mem_append, List.mem_append,
    List.mem_append] at hc
  have hescaped {inSet : Char → Bool} {plain : Text} (hmem : c ∈ encode inSet plain) :
      c.toNat < Domain.asciiEnd := Domain.isAscii_iff.1 (isAscii_encode inSet plain) c hmem
  rcases hc with hzone | hpath | hasked | hbehind
  · exact hauthority c hzone
  · obtain ⟨segment, hsegment, hmem⟩ := List.mem_flatMap.1 hpath
    rcases List.mem_cons.1 hmem with rfl | hmem
    · decide
    · have hplain := ((hsettled segment hsegment).plain c hmem).1
      rw [isEscaped, Bool.or_eq_false_iff, decide_eq_false_iff_not, Nat.not_le] at hplain
      exact hplain.1
  · obtain ⟨text, htext, hmem⟩ := mem_asked.1 hasked
    obtain ⟨plain, -, rfl⟩ := Option.map_eq_some_iff.1 htext
    rcases List.mem_cons.1 hmem with rfl | hmem
    · decide
    · exact hescaped hmem
  · cases fragment with
    | none => cases hbehind
    | some plain =>
      rcases List.mem_cons.1 hbehind with rfl | hmem
      · decide
      · exact hescaped hmem

theorem IsHostText.isAscii {text : Text} (h : IsHostText text) : Text.isAscii text :=
  Domain.isAscii_iff.2 fun _ hc => (h.of_mem hc).1

theorem isAscii_append {front back : Text} (hfront : Text.isAscii front)
    (hback : Text.isAscii back) : Text.isAscii (front ++ back) := by
  rw [Text.isAscii, List.all_append, Bool.and_eq_true]
  exact ⟨hfront, hback⟩

theorem isAscii_cons {c : Char} {text : Text} (hc : c.toNat < Domain.asciiEnd)
    (htext : Text.isAscii text) : Text.isAscii (c :: text) :=
  Domain.isAscii_iff.2 (List.forall_mem_cons.2 ⟨hc, Domain.isAscii_iff.1 htext⟩)

theorem isAscii_render {scheme : Text} (h : IsSpelled scheme authority) :
    Text.isAscii authority.render := by
  cases hhost : authority.host with
  | none =>
    rw [render_hostless h hhost]
    rfl
  | some host =>
    obtain ⟨user, huser⟩ := h.username
    obtain ⟨secret, hsecret⟩ := h.password
    have hport : Text.isAscii (portText authority.port) := Domain.isAscii_iff.2 fun c hc => by
      have hall : ∀ d ∈ ':' :: "0123456789".toList, d.toNat < Domain.asciiEnd :=
        Text.forall_mem (by decide)
      cases hfound : authority.port with
      | none =>
        rw [hfound] at hc
        cases hc
      | some port =>
        rw [hfound] at hc
        rcases List.mem_cons.1 hc with rfl | hmem
        · exact hall ':' List.mem_cons_self
        · exact hall c (List.mem_cons_of_mem _ (mem_ofNat hmem))
    have hplace := isAscii_append (h.host host hhost).isAscii hport
    rw [render_authority hhost]
    split
    · have hpassword : Text.isAscii
          (if authority.password.isEmpty then [] else ':' :: authority.password) := by
        split
        · rfl
        · rw [hsecret]
          exact isAscii_cons (by decide) (isAscii_encode _ secret)
      refine isAscii_append (isAscii_append ?_ hpassword) (isAscii_cons (by decide) hplace)
      rw [huser]
      exact isAscii_encode _ user
    · exact hplace

theorem ended_ofSegments (kind : SchemeKind) (segments : List Text) (query fragment : Option Text) :
    Text.Stops (fun c => !endsAuthority kind c)
      (Path.ofSegments segments ++ tailText query fragment) := by
  cases segments with
  | cons segment segments => exact Text.stops_cons (by simp [endsAuthority, isSlash]) _
  | nil =>
    intro c hc
    have hstop := stops_tailText query fragment c hc
    rw [isPathChar, Bool.and_eq_false_iff, bne_eq_false_iff_eq, bne_eq_false_iff_eq] at hstop
    rcases hstop with rfl | rfl <;> simp [endsAuthority]

/-- An address is read as it is written, up to its host, which is read anew. -/
theorem IsSpelledOut.parseWithAuthority_eq (h : IsSpelledOut url authority segments)
    (hfile : SchemeKind.of url.scheme ≠ .file) :
    parseWithAuthority url.scheme (behindSlashes url authority segments) =
      match authority.host with
      | none => .ok url
      | some host => (readHost (.of url.scheme) host.render).map fun found =>
          { url with authority := some { authority with host := some found } } := by
  have hended := ended_ofSegments (.of url.scheme) segments url.query url.fragment
  have hpath := parseAfterAuthority_written hfile h.settled h.rooted
    (stops_tailText url.query url.fragment)
  rw [Url.parseWithAuthority_eq, behindSlashes]
  have htail (authority : Authority) :
      withTail { scheme := url.scheme, authority := some authority, path := .rooted segments }
        (tailText url.query url.fragment) = { url with authority := some authority } := by
    refine (withTail_tailText
      { scheme := url.scheme, authority := some authority, path := .rooted segments } h.tail).trans ?_
    rw [← h.path]
  cases hhost : authority.host with
  | none =>
    rw [parseAuthority_hostless h.spelled hhost hended]
    simp only [Except.map, hpath, htail]
    rw [← h.named]
  | some host =>
    rw [parseAuthority_spelled h.spelled hhost hended]
    dsimp only
    cases readHost (.of url.scheme) host.render with
    | error error => rfl
    | ok found => simp only [Except.map, hpath, htail]

/-- The address of no file is read as it is written, up to its host. -/
theorem IsSpelledOut.afterSlashes_eq (h : IsSpelledOut url authority segments)
    (hfile : SchemeKind.of url.scheme ≠ .file) :
    afterSlashes url.scheme (behindSlashes url authority segments) =
      match authority.host with
      | none => .ok url
      | some host => (readHost (.of url.scheme) host.render).map fun found =>
          { url with authority := some { authority with host := some found } } := by
  rw [← h.parseWithAuthority_eq hfile, afterSlashes]
  cases hkind : SchemeKind.of url.scheme with
  | file => exact absurd hkind hfile
  | other => rfl
  | web =>
    have hstops : Text.Stops isAnySlash (behindSlashes url authority segments) := by
      cases hhost : authority.host with
      | none =>
        have hspecial := (h.spelled.hostless hhost).1
        rw [hkind] at hspecial
        cases hspecial
      | some host =>
        obtain ⟨c, rest, hrender⟩ := List.exists_cons_of_ne_nil (h.spelled.render_ne_nil hhost)
        have hzone : IsZoneChar c :=
          isZoneChar_of_mem_render h.spelled (hrender ▸ List.mem_cons_self)
        have hends := hzone.2.1
        rw [endsAuthority_web, Bool.or_eq_false_iff, Bool.or_eq_false_iff] at hends
        rw [behindSlashes, hrender]
        exact Text.stops_cons hends.1.1 _
    dsimp only
    rw [Text.dropWhile_of_stops hstops]

end Spelled

section File

variable {input text after : Text} {url : Url} {host : Option Host} {segments : List Text}

/-- A text without one slash at its start, if it has one. -/
def dropSlash (text : Text) : Text := if text.head?.any isAnySlash then text.drop 1 else text

/-- A file address is read by what stands where a host would. -/
theorem parseFileHost_eq (htext : input.takeWhile (fun c => !endsAuthority .web c) = text)
    (hafter : input.dropWhile (fun c => !endsAuthority .web c) = after) :
    parseFileHost input =
      if isDrive text then .ok (fileAt none [] input)
      else if text.isEmpty then .ok (fileAt none [[]] (dropSlash after))
      else (parseHost text).map fun host =>
        fileAt (if host = .domain "localhost".toList then none else some host) []
          (dropSlash after) := by
  have hwhole := List.takeWhile_append_dropWhile
    (p := fun c => !endsAuthority .web c) (l := input)
  rw [htext, hafter] at hwhole
  have hdrop : input.drop text.length = after := by rw [← hwhole, List.drop_left]
  simp only [endsAuthority_web] at htext
  simp only [parseFileHost, htext, hdrop, dropSlash]
  split
  · rfl
  · split
    · rfl
    · cases parseHost text <;> rfl

theorem dropEmptyFront_ne_nil (h : segments ≠ []) : dropEmptyFront segments ≠ [] := by
  induction segments using dropEmptyFront.induct with
  | case1 segment rest ih =>
    rw [dropEmptyFront]
    exact ih (List.cons_ne_nil _ _)
  | case2 segments hfront =>
    rw [dropEmptyFront_of_kept hfront]
    exact h

theorem dropEmptyFront_dropEmptyFront (segments : List Text) :
    dropEmptyFront (dropEmptyFront segments) = dropEmptyFront segments := by
  induction segments using dropEmptyFront.induct with
  | case1 segment rest ih =>
    rw [dropEmptyFront]
    exact ih
  | case2 segments hfront => rw [dropEmptyFront_of_kept hfront, dropEmptyFront_of_kept hfront]

theorem exists_of_isDrive {segment : Text} (h : isDrive segment) :
    ∃ letter mark, segment = [letter, mark] ∧ letter.isAlpha ∧ (mark = ':' ∨ mark = '|') := by
  rw [isDrive, Bool.and_eq_true, beq_iff_eq] at h
  match segment, h with
  | [letter, mark], h =>
    simp only [startsWithDrive, Bool.and_eq_true, Bool.or_eq_true, beq_iff_eq] at h
    exact ⟨letter, mark, rfl, h.2.1.1, h.2.1.2⟩

/-- A drive letter with its colon is settled. -/
theorem settledFor_nameDrive (h : ∀ segment ∈ segments, IsSettledFor .file segment) :
    ∀ segment ∈ nameDrive segments, IsSettledFor .file segment := by
  cases segments with
  | nil => exact h
  | cons first rest =>
    rw [List.forall_mem_cons] at h
    refine List.forall_mem_cons.2 ⟨?_, h.2⟩
    split
    · rename_i hdrive
      obtain ⟨letter, mark, rfl, -, -⟩ := exists_of_isDrive hdrive
      constructor
      · simp [isSingleDot, Text.lower]
      · simp [isDoubleDot, Text.lower]
      · simp only [List.take_succ_cons, List.take_zero, List.cons_append, List.nil_append,
          List.forall_mem_cons]
        exact ⟨h.1.plain letter List.mem_cons_self, by decide, List.forall_mem_nil _⟩
    · exact h.1

/-- What a file address is read as. -/
structure IsFileSpelled (url : Url) (host : Option Host) (segments : List Text) : Prop where
  scheme : url.scheme = fileScheme
  named : url.authority = some { host }
  path : url.path = .rooted segments
  hosted : ∀ found ∈ host, IsHost found ∧ found ≠ .domain "localhost".toList
  settled : ∀ segment ∈ segments, IsSettledFor .file segment
  nonempty : segments ≠ []
  trimmed : dropEmptyFront segments = segments
  tail : IsEscapedTail .file url.query url.fragment

theorem exists_isFileSpelled_fileAt
    (hhost : ∀ found ∈ host, IsHost found ∧ found ≠ .domain "localhost".toList)
    {start : List Text} (hstart : ∀ segment ∈ start, IsSettledFor .file segment) (input : Text) :
    ∃ kept segments, IsFileSpelled (fileAt host start input) kept segments := by
  have hadded := settledFor_addSegments hstart input
  have hne := addSegments_ne_nil (cutPath_ne_nil .file input) start
  have hsegments : (∀ segment ∈ addFileSegments start (cutPath .file input).1,
      IsSettledFor .file segment) ∧ addFileSegments start (cutPath .file input).1 ≠ [] := by
    rw [addFileSegments]
    split
    · exact ⟨hadded, hne⟩
    · refine ⟨settledFor_nameDrive hadded, ?_⟩
      obtain ⟨first, rest, hfirst⟩ := List.exists_cons_of_ne_nil hne
      rw [hfirst]
      exact List.cons_ne_nil _ _
  refine ⟨_, _, rfl, rfl, rfl, ?_, fun segment hsegment =>
    hsegments.1 segment (dropEmptyFront_subset _ hsegment), dropEmptyFront_ne_nil hsegments.2,
    dropEmptyFront_dropEmptyFront _, isEscapedTail_parseTail .file _⟩
  intro found hfound
  split at hfound
  · cases hfound
  · exact hhost found hfound

theorem exists_isFileSpelled (h : parseFileHost input = .ok url) :
    ∃ host segments, IsFileSpelled url host segments := by
  have hlocal : ∀ found ∈ (none : Option Host),
      IsHost found ∧ found ≠ .domain "localhost".toList := fun found hfound => by cases hfound
  rw [parseFileHost_eq rfl rfl] at h
  split at h
  · cases h
    exact exists_isFileSpelled_fileAt hlocal (List.forall_mem_nil _) _
  · split at h
    · cases h
      exact exists_isFileSpelled_fileAt hlocal
        (List.forall_mem_singleton.2 (isSettledFor_nil .file)) _
    · cases hread : parseHost (input.takeWhile fun c => !endsAuthority .web c) with
      | error error =>
        rw [hread] at h
        cases h
      | ok found =>
        rw [hread] at h
        cases h
        refine exists_isFileSpelled_fileAt ?_ (List.forall_mem_nil _) _
        intro other hother
        split at hother
        · cases hother
        · rename_i hother'
          cases hother
          exact ⟨isHost_of_parseHost hread, hother'⟩

theorem isDrive_render {found : Host} (h : IsHost found) : isDrive found.render = false := by
  rw [Bool.eq_false_iff]
  intro hdrive
  obtain ⟨letter, mark, hrender, hletter, hmark⟩ := exists_of_isDrive hdrive
  rcases allowed_render h with hallowed | ⟨pieces, rfl⟩
  · have hmem : mark ∈ found.render := by
      rw [hrender]
      exact List.mem_cons_of_mem _ (List.mem_singleton_self _)
    have hforbidden := (hallowed mark hmem).2
    rcases hmark with rfl | rfl <;> exact absurd hforbidden (by decide)
  · rw [Host.render, List.cons_append] at hrender
    rw [← (List.cons.inj hrender).1] at hletter
    cases hletter

theorem IsFileSpelled.not_isOuter (h : IsFileSpelled url host segments) {c : Char}
    (hc : c ∈ behindSlashes url { host } segments) : isOuter c = false := by
  rw [behindSlashes, List.mem_append, List.mem_append] at hc
  rcases hc with hzone | hpath | htail
  · cases host with
    | none => cases hzone
    | some found =>
      have hrender : Authority.render { host := some found } = found.render := List.append_nil _
      rw [hrender] at hzone
      exact ((isHostText_render (h.hosted found rfl).1).of_mem hzone).2.1.1
  · exact not_isOuter_of_mem_ofSegments h.settled hpath
  · exact not_isOuter_of_mem_tailText h.tail htail

theorem dropSlash_ofSegments (h : segments ≠ []) (rest : Text) :
    dropSlash (Path.ofSegments segments ++ rest) = Text.join '/' segments ++ rest := by
  rw [Path.ofSegments_eq_join h]
  rfl

/-- A written path is read behind given segments. -/
theorem IsFileSpelled.fileAt_eq (h : IsFileSpelled url host segments) (found : Option Host)
    {start kept : List Text} (hkept : addFileSegments start segments = kept) :
    fileAt found start (Text.join '/' segments ++ tailText url.query url.fragment) =
      { url with
        authority := some { host := if kept.head?.any isDrive then none else found }
        path := .rooted (dropEmptyFront kept) } := by
  rw [fileAt, cutPath_join h.nonempty h.settled (stops_tailText _ _)]
  dsimp only
  rw [hkept, h.scheme]
  generalize (if kept.head?.any isDrive then none else found) = host
  exact withTail_tailText
    { scheme := fileScheme, authority := some { host }, path := .rooted (dropEmptyFront kept) } h.tail

/-- A file without a host is read as it is written. -/
theorem IsFileSpelled.fileAt_none (h : IsFileSpelled url none segments) :
    fileAt none [[]] (Text.join '/' segments ++ tailText url.query url.fragment) = url := by
  have hadded : addFileSegments [[]] segments = [] :: segments := by
    rw [addFileSegments, addSegments_of_settledFor h.settled]
    rfl
  have htrimmed : dropEmptyFront ([] :: segments) = segments := by
    obtain ⟨first, rest, rfl⟩ := List.exists_cons_of_ne_nil h.nonempty
    exact h.trimmed
  rw [h.fileAt_eq none hadded, htrimmed, ← h.path, ite_self, ← h.named]

theorem addFileSegments_nil (h : ∀ segment ∈ segments, IsSettledFor .file segment) :
    addFileSegments [] segments = nameDrive segments := by
  rw [addFileSegments, addSegments_of_settledFor h]
  rfl

/-- A file is read on the host that is written before it, unless its path starts with a
drive letter. -/
theorem IsFileSpelled.fileAt_some (h : IsFileSpelled url host segments)
    (hdrive : segments.head?.any isDrive = false) (found : Option Host) :
    fileAt found [] (Text.join '/' segments ++ tailText url.query url.fragment) =
      { url with authority := some { host := found } } := by
  have hname : nameDrive segments = segments := by
    obtain ⟨first, rest, rfl⟩ := List.exists_cons_of_ne_nil h.nonempty
    rw [List.head?_cons, Option.any_some] at hdrive
    rw [nameDrive, hdrive]
    rfl
  rw [h.fileAt_eq found ((addFileSegments_nil h.settled).trans hname), hdrive, h.trimmed, ← h.path]
  rfl

/-- A drive letter takes the place of the host. -/
theorem IsFileSpelled.fileAt_drive (h : IsFileSpelled url host segments)
    (hdrive : segments.head?.any isDrive) (found : Option Host) :
    ∃ kept, fileAt found [] (Text.join '/' segments ++ tailText url.query url.fragment) =
      { url with authority := some {}, path := .rooted kept } := by
  have hname : (nameDrive segments).head?.any isDrive := by
    obtain ⟨first, rest, rfl⟩ := List.exists_cons_of_ne_nil h.nonempty
    rw [List.head?_cons, Option.any_some] at hdrive
    obtain ⟨letter, mark, rfl, hletter, -⟩ := exists_of_isDrive hdrive
    rw [nameDrive, hdrive, if_pos rfl, List.head?_cons, Option.any_some]
    simp [isDrive, startsWithDrive, hletter]
  refine ⟨dropEmptyFront (nameDrive segments), ?_⟩
  rw [h.fileAt_eq found (addFileSegments_nil h.settled), hname]
  rfl

/-- What stands behind the slashes of a file address is read by its host. -/
theorem IsFileSpelled.afterSlashes_eq (h : IsFileSpelled url host segments) :
    afterSlashes fileScheme (behindSlashes url { host } segments) =
      match host with
      | none => .ok url
      | some host => (parseHost host.render).map fun found =>
          fileAt (if found = .domain "localhost".toList then none else some found) []
            (Text.join '/' segments ++ tailText url.query url.fragment) := by
  have hkind : SchemeKind.of fileScheme = .file := by decide
  have hended := ended_ofSegments .web segments url.query url.fragment
  rw [afterSlashes, hkind, behindSlashes]
  dsimp only
  cases host with
  | none =>
    have hrender : Authority.render { host := none } = [] := rfl
    rw [hrender, List.nil_append, parseFileHost_eq (Text.takeWhile_of_stops hended)
      (Text.dropWhile_of_stops hended), dropSlash_ofSegments h.nonempty, h.fileAt_none]
    rfl
  | some found =>
    obtain ⟨hread, -⟩ := h.hosted found rfl
    have hrender : Authority.render { host := some found } = found.render := List.append_nil _
    have hkept : ∀ c ∈ found.render, (!endsAuthority .web c) = true := fun c hc => by
      rw [((isHostText_render hread).of_mem hc).2.1.2.1]
      rfl
    rw [hrender, parseFileHost_eq (Text.takeWhile_append_of_all hkept hended)
      (Text.dropWhile_append_of_all hkept hended), dropSlash_ofSegments h.nonempty,
      isDrive_render hread, List.isEmpty_eq_false_iff.2 (render_ne_nil hread)]
    rfl

/-- A file without its host is written otherwise. -/
theorem IsFileSpelled.render_hostless_ne {found : Host} (h : IsFileSpelled url (some found) segments)
    (kept : List Text) :
    ({ url with authority := some {}, path := .rooted kept } : Url).render ≠ url.render := by
  intro hsame
  rw [render_eq_lead rfl rfl, render_eq_lead h.named h.path] at hsame
  have hzone : Authority.render { host := some found } = found.render := List.append_nil _
  have hbehind : Path.ofSegments kept ++ tailText url.query url.fragment =
      found.render ++ (Path.ofSegments segments ++ tailText url.query url.fragment) := by
    rw [behindSlashes, behindSlashes, hzone] at hsame
    have hlead : "://".toList ++ (Path.ofSegments kept ++ tailText url.query url.fragment) =
        "://".toList ++ (found.render ++
          (Path.ofSegments segments ++ tailText url.query url.fragment)) :=
      List.append_cancel_left hsame
    exact List.append_cancel_left hlead
  obtain ⟨hread, -⟩ := h.hosted found rfl
  obtain ⟨c, rest, hrender⟩ := List.exists_cons_of_ne_nil (render_ne_nil hread)
  have hwithin : endsAuthority .web c = false :=
    ((isHostText_render hread).of_mem (hrender ▸ List.mem_cons_self)).2.1.2.1
  have hstops := ended_ofSegments .web kept url.query url.fragment c
  rw [hbehind, hrender] at hstops
  have hends : (!endsAuthority .web c) = false := hstops rfl
  rw [hwithin] at hends
  cases hends

/-- A file that is written alike when its path is read behind a host has that host and no
drive letter. -/
theorem IsFileSpelled.of_render_fileAt {host : Host} (h : IsFileSpelled url (some host) segments)
    {found : Option Host}
    (hsame : (fileAt found [] (Text.join '/' segments ++
      tailText url.query url.fragment)).render = url.render) :
    segments.head?.any isDrive = false ∧ ∃ other ∈ found, other.render = host.render := by
  cases hdrive : segments.head?.any isDrive with
  | true =>
    obtain ⟨kept, hkept⟩ := h.fileAt_drive hdrive found
    rw [hkept] at hsame
    exact absurd hsame (h.render_hostless_ne kept)
  | false =>
    rw [h.fileAt_some hdrive] at hsame
    cases found with
    | none =>
      refine absurd ?_ (h.render_hostless_ne segments)
      rw [← h.path]
      exact hsame
    | some other => exact ⟨rfl, other, rfl, render_eq_of_alike h.named rfl h.path hsame⟩

end File

section Whole

variable {text scheme input : Text} {url : Url} {host : Host}

/-- A host of a scheme without special rules is read as it is written. -/
theorem readHost_other (hne : text ≠ []) (h : readHost .other text = .ok host) :
    readHost .other host.render = .ok host := by
  have hread : parsePlainHost text = .ok host := h
  by_cases hbracket : text.head? = some '['
  · obtain ⟨rest, rfl⟩ := List.head?_eq_some_iff.1 hbracket
    have hinside : parseHost ('[' :: rest) = .ok host := hread
    obtain ⟨pieces, rfl⟩ : ∃ pieces, host = .v6 pieces := by
      rw [parseHost] at hinside
      split at hinside
      · split at hinside
        · cases hinside
          exact ⟨_, rfl⟩
        · cases hinside
      · cases hinside
    exact parseHost_render (isHost_of_parseHost hinside) fun name hname => by cases hname
  · rw [parsePlainHost_of_ne_bracket hbracket] at hread
    split at hread
    · cases hread
    · rename_i hplain
      cases hread
      have hspares : Spares isControl := Text.forall_mem (by decide)
      have hbreaks : ∀ d ∈ '%' :: Text.hexDigits, isHostBreaker d = false :=
        Text.forall_mem (by decide)
      have hkept : ∀ c ∈ encode isControl text, isHostBreaker c = false := by
        intro c hc
        rcases mem_encode hc with ⟨hmem, -⟩ | hescape
        · exact Bool.eq_false_iff.2 fun hbreak => hplain (List.any_eq_true.2 ⟨c, hmem, hbreak⟩)
        · exact hbreaks c hescape
      have hopen : (encode isControl text).head? ≠ some '[' := fun hhead => by
        have hbreak := hkept '[' (List.mem_of_head? hhead)
        cases hbreak
      change parsePlainHost (encode isControl text) = _
      rw [parsePlainHost_of_ne_bracket hopen, if_neg (by simpa using hkept), encode_encode hspares]

/-- The host of an address, if it has one. -/
def host? (url : Url) : Option Host := url.authority.bind (·.host)

theorem IsSpelledOut.host?_eq {authority : Authority} {segments : List Text}
    (h : IsSpelledOut url authority segments) : url.host? = authority.host := by
  rw [host?, h.named]
  rfl

theorem IsFileSpelled.host?_eq {host : Option Host} {segments : List Text}
    (h : IsFileSpelled url host segments) : url.host? = host := by
  rw [host?, h.named]
  rfl

/-- Whether an address is read as it is written: where names are brought into ASCII, its
name is one that is read, and a drive letter does not take the place of its host. -/
structure IsRestated (url : Url) : Prop where
  named : SchemeKind.of url.scheme ≠ .other → ∀ name, url.host? = some (.domain name) →
    Domain.IsReadable name
  driveless : url.scheme = fileScheme → url.host?.isSome →
    (segmentsOf url).head?.any isDrive = false

/-- A host is read as it is written, if its name is one that is read. -/
theorem parseHost_render_of_isReadable (h : IsHost host)
    (hnamed : ∀ name, host = .domain name → Domain.IsReadable name) :
    parseHost host.render = .ok host :=
  parseHost_render h fun name hname => by
    subst hname
    obtain ⟨⟨text, htext⟩, -, -⟩ := h
    exact (Domain.toAscii?_again_iff htext).2 (hnamed name rfl)

/-- The host of a scheme with special rules is read in one way. -/
theorem readHost_eq_parseHost {kind : SchemeKind} (hkind : kind ≠ .other) (text : Text) :
    readHost kind text = parseHost text := by
  cases kind with
  | other => exact absurd rfl hkind
  | web => rfl
  | file => rfl

/-- An address of no file is written as it was read, and read again up to its host. -/
theorem exists_of_afterSlashes (hfile : SchemeKind.of scheme ≠ .file)
    (h : afterSlashes scheme input = .ok url) :
    url.scheme = scheme ∧ ∃ authority segments, IsSpelledOut url authority segments := by
  rw [afterSlashes] at h
  cases hkind : SchemeKind.of scheme with
  | file => exact absurd hkind hfile
  | web =>
    rw [hkind] at h
    exact exists_isSpelledOut hfile h
  | other =>
    rw [hkind] at h
    exact exists_isSpelledOut hfile h

theorem exists_of_afterSlashes_file (hfile : SchemeKind.of scheme = .file)
    (h : afterSlashes scheme input = .ok url) :
    scheme = fileScheme ∧ ∃ host segments, IsFileSpelled url host segments := by
  rw [afterSlashes, hfile] at h
  refine ⟨?_, exists_isFileSpelled h⟩
  rw [SchemeKind.of] at hfile
  split at hfile
  · assumption
  · split at hfile <;> cases hfile

/-- A written address is read by what stands behind its slashes. -/
theorem parseAgainst_render {base : Option Url}
    (hbase : ∀ found ∈ base, SchemeKind.of found.scheme ≠ .file)
    (h : scheme? (clean text) = some (scheme, '/' :: '/' :: input))
    {authority : Authority} {segments : List Text} (hscheme : url.scheme = scheme)
    (hauthority : url.authority = some authority)
    (hpath : url.path = .rooted segments)
    (hvisible : ∀ c ∈ behindSlashes url authority segments, isOuter c = false) :
    parseAgainst base url.render = afterSlashes url.scheme (behindSlashes url authority segments) := by
  rw [render_eq_lead hauthority hpath]
  exact parseAgainst_written hbase (hscheme ▸ h) hvisible

/-- An address with a scheme and two slashes is written in ASCII. -/
theorem isAscii_render_of_slashes (h : scheme? (clean text) = some (scheme, '/' :: '/' :: input))
    (hread : afterSlashes scheme input = .ok url) : Text.isAscii url.render := by
  have hlead {back : Text} (hback : Text.isAscii back) : Text.isAscii (lead scheme back) := by
    have hascii : Text.isAscii scheme :=
      Domain.isAscii_iff.2 fun c hc => ((scheme?_scheme h []).2 c hc).2
    exact isAscii_append hascii
      (isAscii_cons (by decide) (isAscii_cons (by decide) (isAscii_cons (by decide) hback)))
  by_cases hfile : SchemeKind.of scheme = .file
  · obtain ⟨rfl, host, segments, hspelled⟩ := exists_of_afterSlashes_file hfile hread
    rw [render_eq_lead hspelled.named hspelled.path, hspelled.scheme]
    refine hlead (isAscii_behindSlashes ?_ hspelled.settled hspelled.tail)
    cases host with
    | none => rfl
    | some found =>
      have hrender : Authority.render { host := some found } = found.render := List.append_nil _
      rw [hrender]
      exact (isHostText_render (hspelled.hosted found rfl).1).isAscii
  · obtain ⟨rfl, authority, segments, hspelled⟩ := exists_of_afterSlashes hfile hread
    rw [render_eq_lead hspelled.named hspelled.path]
    exact hlead (isAscii_behindSlashes (isAscii_render hspelled.spelled) hspelled.settled
      hspelled.tail)

/-- An address of no file that is left alone is read as it is written behind its slashes. -/
theorem IsSpelledOut.afterSlashes_of_isRestated {authority : Authority} {segments : List Text}
    (h : IsSpelledOut url authority segments) (hfile : SchemeKind.of url.scheme ≠ .file)
    (hstable : IsRestated url) :
    afterSlashes url.scheme (behindSlashes url authority segments) = .ok url := by
  rw [h.afterSlashes_eq hfile]
  cases hfound : authority.host with
  | none => rfl
  | some host =>
    obtain ⟨text, hne, hread⟩ := h.read host hfound
    have hagain : readHost (.of url.scheme) host.render = .ok host := by
      by_cases hother : SchemeKind.of url.scheme = .other
      · rw [hother] at hread ⊢
        exact readHost_other hne hread
      · rw [readHost_eq_parseHost hother] at hread ⊢
        refine parseHost_render_of_isReadable (isHost_of_parseHost hread) ?_
        rintro name rfl
        exact hstable.named hother name (h.host?_eq.trans hfound)
    have hsame : { authority with host := some host } = authority := by rw [← hfound]
    simp only [hagain, Except.map, hsame]
    rw [← h.named]

/-- A file address that is left alone is read as it is written behind its slashes. -/
theorem IsFileSpelled.afterSlashes_of_isRestated {host : Option Host} {segments : List Text}
    (h : IsFileSpelled url host segments) (hstable : IsRestated url) :
    afterSlashes fileScheme (behindSlashes url { host } segments) = .ok url := by
  rw [h.afterSlashes_eq]
  cases host with
  | none => rfl
  | some found =>
    obtain ⟨hread, hlocal⟩ := h.hosted found rfl
    have hdrive := hstable.driveless h.scheme (by rw [h.host?_eq]; rfl)
    rw [segmentsOf, h.path] at hdrive
    have hagain : parseHost found.render = .ok found := by
      refine parseHost_render_of_isReadable hread ?_
      rintro name rfl
      refine hstable.named ?_ name h.host?_eq
      rw [h.scheme]
      decide
    simp only [hagain, Except.map, if_neg hlocal]
    rw [h.fileAt_some hdrive, ← h.named]

/-- An address that is left alone is read as it is written, against any base that is no
file. -/
theorem IsRestated.parseAgainst_eq (hstable : IsRestated url)
    (h : scheme? (clean text) = some (scheme, '/' :: '/' :: input))
    (hread : afterSlashes scheme input = .ok url) {base : Option Url}
    (hbase : ∀ found ∈ base, SchemeKind.of found.scheme ≠ .file) :
    parseAgainst base url.render = .ok url := by
  by_cases hfile : SchemeKind.of scheme = .file
  · obtain ⟨rfl, host, segments, hspelled⟩ := exists_of_afterSlashes_file hfile hread
    rw [parseAgainst_render hbase h hspelled.scheme hspelled.named hspelled.path
      fun c hc => hspelled.not_isOuter hc, hspelled.scheme]
    exact hspelled.afterSlashes_of_isRestated hstable
  · obtain ⟨rfl, authority, segments, hspelled⟩ := exists_of_afterSlashes hfile hread
    rw [parseAgainst_render hbase h rfl hspelled.named hspelled.path
      fun c hc => hspelled.not_isOuter hc]
    exact hspelled.afterSlashes_of_isRestated hfile hstable

/-- A name that is read as a host that is written alike is one that is read. -/
theorem isReadable_of_parseHost {name : Text} (h : IsHost (.domain name))
    (hread : parseHost name = .ok host) (hsame : host.render = name) :
    Domain.IsReadable name := by
  obtain ⟨⟨text, htext⟩, -, hnumber⟩ := h
  rw [← Domain.toAscii?_again_iff htext]
  have hbracket : name.head? ≠ some '[' := fun hopen =>
    absurd (Domain.allowed_of_toAscii? htext '[' (List.mem_of_head? hopen)).2 (by decide)
  rw [parseHost_of_ne_bracket hbracket, hostOfName.eq_def] at hread
  split at hread
  · cases hread
  · cases hread
  · rename_i other _ hother
    split at hread
    · split at hread
      · cases hread
        rw [← hsame, Host.render, endsInNumber_renderV4] at hnumber
        cases hnumber
      · cases hread
    · cases hread
      rw [hother, ← hsame]
      rfl

/-- An address of no file that is read as one that is written alike is one that is left
alone. -/
theorem IsSpelledOut.isRestated_of_alike {authority : Authority} {segments : List Text}
    (h : IsSpelledOut url authority segments) (hfile : SchemeKind.of url.scheme ≠ .file)
    {again : Url}
    (hagain : afterSlashes url.scheme (behindSlashes url authority segments) = .ok again)
    (hsame : again.render = url.render) : IsRestated url := by
  rw [h.afterSlashes_eq hfile] at hagain
  refine ⟨fun hother name hname => ?_, fun hscheme _ => absurd ?_ hfile⟩
  · have hfound := h.host?_eq.symm.trans hname
    obtain ⟨written, -, hwritten⟩ := h.read _ hfound
    rw [readHost_eq_parseHost hother] at hwritten
    simp only [hfound, Host.render, readHost_eq_parseHost hother] at hagain
    cases hparsed : parseHost name with
    | error error =>
      rw [hparsed] at hagain
      cases hagain
    | ok found =>
      rw [hparsed] at hagain
      cases hagain
      have hrender := render_eq_of_alike h.named hfound h.path hsame
      exact isReadable_of_parseHost (isHost_of_parseHost hwritten) hparsed hrender
  · rw [hscheme]
    decide

/-- A file address that is read as one that is written alike is one that is left alone. -/
theorem IsFileSpelled.isRestated_of_alike {host : Option Host} {segments : List Text}
    (h : IsFileSpelled url host segments) {again : Url}
    (hagain : afterSlashes fileScheme (behindSlashes url { host } segments) = .ok again)
    (hsame : again.render = url.render) : IsRestated url := by
  rw [h.afterSlashes_eq] at hagain
  cases host with
  | none =>
    refine ⟨fun _ name hname => ?_, fun _ hsome => ?_⟩
    · rw [h.host?_eq] at hname
      cases hname
    · rw [h.host?_eq] at hsome
      cases hsome
  | some host =>
    dsimp only at hagain
    obtain ⟨hisHost, -⟩ := h.hosted host rfl
    cases hparsed : parseHost host.render with
    | error error =>
      rw [hparsed] at hagain
      cases hagain
    | ok found =>
      rw [hparsed] at hagain
      cases hagain
      obtain ⟨hdrive, other, hother, hrender⟩ := h.of_render_fileAt hsame
      refine ⟨fun _ name hname => ?_, fun _ _ => ?_⟩
      · cases h.host?_eq.symm.trans hname
        split at hother
        · cases hother
        · cases hother
          exact isReadable_of_parseHost hisHost hparsed hrender
      · rw [segmentsOf, h.path]
        exact hdrive

/-- An address that is read as one that is written alike is one that is left alone. -/
theorem isRestated_of_alike (h : scheme? (clean text) = some (scheme, '/' :: '/' :: input))
    (hread : afterSlashes scheme input = .ok url) {base : Option Url}
    (hbase : ∀ found ∈ base, SchemeKind.of found.scheme ≠ .file) {again : Url}
    (hagain : parseAgainst base url.render = .ok again) (hsame : again.render = url.render) :
    IsRestated url := by
  by_cases hfile : SchemeKind.of scheme = .file
  · obtain ⟨rfl, host, segments, hspelled⟩ := exists_of_afterSlashes_file hfile hread
    rw [parseAgainst_render hbase h hspelled.scheme hspelled.named hspelled.path
      fun c hc => hspelled.not_isOuter hc, hspelled.scheme] at hagain
    exact hspelled.isRestated_of_alike hagain hsame
  · obtain ⟨rfl, authority, segments, hspelled⟩ := exists_of_afterSlashes hfile hread
    rw [parseAgainst_render hbase h rfl hspelled.named hspelled.path
      fun c hc => hspelled.not_isOuter hc] at hagain
    exact hspelled.isRestated_of_alike hfile hagain hsame

end Whole

end RuleGateway.Url
