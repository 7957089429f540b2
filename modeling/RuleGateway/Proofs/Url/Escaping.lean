import RuleGateway.Proofs.Percent.Runs
import RuleGateway.Proofs.Url.Web

/-!
# Addresses with their characters outside ASCII escaped

An address is read as it is when its characters outside ASCII are escaped: what ends its
parts is in ASCII, the parts are escaped as they are read, and the name of a host is read
from the bytes that it stands for. This holds behind the scheme (`parseWithAuthority_escapeWide`)
and of what has no scheme (`join_escapeWide`).
-/

namespace RuleGateway.Url

open Percent

section Kinds

theorem isBlind_isDigit : IsBlind Char.isDigit :=
  isBlind_of_ascii fun c hc => ⟨Text.toNat_lt_of_isDigit hc, by rintro rfl; cases hc⟩

theorem isBlind_isAlpha : IsBlind Char.isAlpha :=
  isBlind_of_ascii fun c hc => ⟨Text.toNat_lt_of_isAlpha hc, by rintro rfl; cases hc⟩

theorem isBlind_isSchemeChar : IsBlind isSchemeChar := by
  have hmarks : IsBlind (['+', '-', '.'].contains ·) :=
    isBlind_of_seen ['+', '-', '.'] (Text.forall_mem (by decide)) fun c hc => by
      rw [Bool.eq_false_iff.2 fun hmem => hc (List.contains_iff_mem.1 hmem)]
      rfl
  exact (isBlind_isAlpha.or isBlind_isDigit).or hmarks

theorem isBlind_bne {d : Char} (hascii : d.toNat < 0x80) (hd : d ∉ '%' :: Text.hexDigits) :
    IsBlind (· != d) :=
  isBlind_of_seen [d] (List.forall_mem_singleton.2 ⟨hascii, hd⟩) fun c hc => by
    rw [List.mem_singleton] at hc
    have hpercent : '%' ≠ d := by
      rintro rfl
      exact hd List.mem_cons_self
    rw [bne_iff_ne.2 hc, bne_iff_ne.2 hpercent]

theorem isBlind_isPathChar : IsBlind isPathChar :=
  isBlind_of_seen ['?', '#'] (Text.forall_mem (by decide)) fun c hc => by
    simp only [List.mem_cons, List.not_mem_nil, or_false, not_or] at hc
    simp [isPathChar, hc]

theorem isBlind_isAnySlash : IsBlind isAnySlash :=
  isBlind_of_seen ['/', '\\'] (Text.forall_mem (by decide)) fun c hc => by
    simp only [List.mem_cons, List.not_mem_nil, or_false, not_or] at hc
    simp [isAnySlash, hc]

theorem isBlind_endsAuthority (kind : SchemeKind) : IsBlind (endsAuthority kind) :=
  isBlind_of_seen ['/', '\\', '?', '#'] (Text.forall_mem (by decide)) fun c hc => by
    simp only [List.mem_cons, List.not_mem_nil, or_false, not_or] at hc
    simp [endsAuthority, isSlash, hc]

theorem isBlind_goesOn (kind : SchemeKind) : IsBlind fun c => !endsAuthority kind c :=
  isBlind_of_seen ['/', '\\', '?', '#'] (Text.forall_mem (by decide)) fun c hc => by
    simp only [List.mem_cons, List.not_mem_nil, or_false, not_or] at hc
    simp [endsAuthority, isSlash, hc]

theorem isBlind_not_isHostBreaker : IsBlind fun c => !isHostBreaker c :=
  isBlind_of_seen ('\x00' :: "\t\n\r #/:<>?@[\\]^|".toList) (Text.forall_mem (by decide))
    fun c hc => by
      have hpercent : isHostBreaker '%' = false := by decide
      rw [List.mem_cons, not_or] at hc
      rw [hpercent, isHostBreaker, beq_eq_false_iff_ne.2 hc.1, Bool.false_or, Bool.not_false,
        Bool.not_eq_true', Bool.eq_false_iff, Ne, List.contains_iff_mem]
      exact hc.2

theorem isBlind_isOuter : IsBlind isOuter :=
  isBlind_of_ascii fun c hc => by
    rw [isOuter, decide_eq_true_eq] at hc
    refine ⟨by omega, ?_⟩
    rintro rfl
    exact absurd hc (by decide)

theorem isBlind_isKept : IsBlind isKept :=
  isBlind_of_seen ['\t', '\n', '\r'] (Text.forall_mem (by decide)) fun c hc => by
    rw [isKept, isKept, Bool.not_eq_eq_eq_not, Bool.not_not]
    rw [Bool.eq_false_iff.2 fun hmem => hc (List.contains_iff_mem.1 hmem)]
    rfl

end Kinds

section Authority

variable {kind : SchemeKind} {scheme text rest : Text}

theorem head?_escapeWide_eq {c : Char} (hascii : c.toNat < 0x80) (hc : c ∉ '%' :: Text.hexDigits)
    (text : Text) : (escapeWide text).head? = some c ↔ text.head? = some c := by
  cases text with
  | nil => exact Iff.rfl
  | cons d text =>
    by_cases hd : d.toNat < 0x80
    · rw [escapeWide_cons_of_ascii hd, List.head?_cons, List.head?_cons]
    · obtain ⟨escaped, hescape⟩ := exists_escapeChar_eq d
      rw [escapeWide_cons_of_wide (Nat.le_of_not_lt hd), hescape, List.cons_append,
        List.head?_cons, List.head?_cons, Option.some_inj, Option.some_inj]
      constructor
      · rintro rfl
        exact absurd List.mem_cons_self hc
      · rintro rfl
        exact absurd hascii hd

/-- An address in brackets is in ASCII, and nothing with an escape is one. -/
theorem v6?_escapeWide (text : Text) : Ip.v6? (escapeWide text) = Ip.v6? text := by
  have hchars : ∀ c ∈ Ip.addressChars, c.toNat < 0x80 ∧ c ≠ '%' := Text.forall_mem (by decide)
  by_cases hascii : ∀ c ∈ text, c.toNat < 0x80
  · rw [escapeWide_of_ascii hascii]
  simp only [not_forall, Nat.not_lt] at hascii
  obtain ⟨c, hc, hwide⟩ := hascii
  have hpercent := mem_escapeWide_of_wide hwide hc
  have hnone : Ip.v6? text = none := Option.eq_none_iff_forall_ne_some.2 fun pieces hread =>
    absurd (hchars c (Ip.mem_of_v6? hread hc)).1 (Nat.not_lt.2 hwide)
  rw [hnone]
  exact Option.eq_none_iff_forall_ne_some.2 fun pieces hread =>
    (hchars '%' (Ip.mem_of_v6? hread hpercent)).2 rfl

theorem toAscii?_escapeWide (text : Text) :
    Domain.toAscii? (escapeWide text) = Domain.toAscii? text := by
  rw [Domain.toAscii?, Domain.toAscii?, decodeLoose_escapeWide]

theorem parseHost_escapeWide (text : Text) : parseHost (escapeWide text) = parseHost text := by
  have hopen := head?_escapeWide_eq (c := '[') (by decide) (by decide) text
  by_cases hbracket : text.head? = some '['
  · obtain ⟨rest, rfl⟩ := List.head?_eq_some_iff.1 hbracket
    have hclose : Text.endsWith (escapeWide rest) ']' = Text.endsWith rest ']' := by
      rw [Text.endsWith, Text.endsWith, Bool.eq_iff_iff, beq_iff_eq, beq_iff_eq,
        getLast?_escapeWide_eq (by decide) (by decide)]
    rw [escapeWide_cons_of_ascii (by decide), parseHost, parseHost, hclose]
    split
    · rename_i hend
      obtain ⟨inside, rfl⟩ := List.getLast?_eq_some_iff.1 (beq_iff_eq.1 hend)
      rw [escapeWide_append, escapeWide_of_ascii (List.forall_mem_singleton.2 (by decide)),
        List.dropLast_concat, List.dropLast_concat, v6?_escapeWide]
    · rfl
  · rw [parseHost_of_ne_bracket hbracket, parseHost_of_ne_bracket fun h => hbracket (hopen.1 h),
      toAscii?_escapeWide]

theorem parsePlainHost_escapeWide (text : Text) :
    parsePlainHost (escapeWide text) = parsePlainHost text := by
  have hopen := head?_escapeWide_eq (c := '[') (by decide) (by decide) text
  have hspares : Spares isControl := Text.forall_mem (by decide)
  have hbreaks : (escapeWide text).any isHostBreaker = text.any isHostBreaker := by
    rw [List.any_eq_not_all_not, List.any_eq_not_all_not,
      all_escapeWide isBlind_not_isHostBreaker]
  by_cases hbracket : text.head? = some '['
  · obtain ⟨rest, rfl⟩ := List.head?_eq_some_iff.1 hbracket
    have hread := parseHost_escapeWide ('[' :: rest)
    rw [escapeWide_cons_of_ascii (by decide)] at hread ⊢
    exact hread
  · rw [parsePlainHost_of_ne_bracket hbracket,
      parsePlainHost_of_ne_bracket fun h => hbracket (hopen.1 h), hbreaks,
      encode_escapeWide hspares]

theorem hostOf_escapeWide (kind : SchemeKind) (text rest : Text) :
    hostOf kind (escapeWide text) (escapeWide rest) = hostOf kind text rest := by
  have hcolon : (escapeWide rest).head? = some ':' ↔ rest.head? = some ':' :=
    head?_escapeWide_eq (by decide) (by decide) rest
  rw [hostOf.eq_def, hostOf.eq_def, isEmpty_escapeWide]
  simp only [hcolon, parseHost_escapeWide, parsePlainHost_escapeWide]

theorem cutAtLastAt_escapeWide (zone : Text) :
    cutAtLastAt (escapeWide zone) =
      (cutAtLastAt zone).map fun cut => (escapeWide cut.1, escapeWide cut.2) := by
  have hat : '@' ∉ '%' :: Text.hexDigits := by decide
  by_cases hmem : '@' ∈ zone
  · obtain ⟨behind, before, hreverse, hbehind⟩ :=
      List.eq_append_cons_of_mem (List.mem_reverse.2 hmem)
    obtain rfl : zone = before.reverse ++ '@' :: behind.reverse := by
      rw [← List.reverse_reverse zone, hreverse]
      simp
    have hlast : '@' ∉ behind.reverse := fun h => hbehind (List.mem_reverse.1 h)
    rw [escapeWide_append, escapeWide_cons_of_ascii (by decide), cutAtLastAt_append hlast,
      cutAtLastAt_append (not_mem_escapeWide hat hlast)]
    rfl
  · rw [cutAtLastAt_of_not_mem hmem, cutAtLastAt_of_not_mem (not_mem_escapeWide hat hmem)]
    rfl

/-- What is the host of a zone is so when it is escaped. -/
theorem hostLength_escapeWide (kind : SchemeKind) (inside : Bool) (place : Text) :
    hostLength kind inside (escapeWide place) =
      (escapeWide (place.take (hostLength kind inside place))).length := by
  induction place generalizing inside with
  | nil => rfl
  | cons c place ih =>
    by_cases hc : c.toNat < 0x80
    · rw [escapeWide_cons_of_ascii hc, hostLength, hostLength]
      split
      · rfl
      · rw [ih, Nat.add_comm, Nat.add_comm 1, List.take_succ_cons, escapeWide_cons_of_ascii hc,
          List.length_cons]
    · have hwide := Nat.le_of_not_lt hc
      have hplain (d : Char) (hd : d.toNat < 0x80) : c ≠ d := by
        rintro rfl
        exact hc hd
      have hends : endsAuthority kind c = false :=
        ((isBlind_endsAuthority kind).wide c hwide).trans (by cases kind <;> decide)
      have hescape : ∀ d ∈ escapeChar c, endsAuthority kind d = false ∧ d ≠ '[' ∧ d ≠ ']' ∧
          (d = ':' → inside = true) := by
        have hall : ∀ d ∈ '%' :: Text.hexDigits, endsAuthority .web d = false ∧ d ≠ '[' ∧
            d ≠ ']' ∧ d ≠ ':' := Text.forall_mem (by decide)
        intro d hd
        obtain ⟨hweb, hopen, hclose, hcolon⟩ := hall d (escapeChar_subset c hd)
        refine ⟨?_, hopen, hclose, fun h => absurd h hcolon⟩
        cases kind
        · exact hweb
        · exact hweb
        · simp only [endsAuthority, isSlash, SchemeKind.isSpecial, Bool.or_eq_false_iff] at hweb ⊢
          simp [hweb]
      rw [escapeWide_cons_of_wide hwide, hostLength_append hescape, ih, hostLength,
        if_neg (by simp [hends, hplain ':' (by decide)]), if_neg (hplain '[' (by decide)),
        if_neg (hplain ']' (by decide)), Nat.add_comm 1, List.take_succ_cons,
        escapeWide_cons_of_wide hwide, List.length_append]

theorem take_hostLength_escapeWide (kind : SchemeKind) (place : Text) :
    (escapeWide place).take (hostLength kind false (escapeWide place)) =
        escapeWide (place.take (hostLength kind false place)) ∧
      (escapeWide place).drop (hostLength kind false (escapeWide place)) =
        escapeWide (place.drop (hostLength kind false place)) := by
  have hwhole : escapeWide place = escapeWide (place.take (hostLength kind false place)) ++
      escapeWide (place.drop (hostLength kind false place)) := by
    rw [← escapeWide_append, List.take_append_drop]
  have hlength := hostLength_escapeWide kind false place
  rw [hlength]
  constructor
  · rw [hwhole, List.take_left]
  · rw [hwhole, List.drop_left]

theorem credentials_escapeWide (text : Text) : credentials (escapeWide text) = credentials text := by
  have hblind : IsBlind (· != ':') := isBlind_bne (by decide) (by decide)
  have hbehind : ((escapeWide text).dropWhile (· != ':')).drop 1 =
      escapeWide ((text.dropWhile (· != ':')).drop 1) := by
    rw [dropWhile_escapeWide hblind]
    cases hleft : text.dropWhile (· != ':') with
    | nil => rfl
    | cons c rest =>
      have hhead := List.head?_dropWhile_not (· != ':') text
      rw [hleft, List.head?_cons] at hhead
      have hcolon : c = ':' := by simpa using hhead
      rw [hcolon, escapeWide_cons_of_ascii (by decide)]
      rfl
  rw [credentials, credentials, takeWhile_escapeWide hblind, hbehind,
    encode_escapeWide spares_inCredentialSet, encode_escapeWide spares_inCredentialSet]

theorem parsePort_escapeWide (scheme digits : Text) :
    parsePort scheme (escapeWide digits) =
      (parsePort scheme digits).map fun found => (found.1, escapeWide found.2) := by
  have hdigits : escapeWide (digits.takeWhile Char.isDigit) = digits.takeWhile Char.isDigit :=
    escapeWide_of_ascii fun c hc => Nat.lt_of_not_le fun hwide => by
      have hdigit := List.all_eq_true.1 List.all_takeWhile c hc
      rw [isBlind_isDigit.wide c hwide] at hdigit
      cases hdigit
  rw [parsePort, parsePort, takeWhile_escapeWide isBlind_isDigit, hdigits,
    dropWhile_escapeWide isBlind_isDigit]
  simp only [← endsAuthority_web, head?_escapeWide_any (isBlind_endsAuthority .web)]
  cases Text.decimal? (digits.takeWhile Char.isDigit) with
  | none =>
    dsimp only
    split <;> rfl
  | some port =>
    dsimp only
    split
    · rfl
    · split <;> rfl

theorem portOf_escapeWide (scheme behind : Text) :
    portOf scheme (escapeWide behind) =
      (portOf scheme behind).map fun found => (found.1, escapeWide found.2) := by
  have hcolon := head?_escapeWide_eq (c := ':') (by decide) (by decide) behind
  by_cases hport : behind.head? = some ':'
  · obtain ⟨digits, rfl⟩ := List.head?_eq_some_iff.1 hport
    rw [escapeWide_cons_of_ascii (by decide)]
    exact parsePort_escapeWide scheme digits
  · rw [portOf_of_ne_colon hport, portOf_of_ne_colon fun h => hport (hcolon.1 h)]
    rfl

theorem parseAuthority_escapeWide (scheme input : Text) :
    parseAuthority scheme (escapeWide input) =
      (parseAuthority scheme input).map fun found => (found.1, escapeWide found.2) := by
  have hblind := isBlind_goesOn (.of scheme)
  generalize hzone : input.takeWhile (fun c => !endsAuthority (.of scheme) c) = zone
  generalize hafter : input.dropWhile (fun c => !endsAuthority (.of scheme) c) = after
  obtain ⟨user, place, hcut⟩ : ∃ user place, (cutAtLastAt zone).getD ([], zone) = (user, place) :=
    ⟨_, _, rfl⟩
  have hescaped : (cutAtLastAt (escapeWide zone)).getD ([], escapeWide zone) =
      (escapeWide user, escapeWide place) := by
    rw [cutAtLastAt_escapeWide]
    cases hfound : cutAtLastAt zone with
    | none =>
      rw [hfound] at hcut
      cases hcut
      rfl
    | some cut =>
      rw [hfound] at hcut
      cases hcut
      rfl
  have hsome : (cutAtLastAt (escapeWide zone)).isSome = (cutAtLastAt zone).isSome := by
    rw [cutAtLastAt_escapeWide, Option.isSome_map]
  obtain ⟨htake, hdrop⟩ := take_hostLength_escapeWide (.of scheme) place
  rw [parseAuthority_eq scheme input hzone hafter hcut rfl rfl,
    parseAuthority_eq scheme (escapeWide input) ((takeWhile_escapeWide hblind input).trans
      (congrArg escapeWide hzone)) ((dropWhile_escapeWide hblind input).trans
      (congrArg escapeWide hafter)) hescaped htake hdrop]
  simp only [hsome, isEmpty_escapeWide, ← escapeWide_append, hostOf_escapeWide, portOf_escapeWide,
    credentials_escapeWide]
  split
  · rfl
  cases hostOf (.of scheme) (place.take (hostLength (.of scheme) false place))
      (place.drop (hostLength (.of scheme) false place) ++ after) with
  | error error => rfl
  | ok found =>
    cases portOf scheme (place.drop (hostLength (.of scheme) false place) ++ after) with
    | error error => rfl
    | ok port =>
      simp only [bind, Except.bind, Except.map]
      split <;> rfl

end Authority

section Path

variable {kind : SchemeKind} {text : Text}

theorem addSegment_escapeWide (segments : List Text) (segment : Text) (last : Bool) :
    addSegment segments (escapeWide segment) last = addSegment segments segment last := by
  have hdot : isSingleDot (escapeWide segment) = isSingleDot segment := by
    rw [Bool.eq_iff_iff, isSingleDot_iff, isSingleDot_iff, decodeLoose_escapeWide]
  have hdots : isDoubleDot (escapeWide segment) = isDoubleDot segment := by
    rw [Bool.eq_iff_iff, isDoubleDot_iff, isDoubleDot_iff, decodeLoose_escapeWide]
  rw [addSegment, addSegment, hdot, hdots, encode_escapeWide spares_inPathSet]

theorem addSegments_escapeWide (segments pieces : List Text) :
    addSegments segments (pieces.map escapeWide) = addSegments segments pieces := by
  induction pieces generalizing segments with
  | nil => rfl
  | cons piece pieces ih =>
    cases pieces with
    | nil => exact addSegment_escapeWide segments piece true
    | cons next pieces =>
      have hcons (piece next : Text) (pieces : List Text) :
          addSegments segments (piece :: next :: pieces) =
            addSegments (addSegment segments piece false) (next :: pieces) := rfl
      rw [List.map_cons, List.map_cons, hcons, hcons, ← List.map_cons, ih, addSegment_escapeWide]

theorem cutPath_escapeWide (kind : SchemeKind) (input : Text) :
    cutPath kind (escapeWide input) =
      ((cutPath kind input).1.map escapeWide, escapeWide (cutPath kind input).2) := by
  have hwide : ∀ c : Char, 0x80 ≤ c.toNat → (if isSlash kind c then '/' else c) = c := by
    intro c hc
    have hslash : isSlash kind c = false := by
      rw [isSlash, Bool.or_eq_false_iff, Bool.and_eq_false_iff, beq_eq_false_iff_ne,
        beq_eq_false_iff_ne]
      refine ⟨?_, .inr ?_⟩ <;> rintro rfl <;> exact absurd hc (by decide)
    rw [hslash]
    rfl
  have hascii : ∀ c : Char, c.toNat < 0x80 →
      (if isSlash kind c then '/' else c).toNat < 0x80 := by
    intro c hc
    split
    · decide
    · exact hc
  have hescape : ∀ d ∈ '%' :: Text.hexDigits, (if isSlash kind d then '/' else d) = d := by
    cases kind <;> exact Text.forall_mem (by decide)
  have htake := takeWhile_escapeWide isBlind_isPathChar input
  have hdrop := dropWhile_escapeWide isBlind_isPathChar input
  change (Text.split '/' (((escapeWide input).takeWhile isPathChar).map _),
    (escapeWide input).dropWhile isPathChar) = _
  rw [htake, hdrop, map_escapeWide hwide hascii hescape,
    split_escapeWide (by decide) (by decide)]
  rfl

theorem parseSegments_escapeWide (kind : SchemeKind) (start : List Text) (input : Text) :
    parseSegments kind start (escapeWide input) =
      ((parseSegments kind start input).1, escapeWide (parseSegments kind start input).2) := by
  rw [parseSegments, parseSegments, cutPath_escapeWide]
  cases kind with
  | file => simp only [addFileSegments, addSegments_escapeWide]
  | web => simp only [addSegments_escapeWide]
  | other => simp only [addSegments_escapeWide]

theorem parseAfterAuthority_escapeWide (kind : SchemeKind) (input : Text) :
    parseAfterAuthority kind (escapeWide input) =
      ((parseAfterAuthority kind input).1, escapeWide (parseAfterAuthority kind input).2) := by
  cases input with
  | nil => cases kind <;> rfl
  | cons c input =>
    by_cases hc : c.toNat < 0x80
    · rw [escapeWide_cons_of_ascii hc, parseAfterAuthority, parseAfterAuthority]
      split
      · exact parseSegments_escapeWide kind [] input
      · split
        · rw [escapeWide_cons_of_ascii hc]
        · rw [← escapeWide_cons_of_ascii hc, parseSegments_escapeWide]
    · -- Neither the character nor its escape starts a path or ends one.
      have hwide := Nat.le_of_not_lt hc
      have hplain (d : Char) (hd : d.toNat < 0x80) : c ≠ d := by
        rintro rfl
        exact hc hd
      have hgoes (d : Char) (hd : d ≠ '/' ∧ d ≠ '\\' ∧ d ≠ '?' ∧ d ≠ '#') (rest : Text) :
          parseAfterAuthority kind (d :: rest) = parseSegments kind [] (d :: rest) := by
        rw [parseAfterAuthority, if_neg (by simp [isSlash, hd]), if_neg (by simp [hd])]
      obtain ⟨escaped, hescape⟩ := exists_escapeChar_eq c
      have hwhole : '%' :: (escaped ++ escapeWide input) = escapeWide (c :: input) := by
        rw [escapeWide_cons_of_wide hwide, hescape]
        rfl
      rw [← hwhole, hgoes '%' (by decide), hwhole, parseSegments_escapeWide, hgoes c
        ⟨hplain _ (by decide), hplain _ (by decide), hplain _ (by decide), hplain _ (by decide)⟩]

theorem spares_inFragmentSet : Spares inFragmentSet := Text.forall_mem (by decide)

theorem spares_inQuerySet_of (kind : SchemeKind) : Spares (inQuerySet kind) := by
  cases kind <;> exact Text.forall_mem (by decide)

/-- The fragment at the start of a text. -/
def fragment? (text : Text) : Option Text :=
  match text with
  | '#' :: rest => some (encode inFragmentSet rest)
  | _ => none

theorem parseTail_query (kind : SchemeKind) (rest : Text) :
    parseTail kind ('?' :: rest) =
      (some (encode (inQuerySet kind) (rest.takeWhile (· != '#'))),
        fragment? (rest.dropWhile (· != '#'))) := rfl

theorem parseTail_of_ne_query (kind : SchemeKind) (h : text.head? ≠ some '?') :
    parseTail kind text = (none, fragment? text) := by
  rw [parseTail.eq_def]
  split
  · exact absurd rfl h
  · rfl

theorem fragment?_of_ne (h : text.head? ≠ some '#') : fragment? text = none := by
  rw [fragment?.eq_def]
  split
  · exact absurd rfl h
  · rfl

theorem fragment?_escapeWide (text : Text) : fragment? (escapeWide text) = fragment? text := by
  have hmark := head?_escapeWide_eq (c := '#') (by decide) (by decide) text
  by_cases hfragment : text.head? = some '#'
  · obtain ⟨rest, rfl⟩ := List.head?_eq_some_iff.1 hfragment
    rw [escapeWide_cons_of_ascii (by decide), fragment?, fragment?,
      encode_escapeWide spares_inFragmentSet]
  · rw [fragment?_of_ne hfragment, fragment?_of_ne fun h => hfragment (hmark.1 h)]

theorem parseTail_escapeWide (kind : SchemeKind) (input : Text) :
    parseTail kind (escapeWide input) = parseTail kind input := by
  have hmark := head?_escapeWide_eq (c := '?') (by decide) (by decide) input
  have hblind : IsBlind (· != '#') := isBlind_bne (by decide) (by decide)
  by_cases hquery : input.head? = some '?'
  · obtain ⟨rest, rfl⟩ := List.head?_eq_some_iff.1 hquery
    rw [escapeWide_cons_of_ascii (by decide), parseTail_query, parseTail_query,
      takeWhile_escapeWide hblind, dropWhile_escapeWide hblind, fragment?_escapeWide,
      encode_escapeWide (spares_inQuerySet_of kind)]
  · rw [parseTail_of_ne_query kind hquery, parseTail_of_ne_query kind fun h => hquery (hmark.1 h),
      fragment?_escapeWide]

theorem withTail_escapeWide (url : Url) (input : Text) :
    withTail url (escapeWide input) = withTail url input := by
  rw [withTail, withTail, parseTail_escapeWide]

theorem parseWithAuthority_escapeWide (scheme input : Text) :
    parseWithAuthority scheme (escapeWide input) = parseWithAuthority scheme input := by
  rw [parseWithAuthority_eq, parseWithAuthority_eq, parseAuthority_escapeWide]
  cases parseAuthority scheme input with
  | error error => rfl
  | ok found =>
    simp only [Except.map, parseAfterAuthority_escapeWide, withTail_escapeWide]

end Path

section Whole

variable {text : Text}

theorem clean_escapeWide (text : Text) : clean (escapeWide text) = escapeWide (clean text) := by
  have hend (text : Text) : (escapeWide text).reverse.dropWhile isOuter =
      (escapeWide (text.reverse.dropWhile isOuter).reverse).reverse := by
    induction text using List.reverseRecOn with
    | nil => rfl
    | append_singleton front c ih =>
      rw [List.reverse_append, List.reverse_singleton, List.singleton_append, List.dropWhile_cons]
      by_cases hc : c.toNat < 0x80
      · rw [escapeWide_append, escapeWide_cons_of_ascii hc, escapeWide_nil, List.reverse_append,
          List.reverse_singleton, List.singleton_append, List.dropWhile_cons]
        split
        · exact ih
        · rw [List.reverse_cons, List.reverse_reverse, escapeWide_append,
            escapeWide_cons_of_ascii hc, escapeWide_nil, List.reverse_append]
          rfl
      · -- The last character of an escape is no blank.
        have hwide := Nat.le_of_not_lt hc
        have hvisible : ∀ d ∈ '%' :: Text.hexDigits, isOuter d = false := Text.forall_mem (by decide)
        have houter : isOuter c = false := (isBlind_isOuter.wide c hwide).trans (by decide)
        have hstops : Text.Stops isOuter (escapeWide (front ++ [c])).reverse := by
          rw [escapeWide_append, escapeWide_cons_of_wide hwide, escapeWide_nil, List.append_nil,
            List.reverse_append]
          intro d hd
          obtain ⟨escaped, hescape⟩ := exists_escapeChar_eq c
          have hne : (escapeChar c).reverse ≠ [] := by rw [hescape]; simp
          obtain ⟨last, others, hlast⟩ := List.exists_cons_of_ne_nil hne
          rw [hlast, List.cons_append, List.head?_cons, Option.some_inj] at hd
          refine hvisible d (escapeChar_subset c (List.mem_reverse.1 ?_))
          rw [hlast, hd]
          exact List.mem_cons_self
        rw [houter, Text.dropWhile_of_stops hstops]
        simp
  have hkept : isKept '%' = true := by decide
  rw [clean_eq, clean_eq, cleanEnd, cleanEnd, dropWhile_escapeWide isBlind_isOuter, hend,
    List.reverse_reverse, filter_escapeWide isBlind_isKept hkept]

theorem scheme?_escapeWide (input : Text) :
    scheme? (escapeWide input) =
      (scheme? input).map fun found => (found.1, escapeWide found.2) := by
  have hword : escapeWide (input.takeWhile isSchemeChar) = input.takeWhile isSchemeChar :=
    escapeWide_of_ascii fun c hc => Nat.lt_of_not_le fun hwide => by
      have hchar := List.all_eq_true.1 List.all_takeWhile c hc
      rw [isBlind_isSchemeChar.wide c hwide] at hchar
      cases hchar
  have hcolon := head?_escapeWide_eq (c := ':') (by decide) (by decide)
    (input.dropWhile isSchemeChar)
  rw [scheme?, scheme?, head?_escapeWide_any isBlind_isAlpha, takeWhile_escapeWide
    isBlind_isSchemeChar, dropWhile_escapeWide isBlind_isSchemeChar, hword]
  split
  · by_cases hmark : (input.dropWhile isSchemeChar).head? = some ':'
    · obtain ⟨rest, hrest⟩ := List.head?_eq_some_iff.1 hmark
      rw [hrest, escapeWide_cons_of_ascii (by decide)]
      rfl
    · split
      · rename_i hrest
        exact absurd (hcolon.1 (by rw [hrest]; rfl)) hmark
      · split
        · rename_i hrest
          exact absurd (by rw [hrest]; rfl) hmark
        · rfl
  · rfl

theorem parseInDirectory_escapeWide (base : Url) (input : Text) :
    parseInDirectory base (escapeWide input) = parseInDirectory base input := by
  rw [parseInDirectory, parseInDirectory, parseSegments_escapeWide]
  exact withTail_escapeWide _ _

/-- What starts with no mark is a path in the directory of the base. -/
theorem parseRelative_of_plain (base : Url) {c : Char} (rest : Text) (hslash : isAnySlash c = false)
    (hmarks : c ≠ '?' ∧ c ≠ '#') :
    parseRelative base (c :: rest) = .ok (parseInDirectory base (c :: rest)) := by
  rw [parseRelative, if_neg (by simp [hslash])]
  · exact fun h => hmarks.1 h
  · exact fun h => hmarks.2 h

/-- What starts with a slash is an authority if another one follows. -/
theorem parseRelative_of_slash (base : Url) {c : Char} (rest : Text) (hslash : isAnySlash c) :
    parseRelative base (c :: rest) =
      if (rest.head?.map isAnySlash).getD false then
        parseWithAuthority base.scheme
          (if c = '/' ∧ rest.head? = some '/' then rest.drop 1 else rest.dropWhile isAnySlash)
      else
        .ok (withTail { base with path := .rooted (parseSegments (.of base.scheme) [] rest).1 }
          (parseSegments (.of base.scheme) [] rest).2) := by
  rw [parseRelative, if_pos hslash, List.takeWhile_cons_of_pos hslash,
    List.dropWhile_cons_of_pos hslash]
  · cases rest with
    | nil => rfl
    | cons d rest =>
      cases hnext : isAnySlash d with
      | false =>
        rw [List.takeWhile_cons_of_neg (by simp [hnext]), List.head?_cons, Option.map_some,
          Option.getD_some, hnext]
        rfl
      | true =>
        rw [List.takeWhile_cons_of_pos hnext, if_pos (by simp), List.head?_cons, Option.map_some,
          Option.getD_some, hnext, if_pos rfl]
        split
        · rename_i heq
          cases heq
          rfl
        · rename_i hother
          rw [if_neg]
          rintro ⟨rfl, hd⟩
          exact hother rest (by rw [Option.some_inj.1 hd])
  · rintro rfl
    cases hslash
  · rintro rfl
    cases hslash

theorem parseRelative_escapeWide (base : Url) (input : Text) :
    parseRelative base (escapeWide input) = parseRelative base input := by
  cases input with
  | nil => rfl
  | cons c rest =>
    by_cases hc : c.toNat < 0x80
    · have hinside := parseInDirectory_escapeWide base (c :: rest)
      rw [escapeWide_cons_of_ascii hc] at hinside ⊢
      by_cases hquery : c = '?'
      · subst hquery
        have htail := withTail_escapeWide base ('?' :: rest)
        rw [escapeWide_cons_of_ascii hc] at htail
        rw [parseRelative, parseRelative, htail]
      by_cases hfragment : c = '#'
      · subst hfragment
        rw [parseRelative, parseRelative, withFragment, withFragment,
          encode_escapeWide spares_inFragmentSet]
      cases hslash : isAnySlash c with
      | false =>
        rw [parseRelative_of_plain base _ hslash ⟨hquery, hfragment⟩, hinside,
          parseRelative_of_plain base _ hslash ⟨hquery, hfragment⟩]
      | true =>
        have hhead := head?_escapeWide_eq (c := '/') (by decide) (by decide) rest
        rw [parseRelative_of_slash base _ hslash, parseRelative_of_slash base _ hslash,
          head?_escapeWide_any isBlind_isAnySlash, dropWhile_escapeWide isBlind_isAnySlash,
          parseSegments_escapeWide, withTail_escapeWide]
        simp only [hhead]
        split
        · split
          · rename_i hboth
            obtain ⟨behind, rfl⟩ := List.head?_eq_some_iff.1 hboth.2
            rw [escapeWide_cons_of_ascii (by decide)]
            exact parseWithAuthority_escapeWide base.scheme behind
          · exact parseWithAuthority_escapeWide base.scheme _
        · rfl
    · -- Neither the character nor its escape is a mark.
      have hwide := Nat.le_of_not_lt hc
      have hplain (d : Char) (hd : d.toNat < 0x80) : c ≠ d := by
        rintro rfl
        exact hc hd
      obtain ⟨escaped, hescape⟩ := exists_escapeChar_eq c
      have hwhole : '%' :: (escaped ++ escapeWide rest) = escapeWide (c :: rest) := by
        rw [escapeWide_cons_of_wide hwide, hescape]
        rfl
      rw [← hwhole, parseRelative_of_plain base _ rfl (by decide), hwhole,
        parseInDirectory_escapeWide, parseRelative_of_plain base rest
          ((isBlind_isAnySlash.wide c hwide).trans rfl)
          ⟨hplain _ (by decide), hplain _ (by decide)⟩]

/-- The reference of an address without a scheme that is no fragment alone. -/
theorem join_of_relative {base : Url} (hfile : SchemeKind.of base.scheme ≠ .file)
    (h : scheme? (clean text) = none) (hmark : (clean text).head? ≠ some '#') :
    base.join text =
      match base.path with
      | .rootless _ => .error .relativeToRootless
      | .rooted _ => parseRelative base (clean text) := by
  rw [join, parseAgainst, h]
  dsimp only
  generalize clean text = input at hmark
  generalize base.path = path
  split
  · exact absurd rfl hmark
  · rfl
  · exact if_neg hfile

/-- An address without a scheme is joined with a base as it is when it is escaped. -/
theorem join_escapeWide {base : Url} (hfile : SchemeKind.of base.scheme ≠ .file)
    (h : scheme? (clean text) = none) : base.join (escapeWide text) = base.join text := by
  have hmark := head?_escapeWide_eq (c := '#') (by decide) (by decide) (clean text)
  have hscheme : scheme? (clean (escapeWide text)) = none := by
    rw [clean_escapeWide, scheme?_escapeWide, h]
    rfl
  by_cases hfragment : (clean text).head? = some '#'
  · obtain ⟨rest, hrest⟩ := List.head?_eq_some_iff.1 hfragment
    rw [join, join, parseAgainst, parseAgainst, hscheme, h, clean_escapeWide, hrest,
      escapeWide_cons_of_ascii (by decide)]
    simp only [withFragment, encode_escapeWide spares_inFragmentSet]
  · rw [join_of_relative hfile h hfragment, join_of_relative hfile hscheme
      (by rw [clean_escapeWide]; exact fun h => hfragment (hmark.1 h)), clean_escapeWide,
      parseRelative_escapeWide]

end Whole

end RuleGateway.Url
