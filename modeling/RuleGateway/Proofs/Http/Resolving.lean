import RuleGateway.Proofs.Http.Location
import RuleGateway.Proofs.Url.Rereading

/-!
# What a written address leads to

An address outside ASCII is sent to a client as the address that is written for it, or with
its characters outside ASCII escaped where it is no address by itself. An escaped text leads
where the text does, whatever is joined with it (`join_escapeWide_of_isReference`), and a
written address does where it is read as it is written (`leadAlike_ascii_iff`).
-/

namespace RuleGateway

namespace Url

open Percent

variable {base : Url} {text scheme input : Text}

/-- Whether two texts lead to the same address from a base: to none both, or to addresses
that are written alike. -/
def LeadAlike (base : Url) (a b : Text) : Prop :=
  (base.join a).toOption.map render = (base.join b).toOption.map render

/-- Whether a text names a place by itself or from a base: it has a scheme with two slashes
behind it, or none. -/
def IsReference (text : Text) : Prop :=
  scheme? (clean text) = none ∨
    ∃ scheme input, scheme? (clean text) = some (scheme, '/' :: '/' :: input)

section Escaped

/-- A drive letter is in ASCII, and nothing with an escape is one. -/
theorem isDrive_escapeWide (text : Text) : isDrive (escapeWide text) = isDrive text := by
  have hdrive {text : Text} (h : isDrive text) : ∀ c ∈ text, c.toNat < 0x80 ∧ c ≠ '%' := by
    obtain ⟨letter, mark, rfl, hletter, hmark⟩ := exists_of_isDrive h
    refine List.forall_mem_cons.2 ⟨⟨?_, ?_⟩, List.forall_mem_singleton.2 ?_⟩
    · refine Nat.lt_of_not_le fun hwide => ?_
      rw [isBlind_isAlpha.wide letter hwide] at hletter
      cases hletter
    · rintro rfl
      cases hletter
    · rcases hmark with rfl | rfl <;> decide
  by_cases hascii : ∀ c ∈ text, c.toNat < 0x80
  · rw [escapeWide_of_ascii hascii]
  · simp only [not_forall, Nat.not_lt] at hascii
    obtain ⟨c, hc, hwide⟩ := hascii
    have hescaped : isDrive (escapeWide text) = false := Bool.eq_false_iff.2 fun h =>
      (hdrive h '%' (mem_escapeWide_of_wide hwide hc)).2 rfl
    have hplain : isDrive text = false := Bool.eq_false_iff.2 fun h =>
      absurd (hdrive h c hc).1 (Nat.not_lt.2 hwide)
    rw [hescaped, hplain]

theorem fileAt_escapeWide (host : Option Host) (start : List Text) (input : Text) :
    fileAt host start (escapeWide input) = fileAt host start input := by
  rw [fileAt, fileAt, cutPath_escapeWide]
  dsimp only
  rw [addFileSegments, addSegments_escapeWide, withTail_escapeWide]
  rfl

theorem dropSlash_escapeWide (text : Text) :
    dropSlash (escapeWide text) = escapeWide (dropSlash text) := by
  cases text with
  | nil => rfl
  | cons c text =>
    have hhead := head?_escapeWide_any isBlind_isAnySlash (c :: text)
    cases hslash : isAnySlash c with
    | true =>
      have hascii : c.toNat < 0x80 := Nat.lt_of_not_le fun hwide => by
        rw [isBlind_isAnySlash.wide c hwide] at hslash
        cases hslash
      rw [escapeWide_cons_of_ascii hascii, dropSlash, dropSlash, List.head?_cons, Option.any_some,
        List.head?_cons, Option.any_some, hslash]
      rfl
    | false =>
      rw [List.head?_cons, Option.map_some, hslash] at hhead
      obtain ⟨d, hd, hother⟩ := Option.map_eq_some_iff.1 hhead
      rw [dropSlash, dropSlash, hd, Option.any_some, hother, List.head?_cons, Option.any_some,
        hslash]
      rfl

/-- What stands behind a scheme and two slashes is read as it is when it is escaped. -/
theorem afterSlashes_escapeWide (scheme input : Text) :
    afterSlashes scheme (escapeWide input) = afterSlashes scheme input := by
  rw [afterSlashes, afterSlashes]
  cases SchemeKind.of scheme with
  | web =>
    dsimp only
    rw [dropWhile_escapeWide isBlind_isAnySlash, parseWithAuthority_escapeWide]
  | other => exact parseWithAuthority_escapeWide scheme input
  | file =>
    have hblind := isBlind_goesOn .web
    dsimp only
    rw [parseFileHost_eq (takeWhile_escapeWide hblind input) (dropWhile_escapeWide hblind input),
      parseFileHost_eq rfl rfl, isDrive_escapeWide, isEmpty_escapeWide, parseHost_escapeWide]
    simp only [dropSlash_escapeWide, fileAt_escapeWide]

/-- A reference is joined with a base as it is when it is escaped. -/
theorem join_escapeWide_of_isReference (hfile : SchemeKind.of base.scheme ≠ .file)
    (h : IsReference text) : base.join (escapeWide text) = base.join text := by
  rcases h with hnone | ⟨scheme, input, hscheme⟩
  · exact join_escapeWide hfile hnone
  · have hbase : ∀ found ∈ some base, SchemeKind.of found.scheme ≠ .file := by
      rintro found ⟨⟩
      exact hfile
    have hescaped : scheme? (clean (escapeWide text)) =
        some (scheme, '/' :: '/' :: escapeWide input) := by
      rw [clean_escapeWide, scheme?_escapeWide, hscheme, Option.map_some,
        escapeWide_cons_of_ascii (by decide), escapeWide_cons_of_ascii (by decide)]
    rw [join, join, parseAgainst_of_slashes hbase hescaped, parseAgainst_of_slashes hbase hscheme,
      afterSlashes_escapeWide]

/-- Only what has a scheme and two slashes is an address by itself. -/
theorem exists_of_parse {url : Url} (h : IsReference text) (hparse : parse text = .ok url) :
    ∃ scheme input, scheme? (clean text) = some (scheme, '/' :: '/' :: input) ∧
      afterSlashes scheme input = .ok url := by
  rcases h with hnone | ⟨scheme, input, hscheme⟩
  · rw [parse, parseAgainst, hnone] at hparse
    cases hparse
  · have hbase : ∀ found ∈ (none : Option Url), SchemeKind.of found.scheme ≠ .file :=
      fun found hfound => by cases hfound
    exact ⟨scheme, input, hscheme, (parseAgainst_of_slashes hbase hscheme).symm.trans hparse⟩

end Escaped

end Url

namespace Location

open Url

variable {address : Text}

theorem ascii_of_error {error : UrlError} (hprintable : IsPrintable address)
    (h : parse address = .error error) : ascii address = Percent.escapeWide address := by
  rw [ascii]
  split
  · rename_i hascii
    exact (Percent.escapeWide_of_ascii (Domain.isAscii_iff.1 hascii)).symm
  · rw [h]
    exact Percent.encode_eq_escapeWide hprintable

theorem isAscii_ascii (h : IsReference address) : Text.isAscii (ascii address) := by
  rw [ascii]
  split
  · assumption
  · split
    · rename_i url hparse
      obtain ⟨scheme, input, hscheme, hread⟩ := exists_of_parse h hparse
      exact isAscii_render_of_slashes hscheme hread
    · exact Percent.isAscii_encode _ _

theorem isPrintable_ascii (h : IsPrintable address) : IsPrintable (ascii address) := by
  rw [ascii]
  split
  · exact h
  · split
    · exact isPrintable_render ‹_›
    · exact isPrintable_encode (fun c hc => hc) address

/-- What is written for an address leads where the address does, from any page of the web,
if and only if the address is in ASCII, is none by itself, or is left alone. -/
theorem leadAlike_ascii_iff (hprintable : IsPrintable address) (h : IsReference address)
    {base : Url} (hbase : base.HasWebScheme) :
    LeadAlike base (ascii address) address ↔
      (Text.isAscii address = false → ∀ url, parse address = .ok url → IsRestated url) := by
  have hkind : SchemeKind.of base.scheme ≠ .file := by
    rcases hbase with hscheme | hscheme <;> rw [hscheme] <;> decide
  cases hascii : Text.isAscii address with
  | true =>
    have hsame : ascii address = address := if_pos hascii
    rw [hsame]
    exact iff_of_true rfl fun hwide => by cases hwide
  | false =>
    cases hparse : parse address with
    | error error =>
      rw [ascii_of_error hprintable hparse, LeadAlike, join_escapeWide_of_isReference hkind h]
      exact iff_of_true rfl fun _ url hurl => by cases hurl
    | ok url =>
      have hwritten : ascii address = url.render := by
        rw [ascii, hascii, hparse]
        rfl
      obtain ⟨scheme, input, hscheme, hread⟩ := exists_of_parse h hparse
      have hother : ∀ found ∈ some base, SchemeKind.of found.scheme ≠ .file := by
        rintro found ⟨⟩
        exact hkind
      have hjoin : base.join address = .ok url :=
        (parseAgainst_of_slashes hother hscheme).trans hread
      rw [LeadAlike, hwritten, hjoin]
      constructor
      · rintro hsame - other ⟨⟩
        obtain ⟨again, hagain, hrender⟩ := Option.map_eq_some_iff.1 hsame
        cases hjoined : base.join url.render with
        | error error =>
          rw [hjoined] at hagain
          cases hagain
        | ok found =>
          rw [hjoined] at hagain
          cases hagain
          exact isRestated_of_alike hscheme hread hother hjoined hrender
      · intro hstable
        have hagain : base.join url.render = .ok url :=
          (hstable rfl url rfl).parseAgainst_eq hscheme hread hother
        rw [hagain]

/-- Every reference is sent to a client as a text in ASCII that leads where it does, from any
page of the web, unless it is an address outside ASCII that is not read as it is written. -/
theorem exists_value?_leadAlike_iff (hprintable : IsPrintable address) (h : IsReference address) :
    ∃ text, value? address = some (Utf8.encode text) ∧ Text.isAscii text ∧
      ∀ base : Url, base.HasWebScheme → (LeadAlike base text address ↔
        (Text.isAscii address = false → ∀ url, parse address = .ok url → IsRestated url)) :=
  ⟨ascii address, HeaderValue.ofText?_of_isPrintable (isPrintable_ascii hprintable),
    isAscii_ascii h, fun _ hbase => leadAlike_ascii_iff hprintable h hbase⟩

/-- A page of the gateway. -/
def gatePage : Url where
  scheme := "https"
  authority := some (named "gate.example")
  path := .rooted [[]]

theorem parse_sizePage : parse "https://gate.example/größe".toList =
    .ok { gatePage with path := .rooted ["gr%C3%B6%C3%9Fe".toList] } := by
  have hlead : IsLead "https" "gate.example" :=
    ⟨by decide, by decide, Text.forall_mem (by decide), Text.forall_mem (by decide)⟩
  have hroute : IsRoute "/größe" none :=
    ⟨rfl, Text.forall_mem (by decide), (fun text htext => by cases htext), by decide⟩
  have hplain : Domain.IsPlain "gate.example" :=
    ⟨Text.forall_mem (by decide), Text.forall_mem (by decide), Text.forall_mem (by decide),
      by decide⟩
  refine (parse_route hlead hroute).trans ?_
  change (parseAuthority "https" "gate.example").map _ = _
  rw [parseAuthority_named (by decide) hplain (by decide) (by decide)]
  rfl

/-- A page with a path outside ASCII leads where its escaped address does. -/
theorem sizePage_leadAlike :
    IsPrintable "https://gate.example/größe".toList ∧
      IsReference "https://gate.example/größe".toList ∧
      ∃ text, value? "https://gate.example/größe".toList = some (Utf8.encode text) ∧
        Text.isAscii text ∧ LeadAlike gatePage text "https://gate.example/größe".toList := by
  have hprintable : IsPrintable "https://gate.example/größe".toList := Text.forall_mem (by decide)
  have hscheme : scheme? (clean "https://gate.example/größe".toList) =
      some ("https".toList, '/' :: '/' :: "gate.example/größe".toList) := by decide
  have hrestated : ∀ url, parse "https://gate.example/größe".toList = .ok url → IsRestated url := by
    intro url hurl
    cases parse_sizePage.symm.trans hurl
    refine ⟨fun _ name hname => ?_, fun hfile => absurd hfile (by decide)⟩
    cases hname
    have hparts : ∀ part ∈ Text.split '.' "gate.example".toList,
        Text.after? Domain.punycodeMark part = none := by decide
    intro part hpart code hcode
    rw [hparts part hpart] at hcode
    cases hcode
  obtain ⟨text, hvalue, hascii, hlead⟩ := exists_value?_leadAlike_iff hprintable
    (.inr ⟨_, _, hscheme⟩)
  exact ⟨hprintable, .inr ⟨_, _, hscheme⟩, text, hvalue, hascii,
    (hlead gatePage (.inr rfl)).2 fun _ => hrestated⟩

/-- A file below a drive letter of another machine. -/
def driveUrl : Url where
  scheme := fileScheme
  authority := some { host := some (.domain "host") }
  path := .rooted ["c:".toList, "%C3%A9".toList]

/-- What stands behind the name of a machine is read as a path. -/
theorem parseAgainst_ofHost {base : Option Url}
    (hbase : ∀ found ∈ base, SchemeKind.of found.scheme ≠ .file) {text after : Text}
    (hscheme : scheme? (clean text) = some (fileScheme, '/' :: '/' :: ("host".toList ++ after)))
    (hafter : Text.Stops (fun c => !endsAuthority .web c) after) :
    parseAgainst base text = .ok (fileAt (some (.domain "host")) [] (dropSlash after)) := by
  have hkept : ∀ c ∈ "host".toList, (!endsAuthority .web c) = true := Text.forall_mem (by decide)
  have hplain : Domain.IsPlain "host" :=
    ⟨Text.forall_mem (by decide), Text.forall_mem (by decide), Text.forall_mem (by decide),
      by decide⟩
  have hhost : parseHost "host".toList = .ok (.domain "host") :=
    parseHost_of_name (by decide) (Domain.toAscii?_of_plain hplain) (by decide) (by decide)
  rw [parseAgainst_of_slashes hbase hscheme]
  change parseFileHost ("host".toList ++ after) = _
  rw [parseFileHost_eq (Text.takeWhile_append_of_all hkept hafter)
    (Text.dropWhile_append_of_all hkept hafter), hhost]
  rfl

/-- A path to a drive letter is written with one slash, and then leads to the drive of the
client's own machine. -/
theorem driveAddress_misleads :
    IsPrintable "file://host//c:/é".toList ∧ IsReference "file://host//c:/é".toList ∧
      value? "file://host//c:/é".toList = some (Utf8.encode "file://host/c:/%C3%A9".toList) ∧
      gatePage.HasWebScheme ∧
      gatePage.join "file://host//c:/é".toList = .ok driveUrl ∧
      gatePage.join "file://host/c:/%C3%A9".toList = .ok { driveUrl with authority := some {} } ∧
      ¬ LeadAlike gatePage "file://host/c:/%C3%A9".toList "file://host//c:/é".toList := by
  have hreference : scheme? (clean "file://host//c:/é".toList) =
      some (fileScheme, '/' :: '/' :: ("host".toList ++ "//c:/é".toList)) := by decide
  have hwritten : scheme? (clean "file://host/c:/%C3%A9".toList) =
      some (fileScheme, '/' :: '/' :: ("host".toList ++ "/c:/%C3%A9".toList)) := by decide
  have hgate : ∀ found ∈ some gatePage, SchemeKind.of found.scheme ≠ .file := by
    rintro found ⟨⟩
    decide
  have hparse : parse "file://host//c:/é".toList = .ok driveUrl :=
    (parseAgainst_ofHost (fun found hfound => by cases hfound) hreference
      (Text.stops_cons rfl _)).trans rfl
  have hjoin : gatePage.join "file://host//c:/é".toList = .ok driveUrl :=
    (parseAgainst_ofHost hgate hreference (Text.stops_cons rfl _)).trans rfl
  have hagain : gatePage.join "file://host/c:/%C3%A9".toList =
      .ok { driveUrl with authority := some {} } :=
    (parseAgainst_ofHost hgate hwritten (Text.stops_cons rfl _)).trans rfl
  refine ⟨Text.forall_mem (by decide), .inr ⟨_, _, hreference⟩, ?_, .inr rfl, hjoin, hagain, ?_⟩
  · rw [value?, ascii, if_neg (by decide), hparse]
    decide
  · rw [LeadAlike, hjoin, hagain]
    decide

end Location

end RuleGateway
