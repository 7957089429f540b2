import RuleGateway.Proofs.Http.Localization
import RuleGateway.Proofs.Router.MountBase

/-!
# Backends that know their mount

A mount is the start of a base path, decoded, and the path of a page is escaped. Whether
the page is below the mount already is asked of these two texts. A backend that writes
the mount itself is understood if the mount has nothing to escape; otherwise its page is
put below the mount a second time (`remounts_iff`).
-/

namespace RuleGateway

namespace Path

/-- The static part of a base path is a path from the root. -/
theorem head?_of_literalPrefix? {base mount : Text} (h : base.head? = some '/')
    (hstatic : literalPrefix? base = some mount) : mount.head? = some '/' := by
  rw [literalPrefix?_eq h, Option.some.injEq] at hstatic
  subst hstatic
  split
  · rfl
  · exact Url.head?_ofSegments (by assumption)

end Path

namespace Location

open Percent Url

section Escape

variable {mount : Text}

/-- Whether an address has a path text as it is written. -/
def IsUnescaped (text : Text) : Prop := ∀ c ∈ text, isEscaped inPathSet c = false ∧ c ≠ '\\'

/-- A path text in an address, where a backslash would be taken for a slash. -/
def escapePath (text : Text) : Text := encode (fun c => inPathSet c || c == '\\') text

theorem IsUnescaped.escapePath_eq (h : IsUnescaped mount) : escapePath mount = mount := by
  refine encode_eq_self fun c hc => ?_
  obtain ⟨hescaped, hslash⟩ := h c hc
  rw [isEscaped, Bool.or_eq_false_iff] at hescaped
  simp [isEscaped, hescaped.1, hescaped.2, hslash]

theorem head?_escapePath (h : mount.head? = some '/') : (escapePath mount).head? = some '/' := by
  obtain ⟨rest, rfl⟩ := List.head?_eq_some_iff.1 h
  rfl

/-- A page lies below no mount that its path could not have. -/
theorem isUnescaped_of_isUnder {url : Url} (hurl : url.IsWeb) (hroot : mount ≠ ['/'])
    (h : Path.isUnder url.pathText mount) : IsUnescaped mount := by
  intro c hc
  apply hurl.of_mem_pathText
  rcases Path.isUnder_iff.1 h with hmount | hmount | ⟨rest, hmount⟩
  · contradiction
  · rwa [hmount]
  · rw [hmount]
    exact List.mem_append_left _ hc

end Escape

section Client

variable {visit : Visit} {current target root page below : Url}
variable {host base mount location further : Text}

/-- A page and the page that the backend has at the mount followed by its path are given
at addresses of one path, decoded, exactly if the mount is not escaped in an address. -/
theorem remounts_iff (hbase : base.head? = some '/')
    (hstatic : Path.literalPrefix? base = some mount) (hroot : mount ≠ ['/'])
    (hchars : ∀ c ∈ mount, isPathChar c) (hmount : visit.mount = some mount)
    (hplaced : visit.IsPlaced host root) (hcurrent : current.IsWeb)
    (htarget : target.HasWebScheme)
    (hpage : visit.LeadsHome host current target location page)
    (hunder : Path.isUnder page.pathText mount = false)
    (hbelow : visit.LeadsHome host current target further below)
    (hpath : below.pathText = escapePath mount ++ page.pathText) :
    ∃ found again, parse (forClient visit current target location) = .ok found ∧
      parse (forClient visit current target further) = .ok again ∧
      (decodeLoose found.pathText = decodeLoose again.pathText ↔ IsUnescaped mount) := by
  have hslash := Path.head?_of_literalPrefix? hbase hstatic
  have hpageWeb := hpage.isWeb hcurrent htarget
  have hbelowWeb := hbelow.isWeb hcurrent htarget
  have hpageSlash : page.pathText.head? = some '/' := hpageWeb.head?_pathText
  have hplace (path : Text) : mountedPath (some mount) path =
      if Path.isUnder path mount then path else mount ++ path := rfl
  rw [hpage.forClient_eq htarget hplaced, hbelow.forClient_eq htarget hplaced, localAddress_eq,
    localAddress_eq, hmount, hplace, hplace, hunder, if_neg Bool.false_ne_true]
  obtain ⟨found, hfound, hat, -⟩ :=
    exists_parse_addressAt hplaced (.inr hslash) hchars hpageWeb hpageWeb
  by_cases hplain : IsUnescaped mount
  · rw [hpath, hplain.escapePath_eq, if_pos (isUnder_append hpageSlash mount)]
    obtain ⟨again, hagain, hat', -⟩ :=
      exists_parse_addressAt hplaced (.inr hslash) hchars hpageWeb hbelowWeb
    refine ⟨found, again, hfound, hagain, iff_of_true ?_ hplain⟩
    rw [hat.path, hat'.path]
  · have hnot : ¬ Path.isUnder below.pathText mount :=
      fun h => hplain (isUnescaped_of_isUnder hbelowWeb hroot h)
    rw [if_neg hnot]
    obtain ⟨again, hagain, hat', -⟩ :=
      exists_parse_addressAt hplaced (.inr hslash) hchars hbelowWeb hbelowWeb
    refine ⟨found, again, hfound, hagain, iff_of_false ?_ hplain⟩
    rw [hat.path, hat'.path, hpath, ← List.append_assoc, decodeLoose_append_path hpageSlash,
      decodeLoose_append_path hpageSlash, List.append_cancel_right_eq,
      decodeLoose_append_path (head?_escapePath hslash), List.self_eq_append_right]
    -- Nothing but the empty text is decoded to nothing.
    intro hnil
    have hhead := head?_escapePath hslash
    rw [decodeLoose_eq_nil hnil] at hhead
    cases hhead

/-- A request for the root of a host where a rule has a mount. -/
def mountedVisit (mount : Text) : Visit where
  host := some "site.example".toList
  href := "https://site.example/"
  mount := some mount

/-- The page of the backend with a path. -/
def upstreamAt (segments : List Text) : Url := { upstreamPage with path := .rooted segments }

/-- A backend that writes a mount of letters is understood. -/
theorem appVisit_understands_mount :
    ∃ found again,
      parse (forClient (mountedVisit "/app") upstreamPage upstreamPage "/login") = .ok found ∧
      parse (forClient (mountedVisit "/app") upstreamPage upstreamPage "/app/login") =
        .ok again ∧
      decodeLoose found.pathText = decodeLoose again.pathText := by
  have hlogin : upstreamPage.join "/login" = .ok (upstreamAt ["login".toList]) := by
    decide +kernel
  have hbelow : upstreamPage.join "/app/login" =
      .ok (upstreamAt ["app".toList, "login".toList]) := by decide +kernel
  have hhome : (mountedVisit "/app").LeadsHome "site.example" upstreamPage upstreamPage "/login"
      (upstreamAt ["login".toList]) := ⟨hlogin, by decide, by decide +kernel, by decide +kernel⟩
  have hmounted : (mountedVisit "/app").LeadsHome "site.example" upstreamPage upstreamPage
      "/app/login" (upstreamAt ["app".toList, "login".toList]) :=
    ⟨hbelow, by decide, by decide +kernel, by decide +kernel⟩
  have hstatic : Path.literalPrefix? "/app/*" = some "/app".toList := by decide
  obtain ⟨found, again, hfound, hagain, hsame⟩ :=
    remounts_iff (by decide) hstatic (by decide) (Text.forall_mem (by decide)) rfl
      (isPlaced_site rfl) isWeb_upstreamPage isWeb_upstreamPage.scheme hhome (by decide) hmounted
      (by decide)
  exact ⟨found, again, hfound, hagain, hsame.2 (Text.forall_mem (by decide))⟩

/-- A backend that writes a mount with a blank is not understood. -/
theorem blankVisit_mounts_twice :
    Path.literalPrefix? "/a b/*" = some "/a b".toList ∧
    forClient (mountedVisit "/a b") upstreamPage upstreamPage "/login" =
      "https://site.example/a b/login" ∧
    forClient (mountedVisit "/a b") upstreamPage upstreamPage "/a%20b/login" =
      "https://site.example/a b/a%20b/login" ∧
    ∃ found again, parse "https://site.example/a b/login" = .ok found ∧
      parse "https://site.example/a b/a%20b/login" = .ok again ∧
      decodeLoose found.pathText = Utf8.encode "/a b/login" ∧
      decodeLoose again.pathText = Utf8.encode "/a b/a b/login" := by
  have hlogin : upstreamPage.join "/login" = .ok (upstreamAt ["login".toList]) := by
    decide +kernel
  have hbelow : upstreamPage.join "/a%20b/login" =
      .ok (upstreamAt ["a%20b".toList, "login".toList]) := by decide +kernel
  have hplaced : siteVisit.IsPlaced "site.example" siteRoot := isPlaced_site rfl
  have hfront : IsTail "/a b" := .inr rfl
  have hread {location : Text} {segments : List Text}
      (hjoin : upstreamPage.join location = .ok (upstreamAt segments)) :
      ∃ found, parse (addressAt "site.example" ("/a b".toList ++ (upstreamAt segments).pathText)
          (upstreamAt segments)) = .ok found ∧
        found.pathText =
          Path.ofSegments (frontSegments "/a b") ++ (upstreamAt segments).pathText := by
    have hweb := isWeb_of_join isWeb_upstreamPage (.inr rfl) hjoin
    obtain ⟨found, hparse, hat, -⟩ :=
      exists_parse_addressAt hplaced hfront (Text.forall_mem (by decide)) hweb hweb
    exact ⟨found, hparse, hat.path⟩
  obtain ⟨found, hfound, hpath⟩ := hread hlogin
  obtain ⟨again, hagain, hpath'⟩ := hread hbelow
  refine ⟨by decide, by decide +kernel, by decide +kernel, found, again, hfound, hagain, ?_, ?_⟩
  · rw [hpath]
    decide +kernel
  · rw [hpath']
    decide +kernel

end Client

end Location

end RuleGateway
