import RuleGateway.Proofs.Http.Mounting

/-!
# Pages on the gateway's host

The address of a backend's page on the gateway's host is put together from the host, the
mount and what the page has of a path and a query. It is read as an address on that host
with that path and that query. A fragment of the page is not put in, so the address says
all that the page's own does only if there is none (`keeps_forClient_iff`).
-/

namespace RuleGateway

namespace Url

/-- The query of an address, nothing where it has none. -/
def search (url : Url) : Text := url.query.getD []

/-- The fragment of an address, nothing where it has none. -/
def hash (url : Url) : Text := url.fragment.getD []

theorem getD_bind_nonempty? (part : Option Text) :
    (part.bind Text.nonempty?).getD [] = part.getD [] := by
  cases part with
  | none => rfl
  | some text =>
    rw [Option.bind_some, Text.nonempty?]
    split
    · rename_i hempty
      exact (List.isEmpty_iff.1 hempty).symm
    · rfl

/-- A query without content is left out, and what is left is escaped as before. -/
theorem IsWeb.exists_nonempty_query {url : Url} (h : url.IsWeb) :
    ∃ plain : Option Text,
      url.query.bind Text.nonempty? = plain.map (Percent.encode (inQuerySet .web)) := by
  obtain ⟨plain, hplain⟩ := h.query
  cases plain with
  | none => exact ⟨none, by rw [hplain]; rfl⟩
  | some text =>
    rw [hplain, Option.map_some, Option.bind_some, Text.nonempty?]
    split
    · exact ⟨none, rfl⟩
    · exact ⟨some text, rfl⟩

end Url

namespace Location

open Percent Url

/-- A visit to a host that an address can be on. The root of the host tells how it is
read. -/
structure Visit.IsPlaced (visit : Visit) (host : Text) (root : Url) : Prop where
  addressed : visit.host = some host
  start : IsLead "https" host
  read : parse (lead "https" host) = .ok root

/-- Whether an address is on the host of a root at a path, with a query. -/
structure IsAt (root : Url) (path query : Text) (found : Url) : Prop where
  scheme : found.scheme = root.scheme
  authority : found.authority = root.authority
  path : found.pathText = path
  search : found.search = query

section Read

variable {visit : Visit} {host front : Text} {root page url : Url}

/-- An address on the gateway's host is read as what it was put together from. -/
theorem exists_parse_addressAt (hplaced : visit.IsPlaced host root) (hfront : IsTail front)
    (hchars : ∀ c ∈ front, isPathChar c) (hpage : page.IsWeb) (hurl : url.IsWeb) :
    ∃ found, parse (addressAt host (front ++ page.pathText) url) = .ok found ∧
      IsAt root (Path.ofSegments (frontSegments front) ++ page.pathText) url.search found ∧
      found.hash = [] := by
  obtain ⟨segments, hpath, hne, hsettled⟩ := hpage.exists_pathText
  have hroot := hplaced.read
  rw [parse_lead_alone hplaced.start] at hroot
  obtain ⟨found, hauthority, rfl⟩ := exists_of_map_eq_ok hroot
  have hparse := parse_behind hplaced.start hfront hchars hne hsettled hurl.exists_nonempty_query
  rw [hauthority] at hparse
  rw [addressAt, hpath, List.append_assoc]
  exact ⟨_, hparse, ⟨rfl, rfl, Path.ofSegments_append _ _, getD_bind_nonempty? _⟩, rfl⟩

/-- A host that is a plain name is one that an address can be on. -/
theorem isPlaced_of_plain {name : Text} (hhost : visit.host = some name)
    (hplain : Domain.IsPlain name) (hne : name ≠ []) (hnumber : endsInNumber name = false) :
    visit.IsPlaced name
      { scheme := "https", authority := some (named name), path := .rooted [[]] } := by
  have hlead : IsLead "https" name := by
    have hrender := isLead_render (.inr rfl) (isAuthority_named hplain hne hnumber "https")
    rwa [render_named] at hrender
  refine ⟨hhost, hlead, ?_⟩
  rw [parse_lead_alone hlead]
  change (parseAuthority "https" name).map _ = _
  rw [parseAuthority_named (by decide) hplain hne hnumber]
  rfl

end Read

section Mount

/-- A mount that an address has as it is written, up to escapes. -/
structure IsMount (mount : Text) : Prop where
  slash : mount.head? = some '/'
  in_path : ∀ c ∈ mount, isPathChar c ∧ c ≠ '\\' ∧ isKept c
  no_step : ∀ segment ∈ Path.segments mount,
    isSingleDot segment = false ∧ isDoubleDot segment = false

variable {mount : Text}

theorem IsMount.ofSegments_eq (h : IsMount mount) :
    Path.ofSegments (frontSegments mount) = encode inPathSet mount := by
  have hkept : mount.filter isKept = mount :=
    List.filter_eq_self.2 fun c hc => (h.in_path c hc).2.2
  have hslashed : slashed mount = mount := slashed_eq_self fun c hc => (h.in_path c hc).2.1
  rw [frontSegments, hkept, hslashed, descend_of_kept h.no_step, List.nil_append,
    ofSegments_map_encode, Path.ofSegments_segments h.slash]

/-- What is put before a path, a mount or nothing, is read as it is written. -/
theorem exists_front {mount : Option Text} (hmount : ∀ base ∈ mount, IsMount base)
    (path : Text) :
    ∃ front, mountedPath mount path = front ++ path ∧ IsTail front ∧
      (∀ c ∈ front, isPathChar c) ∧
      Path.ofSegments (frontSegments front) = encode inPathSet front := by
  have hbare : IsTail [] ∧ (∀ c ∈ [], isPathChar c) ∧
      Path.ofSegments (frontSegments []) = encode inPathSet [] :=
    ⟨.inl rfl, List.forall_mem_nil _, rfl⟩
  cases mount with
  | none => exact ⟨[], rfl, hbare⟩
  | some base =>
    have hbase := hmount base rfl
    rw [mountedPath]
    split
    · exact ⟨[], rfl, hbare⟩
    · exact ⟨base, rfl, .inr hbase.slash, fun c hc => (hbase.in_path c hc).1,
        hbase.ofSegments_eq⟩

/-- A page is read at its path below the mount, escaped. -/
theorem exists_parse_localAddress {visit : Visit} {host : Text} {root url : Url}
    (hplaced : visit.IsPlaced host root) (hmount : ∀ mount ∈ visit.mount, IsMount mount)
    (hurl : url.IsWeb) :
    ∃ found, parse (localAddress host visit.mount url) = .ok found ∧
      IsAt root (encode inPathSet (mountedPath visit.mount url.pathText)) url.search found ∧
      found.hash = [] := by
  obtain ⟨front, hpath, htail, hchars, hfront⟩ := exists_front hmount url.pathText
  rw [localAddress_eq, hpath, encode_append, hurl.encode_pathText, ← hfront]
  exact exists_parse_addressAt hplaced htail hchars hurl hurl

end Mount

section Client

variable {visit : Visit} {current target root url : Url} {host location : Text}

/-- A location that leads to a page of the backend's site, other than the page that was
asked for. -/
structure Visit.LeadsHome (visit : Visit) (host : Text) (current target : Url)
    (location : Text) (url : Url) : Prop where
  joined : current.join location = .ok url
  no_blob : url.scheme ≠ "blob".toList
  same : sameOrigin url target
  other : localAddress host visit.mount url ≠ visit.href

theorem Visit.LeadsHome.isWeb (h : visit.LeadsHome host current target location url)
    (hcurrent : current.IsWeb) (htarget : target.HasWebScheme) : url.IsWeb :=
  isWeb_of_join hcurrent (hasWebScheme_of_sameOrigin htarget h.no_blob h.same) h.joined

/-- Such a page is given at its local address. -/
theorem Visit.LeadsHome.forClient_eq (h : visit.LeadsHome host current target location url)
    (htarget : target.HasWebScheme) (hplaced : visit.IsPlaced host root) :
    forClient visit current target location = localAddress host visit.mount url := by
  rw [forClient_of_ok h.joined (hasWebScheme_of_sameOrigin htarget h.no_blob h.same)]
  rcases ofUrl_cases visit target url with ⟨other, hother, -, -, hlocal, -⟩ | ⟨-, hown⟩
  · cases hplaced.addressed.symm.trans hother
    exact hlocal
  · exact absurd (hown h.same host hplaced.addressed hplaced.start.nonempty) h.other

/-- A page of the backend's site is given on the gateway's host, at its path below the
mount and with its query. It keeps its fragment only if it has none. -/
theorem keeps_forClient_iff (hcurrent : current.IsWeb) (htarget : target.HasWebScheme)
    (hhome : visit.LeadsHome host current target location url)
    (hplaced : visit.IsPlaced host root) (hmount : ∀ mount ∈ visit.mount, IsMount mount) :
    ∃ found, parse (forClient visit current target location) = .ok found ∧
      IsAt root (encode inPathSet (mountedPath visit.mount url.pathText)) url.search found ∧
      (found.hash = url.hash ↔ url.hash = []) := by
  obtain ⟨found, hparse, hat, hhash⟩ :=
    exists_parse_localAddress hplaced hmount (hhome.isWeb hcurrent htarget)
  rw [hhome.forClient_eq htarget hplaced]
  exact ⟨found, hparse, hat, by rw [hhash, eq_comm]⟩

/-- A request for the root of a host. -/
def siteVisit : Visit where
  host := some "site.example".toList
  href := "https://site.example/"

/-- The root of the host. -/
def siteRoot : Url where
  scheme := "https"
  authority := some (named "site.example")
  path := .rooted [[]]

theorem isPlaced_site {visit : Visit} (h : visit.host = some "site.example".toList) :
    visit.IsPlaced "site.example" siteRoot :=
  isPlaced_of_plain h ⟨Text.forall_mem (by decide), Text.forall_mem (by decide),
    Text.forall_mem (by decide), by decide⟩ (by decide) (by decide)

/-- A page with a query is found below the mount with its query. -/
theorem appVisit_keeps :
    ∃ found, parse (forClient appVisit upstreamPage upstreamPage "/login?step=2") = .ok found ∧
      IsAt siteRoot "/app/login" "step=2" found ∧ found.hash = [] := by
  have hjoin : upstreamPage.join "/login?step=2" =
      .ok { upstreamPage with path := .rooted ["login".toList], query := some "step=2".toList } := by
    decide +kernel
  have hmount : ∀ mount ∈ appVisit.mount, IsMount mount := by
    rintro mount ⟨⟩
    exact ⟨rfl, Text.forall_mem (by decide), by decide⟩
  obtain ⟨found, hparse, hat, hhash⟩ :=
    keeps_forClient_iff isWeb_upstreamPage isWeb_upstreamPage.scheme
      ⟨hjoin, by decide, by decide +kernel, by decide +kernel⟩ (isPlaced_site rfl) hmount
  exact ⟨found, hparse, hat, hhash.2 rfl⟩

/-- The fragment of a location is lost. -/
theorem siteVisit_loses_fragment :
    ∃ url found, upstreamPage.join "/login#form" = .ok url ∧ sameOrigin url upstreamPage ∧
      localAddress "site.example" none url ≠ siteVisit.href ∧
      forClient siteVisit upstreamPage upstreamPage "/login#form" =
        "https://site.example/login" ∧
      parse "https://site.example/login" = .ok found ∧
      url.hash = "form" ∧ found.hash = [] := by
  have hjoin : upstreamPage.join "/login#form" =
      .ok { upstreamPage with path := .rooted ["login".toList],
                              fragment := some "form".toList } := by decide +kernel
  have hweb : IsWeb { upstreamPage with path := .rooted ["login".toList],
                                        fragment := some "form".toList } :=
    isWeb_of_join isWeb_upstreamPage (.inr rfl) hjoin
  have hplaced : siteVisit.IsPlaced "site.example" siteRoot := isPlaced_site rfl
  obtain ⟨found, hparse, -, hhash⟩ :=
    exists_parse_localAddress hplaced (fun mount hmount => by cases hmount) hweb
  exact ⟨_, found, hjoin, by decide +kernel, by decide +kernel, by decide +kernel, hparse, rfl,
    hhash⟩

end Client

end Location

end RuleGateway
