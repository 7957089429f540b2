import RuleGateway.Proofs.Http.Remounting
import RuleGateway.Proofs.Page.Search

/-!
# Links and locations of a backend

A backend can send a client to one of its own pages by a link or by a location. The link
gets the mount in front in every case, the location only where its path is not below the
mount already. So the two lead to one page exactly if the path is not below the mount
(`follows_link_iff`).
-/

namespace RuleGateway

namespace Url

open Percent

/-- A path from the root as addresses have it: nothing in it is escaped or resolved any
more. -/
def IsPath (path : Text) : Prop :=
  ∃ segments, segments ≠ [] ∧ (∀ segment ∈ segments, IsSettled segment) ∧
    path = Path.ofSegments segments

section Path

variable {path front : Text} {base found : Url}

theorem IsPath.head? (h : IsPath path) : path.head? = some '/' := by
  obtain ⟨segments, hne, -, rfl⟩ := h
  exact head?_ofSegments hne

theorem IsPath.of_mem (h : IsPath path) {c : Char} (hc : c ∈ path) :
    isPathChar c ∧ c ≠ '\\' ∧ isOuter c = false := by
  obtain ⟨segments, -, hsettled, rfl⟩ := h
  exact (of_mem_ofSegments hsettled hc).2

theorem IsPath.of_mem_segments (h : IsPath path) {segment : Text}
    (hsegment : segment ∈ Path.segments path) : IsSettled segment := by
  obtain ⟨segments, -, hsettled, rfl⟩ := h
  rw [segments_ofSegments_of_settled hsettled] at hsegment
  exact hsettled segment hsegment

theorem IsPath.isSettled_of_begins (h : IsPath path) {step : Text} (hstep : '/' ∉ step)
    (hbegins : '/' :: step ++ ['/'] <+: path) : IsSettled step := by
  obtain ⟨rest, rfl⟩ := hbegins
  apply h.of_mem_segments
  rw [List.append_assoc, List.singleton_append, Path.segments_append rfl]
  apply List.mem_append_left
  show step ∈ Text.split '/' step
  rw [Text.split_of_not_mem hstep]
  exact List.mem_singleton_self step

/-- A path whose segments are settled is one that addresses have. -/
theorem isPath_of_segments (hslash : path.head? = some '/')
    (h : ∀ segment ∈ Path.segments path, IsSettled segment) : IsPath path :=
  ⟨Path.segments path, Path.segments_of_slash hslash, h, (Path.ofSegments_segments hslash).symm⟩

theorem isPath_cons {segment : Text} (h : IsSettled segment) : IsPath ('/' :: segment) :=
  ⟨[segment], List.cons_ne_nil _ _, List.forall_mem_singleton.2 h, (List.append_nil _).symm⟩

theorem isPath_append_iff (hfront : front.head? = some '/') (hpath : IsPath path) :
    IsPath (front ++ path) ↔ IsPath front := by
  have hsegments := Path.segments_append hpath.head? front
  constructor
  · intro h
    apply isPath_of_segments hfront
    intro segment hsegment
    apply h.of_mem_segments
    rw [hsegments]
    exact List.mem_append_left _ hsegment
  · intro h
    apply isPath_of_segments
    · rw [List.head?_append, hfront]
      rfl
    · rw [hsegments, List.forall_mem_append]
      exact ⟨fun _ => h.of_mem_segments, fun _ => hpath.of_mem_segments⟩

theorem IsWeb.isPath (h : found.IsWeb) : IsPath found.pathText := by
  obtain ⟨segments, hpath, hne, hsettled⟩ := h.exists_pathText
  exact ⟨segments, hne, hsettled, hpath⟩

theorem IsPath.clean_eq (h : IsPath path) : clean path = path := by
  obtain ⟨rest, rfl⟩ := List.head?_eq_some_iff.1 h.head?
  have hvisible : ∀ c ∈ '/' :: rest, isOuter c = false := fun c hc => (h.of_mem hc).2.2
  rw [clean_of_stops (Text.stops_cons rfl _), cleanEnd_of_visible hvisible]

/-- The segments of a path are read as they are written. -/
theorem IsPath.parseSegments_eq {rest : Text} (h : IsPath ('/' :: rest)) :
    parseSegments .web [] rest = (Path.segments ('/' :: rest), []) := by
  have hpath (c : Char) (hc : c ∈ rest) := h.of_mem (List.mem_cons_of_mem _ hc)
  have hcut := cutPath_of_stops (fun c hc => (hpath c hc).1) (Text.stops_nil isPathChar)
  have hsettled : ∀ segment ∈ Text.split '/' rest, IsSettled segment :=
    fun segment hsegment => h.of_mem_segments hsegment
  rw [List.append_nil, slashed_eq_self fun c hc => (hpath c hc).2.1] at hcut
  rw [parseSegments, hcut]
  dsimp only
  rw [addSegments_of_settled hsettled]
  rfl

/-- A path from the root is joined to a page as it is. -/
theorem IsPath.exists_join (h : IsPath path) (hone : ¬ "//".toList <+: path) (hbase : base.IsWeb) :
    ∃ url, base.join path = .ok url ∧ url.pathText = path ∧ url.scheme = base.scheme ∧
      url.authority = base.authority ∧ url.query = none := by
  obtain ⟨lent, hlent, -⟩ := hbase.path
  have hclean := h.clean_eq
  obtain ⟨rest, rfl⟩ := List.head?_eq_some_iff.1 h.head?
  have hstop : Text.Stops isAnySlash rest := by
    intro c hc
    rw [isAnySlash, Bool.or_eq_false_iff, beq_eq_false_iff_ne, beq_eq_false_iff_ne]
    refine ⟨?_, (h.of_mem (List.mem_cons_of_mem _ (List.mem_of_head? hc))).2.1⟩
    rintro rfl
    obtain ⟨more, rfl⟩ := List.head?_eq_some_iff.1 hc
    exact hone ⟨more, rfl⟩
  have hlone : ¬ 2 ≤ (('/' :: rest).takeWhile isAnySlash).length := by
    rw [List.takeWhile_cons_of_pos rfl, Text.takeWhile_of_stops hstop]
    decide
  have hroot : isAnySlash '/' := rfl
  have hrelative : parseRelative base ('/' :: rest) =
      .ok { base with
        path := .rooted (Path.segments ('/' :: rest)), query := none, fragment := none } := by
    rw [parseRelative]
    · rw [if_pos hroot, if_neg hlone, hbase.scheme.kind, h.parseSegments_eq]
      rfl
    · simp
    · simp
  have hscheme : scheme? ('/' :: rest) = none := rfl
  have hjoin : base.join ('/' :: rest) =
      .ok { base with
        path := .rooted (Path.segments ('/' :: rest)), query := none, fragment := none } := by
    rw [join, parseAgainst, hclean, hscheme, hlent]
    dsimp only
    rw [hbase.scheme.kind, if_neg (by decide), hrelative]
    rfl
  exact ⟨_, hjoin, Path.ofSegments_segments h.head?, rfl, rfl, rfl⟩

end Path

end Url

namespace Links

/-- The value of a link, with its slash. -/
def RootLink.path (link : RootLink) : Text := '/' :: link.value

/-- A link whose value is a path is of no excluded form. -/
theorem not_isExcluded_of_isPath {link : RootLink} (h : Url.IsPath link.path)
    (hone : ¬ "//".toList <+: link.path) : ¬ link.IsExcluded := by
  rintro ⟨start, hstart, hbegins⟩
  simp only [excludedStarts, List.mem_cons, List.not_mem_nil, or_false] at hstart
  rcases hstart with rfl | rfl | rfl | rfl
  · exact hone hbegins
  · exact absurd (h.of_mem (hbegins.subset (by decide : '#' ∈ "/#".toList))).1 (by decide)
  · have hdot : Url.IsSettled "." := h.isSettled_of_begins (by decide) hbegins
    exact absurd hdot.no_dot (by decide)
  · have hdots : Url.IsSettled ".." := h.isSettled_of_begins (by decide) hbegins
    exact absurd hdots.no_dots (by decide)

/-- A link to a path is written with the mount in front, wherever it is found. -/
theorem exists_mount_eq {page : Text} {link : RootLink} (hfound : link ∈ found page)
    (hpath : Url.IsPath link.path) (hone : ¬ "//".toList <+: link.path) (mount : Text) :
    ∃ front, Links.mount mount page =
      front ++ link.lead ++ (mount ++ link.path) ++ '"' :: Links.mount mount link.after := by
  have hmem : link ∈ mounted page := by
    rw [mounted_eq]
    exact List.mem_filter.2 ⟨hfound, decide_eq_true (not_isExcluded_of_isPath hpath hone)⟩
  obtain ⟨-, front, hfront⟩ := exists_of_mem_mounted hmem mount
  exact ⟨front, by rw [hfront, RootLink.path]; simp⟩

end Links

namespace Location

open Url

section Client

variable {visit : Visit} {current target root : Url} {host mount path : Text}

/-- An address of the origin of a page, whatever its path is. -/
theorem sameOrigin_of_eq {url : Url} (hcurrent : current.HasWebScheme)
    (hscheme : url.scheme = current.scheme) (hauthority : url.authority = current.authority) :
    sameOrigin url target = sameOrigin current target := by
  have horigin : url.origin? = current.origin? := by
    rw [origin?_of_ne hcurrent.ne_blob, origin?_of_ne (hscheme ▸ hcurrent.ne_blob), hostOrigin?,
      hostOrigin?, hscheme, hauthority]
  rw [sameOrigin, sameOrigin, horigin]

/-- A location that is a path on the backend's own site is given on the gateway's host, below
the mount. -/
theorem forClient_path (hcurrent : current.IsWeb) (hown : sameOrigin current target)
    (hhost : visit.host = some host) (hne : host ≠ []) (hmount : visit.mount = some mount)
    (hpath : IsPath path) (hone : ¬ "//".toList <+: path)
    (hother : lead "https" host ++ mountedPath (some mount) path ≠ visit.href) :
    forClient visit current target path =
      lead "https" host ++ mountedPath (some mount) path := by
  obtain ⟨url, hjoin, htext, hscheme, hauthority, hquery⟩ := hpath.exists_join hone hcurrent
  have hlocal : localAddress host visit.mount url =
      lead "https" host ++ mountedPath (some mount) path := by
    rw [localAddress_eq, addressAt, hmount, htext, hquery]
    exact congrArg _ (List.append_nil _)
  have hweb : url.HasWebScheme := by
    rw [HasWebScheme, hscheme]
    exact hcurrent.scheme
  rw [forClient_of_ok hjoin hweb]
  rcases ofUrl_cases visit target url with ⟨other, hgiven, -, -, haddress, -⟩ | ⟨-, hself⟩
  · cases hhost.symm.trans hgiven
    rw [haddress, hlocal]
  · refine absurd (hself ?_ host hhost hne) (hlocal ▸ hother)
    rwa [sameOrigin_of_eq hcurrent.scheme hscheme hauthority]

/-- A path behind a host is read as a path on that host, and as it is written if addresses
have it so. -/
theorem Visit.IsPlaced.exists_parse (h : visit.IsPlaced host root)
    (hslash : path.head? = some '/') :
    ∃ found, parse (lead "https" host ++ path) = .ok found ∧ found.scheme = root.scheme ∧
      found.authority = root.authority ∧ IsPath found.pathText ∧
      (IsPath path → found.pathText = path) := by
  have hread := h.read
  rw [parse_lead_alone h.start] at hread
  obtain ⟨authority, hauthority, rfl⟩ := exists_of_map_eq_ok hread
  have hparse := parse_lead h.start (IsTail.ended (.inr hslash))
  rw [hauthority] at hparse
  have hweb := isWeb_of_parse (.inr rfl) hparse
  refine ⟨_, hparse, rfl, rfl, hweb.isPath, ?_⟩
  rintro ⟨segments, hne, hsettled, rfl⟩
  have hroute := parse_route h.start (isRoute_of_isSettled hne hsettled none)
  rw [hauthority, Option.map_none, asked, Option.map_none, Option.getD_none, List.append_nil,
    segments_ofSegments_of_settled hsettled, addSegments_of_settled hsettled] at hroute
  have hsame := Except.ok.inj (hparse.symm.trans hroute)
  rw [hsame]
  rfl

/-- A link and a location to one of the backend's own pages: the link gets the mount in
front, and the location is given at the address of that link exactly if the path is not
below the mount. The path of that address is the link as it is written if also nothing in
the mount is escaped or resolved in an address. -/
theorem follows_link_iff (hcurrent : current.IsWeb) (hown : sameOrigin current target)
    (hhost : visit.host = some host) (hne : host ≠ []) (hmount : visit.mount = some mount)
    (hslash : mount.head? = some '/') (hpath : IsPath path) (hone : ¬ "//".toList <+: path)
    (hother : lead "https" host ++ mountedPath (some mount) path ≠ visit.href) :
    (∀ page, ∀ link ∈ Links.found page, link.path = path →
      ∃ front, Links.mount mount page =
        front ++ link.lead ++ (mount ++ path) ++ '"' :: Links.mount mount link.after) ∧
    (forClient visit current target path = lead "https" host ++ (mount ++ path) ↔
      Path.isUnder path mount = false) ∧
    ∀ root, visit.IsPlaced host root →
      ∃ found, parse (forClient visit current target path) = .ok found ∧
        found.scheme = root.scheme ∧ found.authority = root.authority ∧
        (found.pathText = mount ++ path ↔ Path.isUnder path mount = false ∧ IsPath mount) := by
  have hgiven := forClient_path hcurrent hown hhost hne hmount hpath hone hother
  have hunchanged : path ≠ mount ++ path := by
    intro hsame
    rw [List.self_eq_append_left.1 hsame] at hslash
    cases hslash
  have hplace : mountedPath (some mount) path =
      if Path.isUnder path mount then path else mount ++ path := rfl
  refine ⟨?_, ?_, ?_⟩
  · rintro page link hfound rfl
    exact Links.exists_mount_eq hfound hpath hone mount
  · rw [hgiven, List.append_cancel_left_eq, hplace]
    cases hunder : Path.isUnder path mount with
    | true => simpa using hunchanged
    | false => simp
  · intro root hplaced
    rw [hgiven, hplace]
    cases hunder : Path.isUnder path mount with
    | true =>
      obtain ⟨found, hparse, hscheme, hauthority, -, hread⟩ := hplaced.exists_parse hpath.head?
      refine ⟨found, hparse, hscheme, hauthority, ?_⟩
      rw [hread hpath]
      simpa using hunchanged
    | false =>
      have hroot : (mount ++ path).head? = some '/' := by
        rw [List.head?_append, hslash]
        rfl
      obtain ⟨found, hparse, hscheme, hauthority, hfound, hread⟩ := hplaced.exists_parse hroot
      refine ⟨found, hparse, hscheme, hauthority, fun hsame => ⟨rfl, ?_⟩, fun hnormal => ?_⟩
      · rw [hsame] at hfound
        exact (isPath_append_iff hslash hpath).1 hfound
      · exact hread ((isPath_append_iff hslash hpath).2 hnormal.2)

theorem isPath_app : IsPath "/app" := isPath_cons ⟨rfl, rfl, Text.forall_mem (by decide)⟩

theorem isPath_login : IsPath "/login" := isPath_cons ⟨rfl, rfl, Text.forall_mem (by decide)⟩

/-- A mount of letters, and a link to the login page that leads where a location does. -/
theorem appVisit_follows_link :
    Links.mount "/app" "<a href=\"/login\">" = "<a href=\"/app/login\">".toList ∧
    forClient (mountedVisit "/app") upstreamPage upstreamPage "/login" =
      "https://site.example/app/login" ∧
    ∃ found, parse "https://site.example/app/login" = .ok found ∧
      found.pathText = "/app/login" := by
  have hvisit : (mountedVisit "/app").host = some "site.example".toList := rfl
  obtain ⟨-, hgiven, hread⟩ :=
    follows_link_iff isWeb_upstreamPage (by decide : sameOrigin upstreamPage upstreamPage) hvisit
      (by decide) rfl rfl isPath_login (by decide) (by decide)
  have haddress := hgiven.2 (by decide)
  obtain ⟨found, hparse, -, -, hsame⟩ := hread siteRoot (isPlaced_site hvisit)
  rw [haddress] at hparse
  exact ⟨by decide +kernel, haddress, found, hparse, hsame.2 ⟨by decide, isPath_app⟩⟩

/-- A backend that writes the mount itself, in its links and in its locations: the link gets
the mount a second time, the location does not. -/
theorem appVisit_parts_from_link :
    IsPath "/app/login" ∧
    Links.mount "/app" "<a href=\"/app/login\">" = "<a href=\"/app/app/login\">".toList ∧
    forClient (mountedVisit "/app") upstreamPage upstreamPage "/app/login" =
      "https://site.example/app/login" ∧
    ∃ found, parse "https://site.example/app/login" = .ok found ∧
      found.pathText = "/app/login" := by
  have hpath : IsPath ("/app".toList ++ "/login".toList) :=
    (isPath_append_iff rfl isPath_login).2 isPath_app
  have hplaced : (mountedVisit "/app").IsPlaced "site.example" siteRoot := isPlaced_site rfl
  obtain ⟨found, hparse, -, -, -, hread⟩ := hplaced.exists_parse hpath.head?
  exact ⟨hpath, by decide +kernel, by decide +kernel, found, hparse, hread hpath⟩

end Client

end Location

end RuleGateway
