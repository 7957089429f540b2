import RuleGateway.Proofs.Http.Location
import RuleGateway.Proofs.Url.Web

/-!
# Locations below a mount

A location of a backend is put below the mount in one of two places: where it leads to
the backend's own site, and where it leads nowhere but is a path from the root. What
comes of the one is no path from the root, so that the mount is never added twice
(`isSent_forClient`). A client is sent to the page it asked for only where the backend
itself does that.
-/

namespace RuleGateway.Location

open Url

section Text

variable {text : Text}

theorem isFromRoot_of_head? (h : text.head? ≠ some '/') : isFromRoot text = false := by
  cases text with
  | nil => rfl
  | cons c text =>
    have hc : c ≠ '/' := fun hc => h (congrArg some hc)
    simp [isFromRoot, Text.startsWith, Text.after?, Ne.symm hc]

theorem head?_of_isFromRoot (h : isFromRoot text) : text.head? = some '/' := by
  by_contra hhead
  rw [isFromRoot_of_head? hhead] at h
  cases h

theorem mounted_of_not_isFromRoot (h : isFromRoot text = false) (mount : Option Text) :
    mounted mount text = text := by
  cases mount with
  | none => rfl
  | some mount => rw [mounted, h, if_neg Bool.false_ne_true]

/-- An address of the web is no path from the root. -/
theorem isFromRoot_render {url : Url} (h : url.HasWebScheme) : isFromRoot url.render = false := by
  apply isFromRoot_of_head?
  rw [render, renderWithoutFragment]
  rcases h with hscheme | hscheme <;> rw [hscheme] <;> simp

theorem isFromRoot_localAddress (host : Text) (mount : Option Text) (url : Url) :
    isFromRoot (localAddress host mount url) = false := by
  have hhead : (localAddress host mount url).head? = some 'h' := rfl
  apply isFromRoot_of_head?
  rw [hhead]
  decide

end Text

section Places

/-- What a path is placed at under a mount: itself if it is below the mount already, and
otherwise what the mount and the path make. -/
structure Places (mount : Option Text) (path placed : Text) : Prop where
  from_root : placed.head? = some '/'
  once : placed = path ∨
    ∃ base ∈ mount, Path.isUnder path base = false ∧ placed = base ++ path
  below : ∀ base ∈ mount, Path.isUnder placed base

variable {mount : Option Text} {path : Text}

theorem isUnder_append (hpath : path.head? = some '/') (base : Text) :
    Path.isUnder (base ++ path) base := by
  obtain ⟨rest, rfl⟩ := List.head?_eq_some_iff.1 hpath
  exact Path.isUnder_iff.2 (.inr (.inr ⟨rest, rfl⟩))

theorem places_mountedPath (hmount : ∀ base ∈ mount, base.head? = some '/')
    (hpath : path.head? = some '/') : Places mount path (mountedPath mount path) := by
  cases mount with
  | none => exact ⟨hpath, .inl rfl, fun base hbase => by cases hbase⟩
  | some base =>
    rw [mountedPath]
    cases hunder : Path.isUnder path base with
    | true =>
      refine ⟨hpath, .inl rfl, ?_⟩
      rintro other ⟨⟩
      exact hunder
    | false =>
      refine ⟨?_, .inr ⟨base, rfl, hunder, rfl⟩, ?_⟩
      · rw [if_neg Bool.false_ne_true, List.head?_append, hmount base rfl]
        rfl
      · rintro other ⟨⟩
        exact isUnder_append hpath base

end Places

section Client

/-- A text that starts with a scheme and two slashes. -/
def IsAbsolute (text : Text) : Prop :=
  ∃ scheme rest, scheme? text = some (scheme, '/' :: '/' :: rest)

theorem IsAbsolute.head?_ne {text : Text} (h : IsAbsolute text) : text.head? ≠ some '/' := by
  obtain ⟨scheme, rest, hscheme⟩ := h
  intro hhead
  rw [scheme?, hhead] at hscheme
  cases hscheme

/-- The address of a path and the query of a page on the gateway's host. -/
def addressAt (host path : Text) (url : Url) : Text :=
  lead "https" host ++ (path ++ asked (url.query.bind Text.nonempty?))

theorem localAddress_eq (host : Text) (mount : Option Text) (url : Url) :
    localAddress host mount url = addressAt host (mountedPath mount url.pathText) url := by
  have hlead : lead "https" host = "https://".toList ++ host := rfl
  unfold localAddress addressAt
  rw [hlead, List.append_assoc _ (mountedPath mount url.pathText), asked]

/-- What a client is sent to for a location of a page reached from a target. -/
structure IsSent (visit : Visit) (current target : Url) (location address : Text) : Prop where
  /-- A page of another site is given as it was joined. -/
  other : ∀ url, current.join location = .ok url → sameOrigin url target = false →
    address = url.render
  /-- A page of the backend's site is given on the gateway's host with its path below the
  mount, and as it was joined only where that is the page that was asked for. -/
  own : ∀ url, current.join location = .ok url → sameOrigin url target →
    (∃ host path, visit.host = some host ∧ host ≠ [] ∧ Places visit.mount url.pathText path ∧
      address = addressAt host path url) ∨
    address = url.render ∧
      ∀ host ∈ visit.host, host ≠ [] → localAddress host visit.mount url = visit.href
  /-- A location that cannot be joined is left alone unless it is a path from the root. -/
  unjoined : ∀ error, current.join location = .error error →
    if isFromRoot location then address = visit.mount.getD [] ++ location else address = location
  /-- The page that was asked for is given only if it is what the backend gave. -/
  self : address = visit.href →
    match current.join location with
    | .ok url => url.render = visit.href
    | .error _ => location = visit.href

variable {visit : Visit} {current target url : Url} {location : Text}

theorem isFromRoot_ofUrl (h : url.HasWebScheme) (visit : Visit) (target : Url) :
    isFromRoot (ofUrl visit target url) = false := by
  rcases ofUrl_cases visit target url with ⟨host, -, -, -, hlocal, -⟩ | ⟨hown, -⟩
  · rw [hlocal]
    exact isFromRoot_localAddress host visit.mount url
  · rw [hown]
    exact isFromRoot_render h

theorem forClient_of_ok (h : current.join location = .ok url) (hurl : url.HasWebScheme)
    (visit : Visit) (target : Url) :
    forClient visit current target location = ofUrl visit target url := by
  rw [forClient, h]
  exact mounted_of_not_isFromRoot (isFromRoot_ofUrl hurl visit target) _

theorem forClient_of_error {error : UrlError} (h : current.join location = .error error)
    (visit : Visit) (target : Url) :
    forClient visit current target location =
      if isFromRoot location then visit.mount.getD [] ++ location else location := by
  rw [forClient, h, mounted.eq_def]
  split
  · rename_i mount hmount
    rw [hmount]
    rfl
  · rename_i hmount
    rw [hmount, Option.getD_none, List.nil_append, ite_self]

/-- The mount is added to a location at most once, and only where the location leads to
the backend's site or nowhere. A page is sent to itself by its backend alone. -/
theorem isSent_forClient (hcurrent : current.IsWeb)
    (hweb : ∀ url, current.join location = .ok url → url.HasWebScheme)
    (hmount : ∀ mount ∈ visit.mount, mount.head? = some '/') (hhref : IsAbsolute visit.href)
    (target : Url) :
    IsSent visit current target location (forClient visit current target location) := by
  cases hjoin : current.join location with
  | ok url =>
    have hurl : url.IsWeb := isWeb_of_join hcurrent (hweb url hjoin) hjoin
    rw [forClient_of_ok hjoin hurl.scheme]
    constructor
    case other =>
      intro found hfound hother
      cases hjoin.symm.trans hfound
      rcases ofUrl_cases visit target url with ⟨_, -, -, hsame, -⟩ | ⟨hown, -⟩
      · rw [hother] at hsame
        cases hsame
      · exact hown
    case own =>
      intro found hfound hsame
      cases hjoin.symm.trans hfound
      rcases ofUrl_cases visit target url with ⟨host, hhost, hne, -, hlocal, -⟩ | ⟨hown, hself⟩
      · rw [hlocal, localAddress_eq]
        exact .inl ⟨host, _, hhost, hne, places_mountedPath hmount hurl.head?_pathText, rfl⟩
      · exact .inr ⟨hown, hself hsame⟩
    case unjoined =>
      intro error herror
      cases hjoin.symm.trans herror
    case self =>
      intro hself
      rw [hjoin]
      rcases ofUrl_cases visit target url with ⟨host, -, -, -, hlocal, hdiffers⟩ | ⟨hown, -⟩
      · exact absurd (hlocal.symm.trans hself) hdiffers
      · exact hown.symm.trans hself
  | error error =>
    rw [forClient_of_error hjoin]
    constructor
    case other =>
      intro found hfound
      cases hjoin.symm.trans hfound
    case own =>
      intro found hfound
      cases hjoin.symm.trans hfound
    case unjoined =>
      intro _ _
      split <;> rfl
    case self =>
      intro hself
      rw [hjoin]
      dsimp only
      split at hself
      · rename_i hroot
        -- Behind the mount the location is still a path from the root.
        refine absurd ?_ hhref.head?_ne
        rw [← hself]
        cases hfound : visit.mount with
        | none => exact head?_of_isFromRoot hroot
        | some mount =>
          rw [Option.getD_some, List.head?_append, hmount mount hfound]
          rfl
      · exact hself

/-- The page of a backend. -/
def upstreamPage : Url where
  scheme := "https"
  authority := some (named "up.example")
  path := .rooted [[]]

theorem isWeb_upstreamPage : upstreamPage.IsWeb :=
  ⟨.inr rfl, ⟨[[]], rfl, by simp, by simp [isSettled_nil]⟩, ⟨none, rfl⟩⟩

/-- A request for the root of a mount. -/
def appVisit : Visit where
  host := some "site.example".toList
  href := "https://site.example/app"
  mount := some "/app".toList

/-- A login page of the backend is found below the mount. -/
theorem appVisit_isSent :
    forClient appVisit upstreamPage upstreamPage "/login" = "https://site.example/app/login" ∧
      IsSent appVisit upstreamPage upstreamPage "/login" "https://site.example/app/login" := by
  have hjoin : upstreamPage.join "/login" =
      .ok { upstreamPage with path := .rooted ["login".toList] } := by decide +kernel
  have hsent : forClient appVisit upstreamPage upstreamPage "/login" =
      "https://site.example/app/login" := by decide +kernel
  refine ⟨hsent, ?_⟩
  rw [← hsent]
  refine isSent_forClient isWeb_upstreamPage ?_ ?_ ⟨"https".toList, _, rfl⟩ upstreamPage
  · intro url hurl
    cases hjoin.symm.trans hurl
    exact .inr rfl
  · rintro mount ⟨⟩
    rfl

end Client

end RuleGateway.Location
