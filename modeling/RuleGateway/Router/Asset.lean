import RuleGateway.Router.Basic
import RuleGateway.Url.Parser

/-!
# Assets of proxied pages

A page served below a mount may load its framework assets from the site root.
Such a request is led back under the mount of the proxy rule that the referring
page lies under, the longest one if there are several.
-/

namespace RuleGateway.Router

/-- The mounts of the proxy rules that have a target, the root left out. -/
def proxyMounts (router : Router) : List Text :=
  (router.matchers.filter fun m => m.rule.kind = .proxy ∧ m.rule.isInert = false).filterMap
    Matcher.mount?

/-- The longer of a mount and one found later; the later one if they are as
long. -/
def longer (best : Option Text) (mount : Text) : Option Text :=
  match best with
  | some old => if Text.byteLength mount < Text.byteLength old then some old else some mount
  | none => some mount

/-- The longest proxy mount that a page path lies under. -/
def mountOfPage? (router : Router) (page : Text) : Option Text :=
  (router.proxyMounts.filter (Path.isUnder page)).foldl longer none

/-- The path of the page that a request was made from. -/
def pageOf? (referer : Option Text) : Option Text :=
  (referer.bind Url.parse?).map fun url => Path.normalize url.pathText

/-- The path that a request is matched under: an asset at the root is moved
under the mount of its page, every other path stays. -/
def effectivePath (router : Router) (path : Text) (referer : Option Text) : Text :=
  if Path.isRootAsset path then
    match (pageOf? referer).bind router.mountOfPage? with
    | some mount => mount ++ path
    | none => path
  else path

end RuleGateway.Router
