import RuleGateway.Http.Headers
import RuleGateway.Url.Parser

/-!
# Where a backend redirects to

A redirect of a backend to itself has to keep the client on the gateway's own
host and, for a mounted rule, below the mount. A redirect to another site is
left as it is. The second half of the module writes an address as the value of
a `Location` field.
-/

namespace RuleGateway.Location

/-- What a client asked for: the authority it addressed, the address it gave,
and the mount of the rule that answers. -/
structure Visit where
  host : Option Text := none
  href : Text := []
  mount : Option Text := none
  deriving DecidableEq, Repr

/-- The path below the mount. A path that is there already stays. -/
def mountedPath (mount : Option Text) (path : Text) : Text :=
  match mount with
  | some mount => if Path.isUnder path mount then path else mount ++ path
  | none => path

/-- The address of a backend's page on the gateway's host. -/
def localAddress (host : Text) (mount : Option Text) (url : Url) : Text :=
  let query := ((url.query.bind Text.nonempty?).map ('?' :: ·)).getD []
  "https://".toList ++ host ++ mountedPath mount url.pathText ++ query

/-- The address that a client is sent to for an address of a backend. A page
is never sent to itself: where that would happen the backend's own address is
given. -/
def ofUrl (visit : Visit) (target url : Url) : Text :=
  match visit.host.bind Text.nonempty? with
  | none => url.render
  | some host =>
    let address := localAddress host visit.mount url
    if Url.sameOrigin url target ∧ address ≠ visit.href then address else url.render

/-- Whether a text is a path from the root of a site. -/
def isFromRoot (text : Text) : Bool :=
  Text.startsWith text ['/'] && !Text.startsWith text ['/', '/']

/-- The text below the mount if it is a path from the root. -/
def mounted (mount : Option Text) (text : Text) : Text :=
  match mount with
  | some mount => if isFromRoot text then mount ++ text else text
  | none => text

/-- Where a client is sent when the page at `current`, reached from `target`,
redirects to `location`. -/
def forClient (visit : Visit) (current target : Url) (location : Text) : Text :=
  mounted visit.mount
    (match current.join location with
    | .ok url => ofUrl visit target url
    | .error _ => location)

/-- The text of an address in ASCII. -/
def ascii (address : Text) : Text :=
  if Text.isAscii address then address
  else
    match Url.parse address with
    | .ok url => url.render
    | .error _ => Percent.encode Percent.isControl address

/-- The value of a field that sends a client to an address, if there is one. -/
def value? (address : Text) : Option Bytes := HeaderValue.ofText? (ascii address)

end RuleGateway.Location
