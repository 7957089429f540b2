import RuleGateway.Net.Ip
import RuleGateway.Path
import RuleGateway.Url.Domain.Basic

/-!
# Web addresses

An address in parts, as the URL standard has them: a scheme, an authority that
may be absent, a path that is a list of segments or, for schemes without a
hierarchy, a plain text, a query and a fragment. The parts hold their text in
serialized form, so writing an address only puts the parts together.
-/

namespace RuleGateway

/-- A host. -/
inductive Host where
  | domain (name : Text)
  | v4 (address : Nat)
  | v6 (pieces : List Nat)
  deriving DecidableEq, Repr

/-- The text of a host. -/
def Host.render : Host → Text
  | domain name => name
  | v4 address => Ip.renderV4 address
  | v6 pieces => '[' :: Ip.renderV6 pieces ++ [']']

/-- Who is addressed: credentials, a host that may be empty, and a port that is
not the usual one of the scheme. -/
structure Authority where
  username : Text := []
  password : Text := []
  host : Option Host := none
  port : Option Nat := none
  deriving DecidableEq, Repr

namespace Authority

/-- Whether there are credentials. -/
def hasCredentials (authority : Authority) : Bool :=
  !authority.username.isEmpty || !authority.password.isEmpty

/-- The text of an authority. -/
def render (authority : Authority) : Text :=
  let credentials :=
    if authority.hasCredentials then
      authority.username ++
        (if authority.password.isEmpty then [] else ':' :: authority.password) ++ ['@']
    else []
  let host := (authority.host.map Host.render).getD []
  let port := (authority.port.map fun port => ':' :: Text.ofNat port).getD []
  credentials ++ host ++ port

end Authority

/-- The path of an address: segments, each after a slash, or a plain text. -/
inductive UrlPath where
  | rooted (segments : List Text)
  | rootless (text : Text)
  deriving DecidableEq, Repr

/-- The text of a path. -/
def UrlPath.render : UrlPath → Text
  | rooted segments => Path.ofSegments segments
  | rootless text => text

/-- The kinds of scheme that are read differently. -/
inductive SchemeKind where
  | web
  | file
  | other
  deriving DecidableEq, Repr

/-- Whether the scheme always has a host or a root and takes a backslash for a
slash. -/
def SchemeKind.isSpecial : SchemeKind → Bool
  | web | file => true
  | other => false

/-- The usual port of a scheme. -/
def defaultPort? (scheme : Text) : Option Nat :=
  if scheme = "http".toList ∨ scheme = "ws".toList then some 80
  else if scheme = "https".toList ∨ scheme = "wss".toList then some 443
  else if scheme = "ftp".toList then some 21
  else none

/-- The kind of a scheme. -/
def SchemeKind.of (scheme : Text) : SchemeKind :=
  if scheme = "file".toList then .file
  else if (defaultPort? scheme).isSome then .web
  else .other

/-- A web address. -/
structure Url where
  scheme : Text
  authority : Option Authority := none
  path : UrlPath
  query : Option Text := none
  fragment : Option Text := none
  deriving DecidableEq, Repr

/-- Scheme, host and port: what the same-origin rule compares. -/
structure Origin where
  scheme : Text
  host : Host
  port : Nat
  deriving DecidableEq, Repr

/-- The text of an origin, without the usual port of its scheme. -/
def Origin.render (origin : Origin) : Text :=
  origin.scheme ++ "://".toList ++ origin.host.render ++
    (if defaultPort? origin.scheme = some origin.port then [] else ':' :: Text.ofNat origin.port)

namespace Url

/-- The path as text. -/
def pathText (url : Url) : Text := url.path.render

/-- What stands before the path: the authority, or a mark that keeps a path
with an empty first segment from being read as one. -/
def renderAuthority (url : Url) : Text :=
  match url.authority, url.path with
  | some authority, _ => '/' :: '/' :: authority.render
  | none, .rooted ([] :: _ :: _) => ['/', '.']
  | none, _ => []

/-- The address without its fragment. -/
def renderWithoutFragment (url : Url) : Text :=
  url.scheme ++ ':' :: url.renderAuthority ++ url.pathText ++
    (url.query.map ('?' :: ·)).getD []

/-- The text of the address. -/
def render (url : Url) : Text :=
  url.renderWithoutFragment ++ (url.fragment.map ('#' :: ·)).getD []

/-- The origin of an address of a web scheme with a host. -/
def hostOrigin? (url : Url) : Option Origin := do
  let authority ← url.authority
  let host ← authority.host
  let usual ← defaultPort? url.scheme
  pure { scheme := url.scheme, host, port := authority.port.getD usual }

end Url

end RuleGateway
