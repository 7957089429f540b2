import RuleGateway.Http.Message
import RuleGateway.Settings.Basic

/-!
# The canonical origin

A site is served from one origin. A request for another spelling of it, by
plain HTTP or with a leading `www.`, is sent to the canonical one for good.
-/

namespace RuleGateway

namespace Request

/-- A host without its port. -/
def withoutPort (host : Text) : Text :=
  match host with
  | '[' :: _ =>
    match host.dropWhile (· != ']') with
    | [] => host
    | _ => host.takeWhile (· != ']') ++ [']']
  | _ => (RequestTarget.cut ':' host).1

/-- The host name that the client addressed, without port. -/
def hostname? (request : Request) : Option Text :=
  (((request.headers.text? "host").or request.target.host?).map withoutPort).bind Text.nonempty?

end Request

namespace CanonicalPolicy

/-- The start of a host name that is not part of the canonical one. -/
def www : Text := "www."

/-- Whether an origin is not the canonical one. -/
def shouldRedirect (policy : CanonicalPolicy) (scheme hostname : Text) : Bool :=
  (policy.enforceHttps && scheme != "https".toList) ||
    (policy.stripWww && Text.startsWith hostname www)

/-- The canonical spelling of a host name. -/
def hostname (policy : CanonicalPolicy) (name : Text) : Text :=
  if policy.stripWww then (Text.after? www name).getD name else name

/-- The address of the same page at the canonical origin. -/
def location (policy : CanonicalPolicy) (request : Request) (name : Text) : Text :=
  let scheme := if policy.enforceHttps then "https".toList else request.scheme
  let query := ((request.target.query.bind Text.nonempty?).map ('?' :: ·)).getD []
  scheme ++ "://".toList ++ policy.hostname name ++ request.target.path ++ query

/-- The status of a redirect that holds for good and keeps the method. -/
def redirectStatus : Nat := 308

/-- The redirect of a request that is not for the canonical origin. -/
def redirect? (policy : CanonicalPolicy) (request : Request) : Option Response :=
  match request.hostname? with
  | none => none
  | some name =>
    if policy.shouldRedirect request.scheme name then
      let headers :=
        match HeaderValue.ofText? (policy.location request name) with
        | some value => [("location".toList, value)]
        | none => []
      some { status := redirectStatus, headers }
    else none

end CanonicalPolicy

end RuleGateway
