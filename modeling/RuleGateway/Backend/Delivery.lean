import RuleGateway.Backend.Exchange
import RuleGateway.Http.Cookie
import RuleGateway.Http.Security
import RuleGateway.Page.Links
import RuleGateway.Rule.Basic

/-!
# Delivering replies

What a client gets for an exchange. A reply is delivered with its own status,
and its headers are made fit for another host: fields of the connection and
foreign policies go, cookies lose their domain, redirects stay on the gateway,
and fields of the gateway tell what the backend said. Pages of a mounted rule
have their links moved below the mount.
-/

namespace RuleGateway

namespace Delivery

/-- The first `Location` of a reply as text. -/
def location? (headers : Headers) : Option Text :=
  (headers.get? "location").map Utf8.decodeLossy

/-- The fields with the ones that tell about the exchange. -/
def withReport (headers : Headers) (status followed : Nat) : Headers :=
  let location := ((location? headers).bind HeaderValue.ofText?).getD []
  let headers := headers.insert "x-upstream-status" (Utf8.encode (Text.ofNat status))
  let headers := headers.insert "x-upstream-location" location
  headers.insert "x-proxy-redirects-followed" (Utf8.encode (Text.ofNat followed))

/-- The value of a cookie without its domain, if it can still be a value. -/
def cookie? (value : Bytes) : Option Bytes :=
  HeaderValue.ofText? (Cookie.withoutDomain (Utf8.decodeLossy value))

/-- The fields with cookies that are bound to the gateway's host. -/
def withCookies (headers : Headers) : Headers :=
  headers.replace "set-cookie" ((headers.valuesOf "set-cookie").filterMap cookie?)

/-- The fields with the redirect as the client has to follow it. -/
def withLocation (visit : Location.Visit) (current target : Url) (location : Option Text)
    (headers : Headers) : Headers :=
  let address := location.map (Location.forClient visit current target)
  match address.bind Location.value? with
  | some value => headers.insert "location" value
  | none => headers

/-- The fields of a reply made fit for the client. -/
def headers (visit : Location.Visit) (current target : Url) (followed : Nat) (reply : Reply) :
    Headers :=
  let kept := reply.headers.removeAll Inbound.hopFields
  withLocation visit current target (location? kept)
    (withCookies (withReport kept reply.status followed).secured)

/-- Whether the fields say that the body is a page. -/
def isPage (headers : Headers) : Bool :=
  match headers.text? "content-type" with
  | some text => Text.hasPart text "text/html"
  | none => false

/-- The response for the last reply of an exchange. -/
def response (visit : Location.Visit) (current target : Url) (followed : Nat) (reply : Reply) :
    Response :=
  let headers := headers visit current target followed reply
  match visit.mount with
  | some mount =>
    if isPage headers then
      { status := reply.status, headers := headers.remove "content-length",
        body := Utf8.encode (Links.mount mount (Utf8.decodeLossy reply.body)) }
    else { status := reply.status, headers, body := reply.body }
  | none => { status := reply.status, headers, body := reply.body }

end Delivery

/-- What came of forwarding a request: the response, unless the client of the
network crashed, and what is recorded. -/
structure Forwarded where
  response : Option Response
  measurements : List Measurement
  deriving DecidableEq, Repr

namespace Exchange

/-- The response for an exchange that started at a target. -/
def response? (exchange : Exchange) (limits : BackendLimits) (visit : Location.Visit)
    (target : Url) : Option Response :=
  match exchange.ending with
  | .answered current reply =>
    some (Delivery.response visit current target exchange.followed reply)
  | .failed current failure => some (Failure.backend current.render failure).response
  | .overran => some (Failure.exhausted limits.timeout).response
  | .crashed => none

end Exchange

/-- Forwards a request to the address that a text is. -/
def Inbound.forward {σ : Type} (inbound : Inbound) (network : Network σ) (limits : BackendLimits)
    (target : Text) (state : σ) : Forwarded × σ :=
  match Url.parse target with
  | .error error =>
    let failure := Failure.backend target (.invalidUrl error.message)
    ({ response := some failure.response, measurements := [] }, state)
  | .ok url =>
    let (exchange, state) := Exchange.run network limits inbound url state
    ({ response := exchange.response? limits inbound.visit url,
       measurements := exchange.measurements }, state)

/-- The response that sends a client to a target. A status that is none reads as
the usual one. -/
def redirectTo (target : Text) (status : Nat) : Except Failure Response :=
  match Location.value? target with
  | none => .error (.internal ("Unusable redirect target ".toList ++ target))
  | some value =>
    let status := if 100 ≤ status ∧ status ≤ 999 then status else Rule.defaultStatus
    .ok { status, headers := Headers.secured [("location", value)] }

end RuleGateway
