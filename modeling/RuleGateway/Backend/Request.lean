import RuleGateway.Http.Message
import RuleGateway.Http.Location
import RuleGateway.Backend.Network

/-!
# Requests to backends

A proxied request carries the headers of the client's request except those that
concern its connection, its own host or the platform in front of the gateway.
Who forwards it is said in fields that a client cannot choose.
-/

namespace RuleGateway

/-- A client's request as it is forwarded. -/
structure Inbound where
  method : Text := Method.get
  headers : Headers := []
  body : Option Bytes := none
  visit : Location.Visit := {}
  deriving DecidableEq, Repr

/-- Why nothing can be fetched from a text, if that is no address. -/
def FetchFailure.ofAddress? (text : Text) : Option FetchFailure :=
  match Url.parse text with
  | .ok _ => none
  | .error error => some (.invalidUrl (text ++ ": ".toList ++ error.message))

namespace Inbound

/-- The fields that concern one connection alone. -/
def hopFields : List Text :=
  ["connection", "transfer-encoding", "upgrade", "proxy-authenticate", "proxy-authorization", "te",
    "trailer"]

/-- The fields that the platform in front of the gateway sets. -/
def platformFields : List Text := ["cf-connecting-ip", "cf-ipcountry", "cf-ray", "cf-visitor"]

/-- The fields that are not passed on. -/
def droppedFields : List Text :=
  ["host".toList] ++ hopFields ++ ["keep-alive".toList, "content-length".toList] ++ platformFields

/-- The fields with a name set to a text, or as they are if the text cannot be a
value. -/
def setText (headers : Headers) (name text : Text) : Headers :=
  match HeaderValue.ofText? text with
  | some value => headers.insert name value
  | none => headers

/-- The fields of the request to a page of a backend. A page whose links will
be moved is asked for without compression. -/
def forwardedHeaders (inbound : Inbound) (current : Url) : Headers :=
  let host := (inbound.visit.host.bind HeaderValue.ofText?).getD []
  let headers := inbound.headers.removeAll droppedFields
  let headers := headers.insert "x-forwarded-host" host
  let headers := headers.insert "x-forwarded-proto" (Utf8.encode "https")
  let headers := setText headers "origin" current.renderOrigin
  let headers := setText headers "referer" current.render
  if inbound.visit.mount.isSome then headers.insert "accept-encoding" (Utf8.encode "identity")
  else headers

/-- The request to a page of a backend. -/
def request (inbound : Inbound) (method : Text) (current : Url) : Outbound :=
  { method, url := current.render, headers := inbound.forwardedHeaders current,
    body := if Method.carriesBody method then inbound.body else none }

end Inbound

end RuleGateway
