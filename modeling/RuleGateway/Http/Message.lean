import RuleGateway.Http.Headers
import RuleGateway.Text.Blank

/-!
# Requests and responses

A request as the gateway receives it and a response as it gives it. The target
of a request is a path, or an address with an authority; the parts are kept as
they were sent, since redirects and logs show them unchanged.
-/

namespace RuleGateway

/-- The words for the methods that have no body, and for the method a redirect
may turn others into. -/
def Method.get : Text := "GET"

/-- The method that asks for headers alone. -/
def Method.head : Text := "HEAD"

/-- Whether requests of the method carry a body. -/
def Method.carriesBody (method : Text) : Bool := method != Method.get && method != Method.head

/-- What a request asks for: a scheme and an authority if it names them, and a
path with a query. -/
structure RequestTarget where
  scheme : Option Text := none
  authority : Option Text := none
  rest : Text := []
  deriving DecidableEq, Repr

namespace RequestTarget

/-- The text before the first occurrence of a separator, and what follows it. -/
def cut (separator : Char) (text : Text) : Text × Option Text :=
  match text.dropWhile (· != separator) with
  | [] => (text, none)
  | _ :: after => (text.takeWhile (· != separator), some after)

/-- The scheme before `://`, in small letters if it is one of the web, and what
follows. -/
def schemeOf? (text : Text) : Option (Text × Text) :=
  let name := text.takeWhile (· != ':')
  (Text.after? (name ++ "://".toList) text).map fun rest =>
    let small := Text.lower name
    (if small = "http".toList ∨ small = "https".toList then small else name, rest)

/-- The target that a text is. A fragment is no part of it. -/
def ofText (text : Text) : RequestTarget :=
  let text := (cut '#' text).1
  if text.head? = some '/' ∨ text = ['*'] then { rest := text }
  else
    let ends (c : Char) : Bool := c == '/' || c == '?'
    match schemeOf? text with
    | some (scheme, rest) =>
      { scheme := some scheme, authority := some (rest.takeWhile (!ends ·)),
        rest := rest.dropWhile (!ends ·) }
    | none =>
      { authority := some (text.takeWhile (!ends ·)), rest := text.dropWhile (!ends ·) }

/-- Whether the target is an authority and nothing else. -/
def isAuthority (target : RequestTarget) : Bool :=
  target.scheme.isNone && target.authority.isSome && target.rest.isEmpty

/-- The path as it was sent. An address without a path has the root. -/
def path (target : RequestTarget) : Text :=
  let path := (cut '?' target.rest).1
  if path.isEmpty ∧ !target.isAuthority then ['/'] else path

/-- The query as it was sent. -/
def query (target : RequestTarget) : Option Text := (cut '?' target.rest).2

/-- The path and the query as they were sent. -/
def pathAndQuery (target : RequestTarget) : Text :=
  if target.rest.isEmpty then ['/'] else target.rest

/-- The host in the authority, without credentials and port. -/
def host? (target : RequestTarget) : Option Text :=
  target.authority.map fun authority =>
    let host := (authority.reverse.takeWhile (· != '@')).reverse
    match host with
    | '[' :: _ => host.takeWhile (· != ']') ++ (host.dropWhile (· != ']')).take 1
    | _ => (cut ':' host).1

end RequestTarget

/-- A request. Its body is given as it was read, with the text of the failure
if reading it failed. -/
structure Request where
  method : Text := Method.get
  target : RequestTarget
  headers : Headers := []
  body : Bytes := []
  bodyFailure : Option Text := none
  deriving DecidableEq, Repr

namespace Request

/-- The authority that the client addressed: the `Host` field if it is
readable, else what the target names. -/
def authority? (request : Request) : Option Text :=
  (request.headers.text? "host").or request.target.authority

/-- The scheme that the client used. What a terminating edge reports in front of
the gateway comes first. -/
def scheme (request : Request) : Text :=
  let reported := (request.headers.text? "x-forwarded-proto").bind fun value =>
    let first := (RequestTarget.cut ',' value).1
    Text.nonempty? (Text.lower (Text.trim first))
  (reported.or (request.target.scheme.map Text.lower)).getD "http"

/-- The origin that the client addressed. -/
def origin (request : Request) : Text :=
  request.scheme ++ "://".toList ++ request.authority?.getD []

end Request

/-- A response. -/
structure Response where
  status : Nat
  headers : Headers := []
  body : Bytes := []
  deriving DecidableEq, Repr

namespace Response

/-- A response with a body of the given type. -/
def withBody (status : Nat) (contentType : Text) (body : Bytes) : Response :=
  { status, headers := [("content-type", Utf8.encode contentType)], body }

/-- A response with a plain text. -/
def plain (status : Nat) (text : Text) : Response :=
  withBody status "text/plain; charset=utf-8" (Utf8.encode text)

/-- Whether the status reports a failure of the server. -/
def isServerError (response : Response) : Bool := 500 ≤ response.status && response.status < 600

end Response

end RuleGateway
