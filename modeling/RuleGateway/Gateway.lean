import RuleGateway.Canonical
import RuleGateway.Page.Crawling
import RuleGateway.Page.Icon
import RuleGateway.Router.Asset
import RuleGateway.Settings.Bindings
import RuleGateway.Store.Load
import RuleGateway.Backend.Delivery

/-!
# The gateway

A request is answered in stages: the canonical origin first, then the icon, then
the rule document, the documents for crawlers, and in the end the rules that
match. The candidates are tried in order. A redirect settles the request; a
proxied response does so unless it says that the page is missing or the server
failed, and the last such response is given when no candidate does better.
Whatever happens there is a response, and each request is recorded once.
-/

namespace RuleGateway

/-- What a gateway is set up with, and which base paths its matching engine
takes. -/
structure Gateway where
  source : DocumentSource
  bindings : Bindings
  backend : BackendLimits
  canonical : CanonicalPolicy
  compiles : Text → Bool := fun _ => true

/-- What a gateway keeps between requests: its copies of rule documents, and the
state of the platform. -/
structure Running (σ : Type) where
  memory : Memory := []
  platform : σ

/-- A response with the way it came about and what is recorded on the way. -/
structure Answered where
  response : Response
  outcome : Outcome
  measurements : List Measurement := []
  deriving DecidableEq, Repr

namespace Answered

/-- The answer for a failure. -/
def failed (failure : Failure) : Answered :=
  let outcome :=
    match failure with
    | .noDocument => .noSlots
    | .noMatch _ => .notFound
    | _ => .error
  { response := failure.response, outcome }

/-- The answer after a crash. -/
def crashed : Answered := { response := .plain 500 "Internal Server Error", outcome := .error }

/-- The answer with measurements that came before it. -/
def after (measurements : List Measurement) (answered : Answered) : Answered :=
  { answered with measurements := measurements ++ answered.measurements }

/-- The answer with the request itself recorded. -/
def recorded (answered : Answered) : Answered :=
  { answered with
    measurements :=
      answered.measurements ++ [.request answered.outcome answered.response.status] }

end Answered

namespace Gateway

/-- The gateway of settings in a process with the given environment. -/
def ofSettings (settings : Settings) (environment : Table Text) : Gateway :=
  { source := settings.source, bindings := settings.bindingsIn environment,
    backend := settings.backend, canonical := settings.canonical }

/-- The address of the rule document. -/
def documentUrl (gateway : Gateway) : Text := gateway.source.resolve gateway.bindings

/-- How the rule document is loaded. -/
def loader (gateway : Gateway) : Loader :=
  { ttl := gateway.source.cacheTtl, fetchTimeout := gateway.backend.timeout }

/-- Whether a response leaves the request to the next candidate. -/
def isSoftFailure (response : Response) : Bool :=
  response.status == 404 || response.isServerError

/-- What an inbound request is forwarded with, before the mount of a rule. -/
def inbound (request : Request) : Except Failure Inbound :=
  let visit : Location.Visit :=
    { host := request.authority?, href := request.origin ++ request.target.pathAndQuery }
  let inbound : Inbound := { method := request.method, headers := request.headers, visit }
  if Method.carriesBody request.method then
    match request.bodyFailure with
    | some reason => .error (.internal ("Failed to read request body: ".toList ++ reason))
    | none => .ok { inbound with body := some request.body }
  else .ok inbound

/-- The request under the mount of a matcher. -/
def under (matcher : Matcher) (inbound : Inbound) : Inbound :=
  { inbound with visit := { inbound.visit with mount := matcher.mount? } }

/-- The answer that a rule without proxy gives. -/
def redirect (rule : Rule) (target : Text) : Answered :=
  match redirectTo target rule.status with
  | .ok response => { response, outcome := .redirect }
  | .error failure => .failed failure

variable {σ : Type}

/-- The answer of the first candidate that settles the request. The response of
the last candidate that did not is kept in case there is none. -/
def dispatch (gateway : Gateway) (network : Network σ) (path : Text) (inbound : Inbound) :
    Option Response → List (Matcher × Text) → σ → Answered × σ
  | some response, [], state => ({ response, outcome := .proxy }, state)
  | none, [], state => (.failed (.noMatch path), state)
  | _, (matcher, target) :: rest, state =>
    if matcher.rule.kind = .proxy then
      let (forwarded, state) :=
        (under matcher inbound).forward network gateway.backend target state
      match forwarded.response with
      | none => (Answered.crashed.after forwarded.measurements, state)
      | some response =>
        if isSoftFailure response then
          let (answered, state) :=
            gateway.dispatch network path inbound (some response) rest state
          (answered.after forwarded.measurements, state)
        else
          ({ response, outcome := .proxy, measurements := forwarded.measurements }, state)
    else (redirect matcher.rule target, state)

/-- The path of the page that a request says it comes from. -/
def referer? (request : Request) : Option Text :=
  ((request.headers.get? "referer").or (request.headers.get? "referrer")).bind HeaderValue.text?

/-- The answer of the rules. The body is read once, before the first candidate,
and only if some candidate is a proxy rule. -/
def route (gateway : Gateway) (network : Network σ) (router : Router) (request : Request)
    (path : Text) (state : σ) : Answered × σ :=
  let effective := router.effectivePath (Path.decode path) (referer? request)
  let candidates := router.candidates effective request.target.query
  if candidates.any (·.1.rule.kind = .proxy) then
    match inbound request with
    | .error failure => (.failed failure, state)
    | .ok inbound => gateway.dispatch network effective inbound none candidates state
  else gateway.dispatch network effective {} none candidates state

/-- The answer with a router: documents for crawlers, else the rules. -/
def serve (gateway : Gateway) (network : Network σ) (router : Router) (request : Request)
    (path : Text) (state : σ) : Answered × σ :=
  if path = "/robots.txt".toList then
    ({ response := Page.robots request.origin gateway.bindings.allowsRobots, outcome := .robots },
      state)
  else if path = "/sitemap.xml".toList then
    ({ response := Page.sitemap request.origin router, outcome := .sitemap }, state)
  else gateway.route network router request path state

/-- The answer to a request for the canonical origin that is not for the icon. -/
def answerLoaded (gateway : Gateway) (network : Network σ) (request : Request) (path : Text)
    (loaded : Loaded) (state : σ) : Answered × σ :=
  match loaded with
  | .crashed => (.crashed, state)
  | .unavailable => (.failed .noDocument, state)
  | .served document _ =>
    match Router.ofDocument? document gateway.compiles with
    | none => (.failed .noDocument, state)
    | some router => gateway.serve network router request path state

/-- The answer before it is recorded. -/
def answer (gateway : Gateway) (platform : Platform σ) (request : Request) (running : Running σ) :
    Answered × Running σ :=
  let path := Path.normalize request.target.path
  match gateway.canonical.redirect? request with
  | some response => ({ response, outcome := .canonical }, running)
  | none =>
    if path = "/favicon.ico".toList then ({ response := Page.icon, outcome := .favicon }, running)
    else
      let (loaded, memory, state) :=
        gateway.loader.load platform gateway.documentUrl running.memory running.platform
      let (answered, state) :=
        gateway.answerLoaded platform.network request path loaded state
      (answered.after loaded.measurements, { memory, platform := state })

/-- The answer to a request, with all that is recorded for it. -/
def handle (gateway : Gateway) (platform : Platform σ) (request : Request) (running : Running σ) :
    Answered × Running σ :=
  let (answered, running) := gateway.answer platform request running
  (answered.recorded, running)

end Gateway

end RuleGateway
