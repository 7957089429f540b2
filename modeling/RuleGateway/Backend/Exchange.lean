import RuleGateway.Failure
import RuleGateway.Metric
import RuleGateway.Settings.Basic
import RuleGateway.Backend.Request

/-!
# Exchanges with backends

A proxied request may take several requests to backends, because redirects are
followed up to a limit. All of them together have one deadline. An `Exchange`
records what was sent and what came back in time, and how it ended; everything
else about a proxied response is computed from that record.
-/

namespace RuleGateway

/-- How an exchange ends: with the reply that is delivered, with a fetch that
failed, with the deadline passed, or with a crash. -/
inductive Ending where
  | answered (current : Url) (reply : Reply)
  | failed (current : Url) (failure : FetchFailure)
  | overran
  | crashed
  deriving DecidableEq, Repr

/-- The requests that were sent, the replies that came in time, and the end. -/
structure Exchange where
  requests : List Outbound
  replies : List Reply
  ending : Ending
  deriving DecidableEq, Repr

namespace Reply

/-- Whether the status asks to go elsewhere. -/
def isRedirect (reply : Reply) : Bool := 300 ≤ reply.status && reply.status < 400

/-- Where a reply from a page redirects to. -/
def next? (reply : Reply) (current : Url) : Option Url :=
  if reply.isRedirect then
    (reply.headers.text? "location").bind fun location => (current.join location).toOption
  else none

/-- The method that the redirect is followed with. -/
def nextMethod (reply : Reply) (method : Text) : Text :=
  if 301 ≤ reply.status ∧ reply.status ≤ 303 then Method.get else method

end Reply

namespace Exchange

/-- The exchange with one more request at its start. -/
def sent (request : Outbound) (exchange : Exchange) : Exchange :=
  { exchange with requests := request :: exchange.requests }

/-- The exchange with one more request and its reply at its start. -/
def replied (request : Outbound) (reply : Reply) (exchange : Exchange) : Exchange :=
  { exchange with
    requests := request :: exchange.requests, replies := reply :: exchange.replies }

/-- An exchange that is over. -/
def ended (ending : Ending) : Exchange := { requests := [], replies := [], ending }

/-- The exchange from a page on: how many redirects may still be followed, the
time that was spent, and the method come first. -/
def follow {σ : Type} (network : Network σ) (timeout : Nat) (inbound : Inbound) :
    Nat → Nat → Text → Url → σ → Exchange × σ
  | left, spent, method, current, state =>
    let request := inbound.request method current
    let (answer, state) := network request state
    let spent := spent + answer.delay
    if timeout < spent then (sent request (ended .overran), state)
    else
      match answer.result with
      | .crash => (sent request (ended .crashed), state)
      | .failure failure => (sent request (ended (.failed current failure)), state)
      | .reply reply =>
        match left, reply.next? current with
        | left + 1, some next =>
          let (rest, state) :=
            follow network timeout inbound left spent (reply.nextMethod method) next state
          (replied request reply rest, state)
        | _, _ => (replied request reply (ended (.answered current reply)), state)

/-- The exchange that forwards a request to a page. -/
def run {σ : Type} (network : Network σ) (limits : BackendLimits) (inbound : Inbound)
    (target : Url) (state : σ) : Exchange × σ :=
  follow network limits.timeout.millis inbound limits.maxRedirects 0 inbound.method target state

/-- How many redirects were followed. -/
def followed (exchange : Exchange) : Nat := exchange.requests.length - 1

/-- What is recorded for an exchange. -/
def measurements (exchange : Exchange) : List Measurement :=
  exchange.replies.map (fun reply => .backendReply reply.status) ++
    match exchange.ending with
    | .answered _ _ => [.redirectsFollowed exchange.followed]
    | _ => []

end Exchange

end RuleGateway
