import RuleGateway.Duration
import RuleGateway.Page.NotFound
import RuleGateway.Backend.Network

/-!
# Failures

Why a request gets no answer from a rule, with the status and the response for
each. The response never shows the cause: that is only in the wording for the
log.
-/

namespace RuleGateway

/-- Why a request gets no answer from a rule. -/
inductive Failure where
  | noDocument
  | noMatch (path : Text)
  | backend (target : Text) (cause : FetchFailure)
  | exhausted (limit : Duration)
  | internal (detail : Text)
  deriving DecidableEq, Repr

namespace Failure

/-- The wording of a failure. -/
def message : Failure → Text
  | noDocument => "No rule slots configured"
  | noMatch path => "No rule matched ".toList ++ path
  | backend target cause =>
    "Upstream fetch failed for ".toList ++ target ++ ": ".toList ++ cause.message
  | exhausted limit => "Upstream did not complete within ".toList ++ limit.describe
  | internal detail => "Internal error: ".toList ++ detail

/-- The status of a failure. -/
def status : Failure → Nat
  | noDocument => 503
  | noMatch _ => 404
  | backend _ _ => 502
  | exhausted _ => 504
  | internal _ => 500

/-- The response to a client. -/
def response (failure : Failure) : Response :=
  match failure with
  | noDocument => .plain failure.status "503 No Slots configured"
  | noMatch _ => Page.notFound
  | backend _ _ => .plain failure.status "Bad Gateway: Upstream fetch failed."
  | exhausted _ => .plain failure.status "Gateway Timeout"
  | internal _ => .plain failure.status "Internal Server Error"

end Failure

end RuleGateway
