import RuleGateway.Http.Headers

/-!
# The network

What the gateway sends to backends and what comes back. A network is a function
from a request and its own state to an answer, so whatever backends do, in
whatever order, is a value. An answer takes time, and it is a reply, a failure,
or a crash of the client that made the request.
-/

namespace RuleGateway

/-- A request to a backend. -/
structure Outbound where
  method : Text
  url : Text
  headers : Headers := []
  body : Option Bytes := none
  deriving DecidableEq, Repr

/-- What a backend replied. -/
structure Reply where
  status : Nat
  headers : Headers := []
  body : Bytes := []
  deriving DecidableEq, Repr

/-- Why there is no reply: the address is none, the connection failed, or the
body broke off. Each has the text that describes it. -/
inductive FetchFailure where
  | invalidUrl (detail : Text)
  | transport (detail : Text)
  | body (detail : Text)
  deriving DecidableEq, Repr

/-- The wording of a failure. -/
def FetchFailure.message : FetchFailure → Text
  | invalidUrl detail => "Invalid upstream URL: ".toList ++ detail
  | transport detail => "Upstream transport error: ".toList ++ detail
  | body detail => "Failed to read upstream body: ".toList ++ detail

/-- How a fetch ends. -/
inductive FetchResult where
  | reply (reply : Reply)
  | failure (failure : FetchFailure)
  | crash
  deriving DecidableEq, Repr

/-- The end of a fetch and the milliseconds that it took. -/
structure Answer where
  delay : Nat := 0
  result : FetchResult
  deriving DecidableEq, Repr

/-- A network with its state: what it answers to a request, and its state after
that. -/
abbrev Network (σ : Type) := Outbound → σ → Answer × σ

/-- The request for the page at an address. -/
def Outbound.get (url : Text) : Outbound := { method := "GET", url }

end RuleGateway
