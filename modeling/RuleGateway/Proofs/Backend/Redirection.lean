import RuleGateway.Proofs.Backend.Chain
import RuleGateway.Proofs.Http.Location

/-!
# Redirects that reach the client

A reply that redirects is delivered with its location rewritten for the client.
Where the rewritten address can be the value of a field, the response has it as its
only `Location`; where it cannot, the `Location` of the backend is left as it was
(`forward_redirects`). Only a host or a mount with control characters leads there.
-/

namespace RuleGateway

/-- A response that sends the client to an address, or nowhere. -/
def Response.LeadsOnlyTo (response : Response) (address : Text) : Prop :=
  response.headers.valuesOf "location" = [] ∨
    ∃ value, Location.value? address = some value ∧
      response.headers.valuesOf "location" = [value]

namespace Delivery

variable {visit : Location.Visit} {current target : Url} {reply : Reply}

/-- What a response makes of the redirect of a reply from a page. -/
structure Redirects (visit : Location.Visit) (current target : Url) (reply : Reply)
    (response : Response) : Prop where
  silent : address? visit current target reply = none →
    response.headers.valuesOf "location" = []
  leads_iff : ∀ address, address? visit current target reply = some address →
    (response.LeadsOnlyTo address ↔
      Text.isAscii address = false ∨ HeaderValue.IsWritable address)
  kept : ∀ address, address? visit current target reply = some address →
    ¬ response.LeadsOnlyTo address →
    response.headers.valuesOf "location" = reply.headers.valuesOf "location"
  writable : visit.IsWritable →
    (∀ value ∈ reply.headers.valuesOf "location", HeaderValue.isAllowed value) →
    ∀ address, address? visit current target reply = some address →
      HeaderValue.IsWritable address

/-- A reply that redirects has a location. -/
theorem exists_of_address? {address : Text}
    (h : address? visit current target reply = some address) :
    ∃ value ∈ reply.headers.valuesOf "location",
      address = Location.forClient visit current target (Utf8.decodeLossy value) := by
  obtain ⟨location, hlocation, rfl⟩ := Option.map_eq_some_iff.1 h
  obtain ⟨value, hvalue, rfl⟩ := Option.map_eq_some_iff.1 hlocation
  exact ⟨value, List.mem_of_head? hvalue, rfl⟩

theorem valuesOf_eq_nil_of_address? (h : address? visit current target reply = none) :
    reply.headers.valuesOf "location" = [] := by
  rw [address?, Option.map_eq_none_iff, location?, Option.map_eq_none_iff] at h
  exact List.head?_eq_none_iff.1 h

theorem redirects_response (hcurrent : current.IsClean) (followed : Nat) :
    Redirects visit current target reply (response visit current target followed reply) := by
  constructor
  case silent =>
    intro hnone
    rw [valuesOf_response_location, hnone]
    exact valuesOf_eq_nil_of_address? hnone
  case leads_iff =>
    intro address haddress
    rw [← Location.isSome_value?_iff, Response.LeadsOnlyTo, valuesOf_response_location, haddress,
      Option.bind_some]
    cases hvalue : Location.value? address with
    | none =>
      obtain ⟨first, hfirst, -⟩ := exists_of_address? haddress
      simpa using List.ne_nil_of_mem hfirst
    | some value => simp
  case kept =>
    intro address haddress hstrays
    rw [valuesOf_response_location, haddress, Option.bind_some]
    cases hvalue : Location.value? address with
    | none => rfl
    | some value =>
      have hleads : (response visit current target followed reply).LeadsOnlyTo address := by
        refine .inr ⟨value, hvalue, ?_⟩
        rw [valuesOf_response_location, haddress, Option.bind_some, hvalue]
        rfl
      exact absurd hleads hstrays
  case writable =>
    intro hvisit hallowed address haddress
    obtain ⟨value, hvalue, rfl⟩ := exists_of_address? haddress
    apply Location.isWritable_forClient hvisit hcurrent
    exact HeaderValue.isWritable_decodeLossy (hallowed value hvalue)

end Delivery

namespace Exchange

variable {σ : Type} {network : Network σ} {timeout : Nat} {inbound : Inbound}

theorem page_of_stop {left spent : Nat} {start current : Url} {answer : Answer} {reply : Reply}
    (h : stop? timeout left spent start answer = some (.answered current reply)) :
    current = start := by
  unfold stop? at h
  split at h
  · cases h
  · split at h
    · cases h
    · cases h
    · split at h
      · cases h
        rfl
      · cases h

/-- An exchange from a clean page on ends at a clean page: its locations are joined to
pages that were read before. -/
theorem isClean_of_answered {left spent : Nat} {method : Text} {start current : Url} {reply : Reply}
    {state : σ} (hstart : start.IsClean)
    (h : (follow network timeout inbound left spent method start state).1.ending =
      .answered current reply) : current.IsClean := by
  induction left, spent, method, start, state
    using follow_induction network timeout inbound with
  | stop hstep hstop =>
    rw [follow_of_stop hstep hstop, lone_ending] at h
    subst h
    rw [page_of_stop hstop]
    exact hstart
  | redirect hstep htime hresult hnext ih =>
    rw [follow_of_redirect hstep htime hresult hnext] at h
    obtain ⟨-, -, location, -, hjoin⟩ := Reply.next?_eq_some_iff.1 hnext
    exact ih (Url.isClean_of_join hstart hjoin) h

end Exchange

/-- What the client is told of redirects when an exchange from a target ends. -/
def Ending.Redirects (visit : Location.Visit) (target : Url) (response? : Option Response) :
    Ending → Prop
  | .answered current reply =>
    ∃ response, response? = some response ∧
      Delivery.Redirects visit current target reply response
  | .failed _ _ | .overran =>
    ∃ response, response? = some response ∧ response.headers.valuesOf "location" = []
  | .crashed => response? = none

theorem Exchange.redirects_response? {exchange : Exchange} {visit : Location.Visit} {target : Url}
    (hclean : ∀ current reply, exchange.ending = .answered current reply → current.IsClean)
    (limits : BackendLimits) :
    exchange.ending.Redirects visit target (exchange.response? limits visit target) := by
  rw [Exchange.response?]
  cases hending : exchange.ending with
  | answered current reply =>
    exact ⟨_, rfl, Delivery.redirects_response (hclean current reply hending) _⟩
  | failed current failure => exact ⟨_, rfl, rfl⟩
  | overran => exact ⟨_, rfl, rfl⟩
  | crashed => rfl

namespace Inbound

/-- The client of a forwarded request is sent where the redirect of the last reply
leads on the gateway, unless the address for that cannot be written. -/
theorem forward_redirects {σ : Type} (inbound : Inbound) (network : Network σ)
    (limits : BackendLimits) (target : Text) (state : σ) :
    match Url.parse target with
    | .error _ =>
      ∃ response, (inbound.forward network limits target state).1.response = some response ∧
        response.headers.valuesOf "location" = []
    | .ok url =>
      (Exchange.run network limits inbound url state).1.ending.Redirects inbound.visit url
        (inbound.forward network limits target state).1.response := by
  cases hurl : Url.parse target with
  | error error =>
    rw [forward_of_error hurl]
    exact ⟨_, rfl, rfl⟩
  | ok url =>
    rw [forward_of_ok hurl]
    apply Exchange.redirects_response?
    intro current reply hending
    exact Exchange.isClean_of_answered (Url.isClean_of_parse hurl) hending

/-- A page of a backend. -/
def homePage : Url where
  scheme := "https"
  authority := some { host := some (.v6 [0, 0, 0, 0, 0, 0, 0, 1]) }
  path := .rooted [[]]

/-- A reply that redirects within the site of the page. -/
def loginReply : Reply := { status := 302, headers := [("location", Utf8.encode "/login")] }

/-- A request below a mount with a control character. -/
def oddlyMounted : Inbound where
  visit := { host := some "site.example".toList, mount := some "/a\x01".toList }

/-- The page below the mount cannot be written, and the client gets the location of the
backend. -/
theorem oddlyMounted_strays :
    Url.parse? "https://[::1]/" = some homePage ∧
      Delivery.address? oddlyMounted.visit homePage homePage loginReply =
        some "https://site.example/a\x01/login".toList ∧
      ∃ response,
        (oddlyMounted.forward (fun _ _ => ({ result := .reply loginReply }, ()))
          { maxRedirects := 0 } "https://[::1]/" ()).1.response = some response ∧
        response.headers.valuesOf "location" = [Utf8.encode "/login"] ∧
        ¬ response.LeadsOnlyTo "https://site.example/a\x01/login" := by
  refine ⟨by decide +kernel, by decide +kernel, ?_⟩
  have hforward : (oddlyMounted.forward (fun _ _ => ({ result := .reply loginReply }, ()))
      { maxRedirects := 0 } "https://[::1]/" ()).1.response.map
        (·.headers.valuesOf "location") = some [Utf8.encode "/login"] := by decide +kernel
  obtain ⟨response, hresponse, hlocation⟩ := Option.map_eq_some_iff.1 hforward
  refine ⟨response, hresponse, hlocation, ?_⟩
  rintro (hnone | ⟨value, hvalue, -⟩)
  · rw [hlocation] at hnone
    cases hnone
  · have hunwritable : Location.value? "https://site.example/a\x01/login" = none := by decide
    rw [hunwritable] at hvalue
    cases hvalue

end Inbound

end RuleGateway
