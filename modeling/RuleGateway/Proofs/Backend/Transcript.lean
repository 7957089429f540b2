import RuleGateway.Backend.Delivery

/-!
# Transcripts of a network

A network can keep a record of what it was asked and what it answered, without
changing any answer. What an exchange or a forwarded request does to the outside
world is then the part of the record that it adds, whatever the network is and
however it answers. The record never reaches back: what was there before stays
in front and has no influence on what is added.
-/

namespace RuleGateway

/-- Requests in the order in which they were made, each with its answer. -/
abbrev Transcript := List (Outbound × Answer)

variable {σ : Type}

/-- The network with a record of its requests and answers. -/
def Network.logged (network : Network σ) : Network (σ × Transcript) := fun request state =>
  let (answer, next) := network request state.1
  (answer, (next, state.2 ++ [(request, answer)]))

theorem Network.logged_apply {network : Network σ} {request : Outbound} {answer : Answer}
    {state after : σ} (h : network request state = (answer, after)) (earlier : Transcript) :
    network.logged request (state, earlier) =
      (answer, (after, earlier ++ [(request, answer)])) := by
  rw [Network.logged, h]

/-- What was done without a record, with the record that it adds to an earlier
one. -/
def Transcript.adding {α : Type} (added earlier : Transcript) (done : α × σ) :
    α × (σ × Transcript) :=
  (done.1, (done.2, earlier ++ added))

namespace Exchange

/-- How an exchange ends with an answer to the request for a page, none if it
goes on. -/
def stop? (timeout left spent : Nat) (current : Url) (answer : Answer) : Option Ending :=
  if timeout < spent + answer.delay then some .overran
  else
    match answer.result with
    | .crash => some .crashed
    | .failure failure => some (.failed current failure)
    | .reply reply =>
      if left = 0 ∨ reply.next? current = none then some (.answered current reply) else none

/-- The exchange that ends with the answer to its only request. -/
def lone (request : Outbound) : Ending → Exchange
  | .answered current reply => replied request reply (ended (.answered current reply))
  | .failed current failure => sent request (ended (.failed current failure))
  | .overran => sent request (ended .overran)
  | .crashed => sent request (ended .crashed)

@[simp] theorem lone_requests (request : Outbound) (ending : Ending) :
    (lone request ending).requests = [request] := by
  cases ending <;> rfl

@[simp] theorem lone_ending (request : Outbound) (ending : Ending) :
    (lone request ending).ending = ending := by
  cases ending <;> rfl

/-- What an answer makes of an exchange: it is over, or it goes on with another
page and one redirect less. -/
inductive Turn (timeout left spent : Nat) (current : Url) (answer : Answer) : Prop
  | stop (ending : Ending) (hstop : stop? timeout left spent current answer = some ending)
  | redirect (reply : Reply) (next : Url) (remaining : Nat)
      (hleft : left = remaining + 1) (htime : spent + answer.delay ≤ timeout)
      (hresult : answer.result = .reply reply) (hnext : reply.next? current = some next)

theorem turn (timeout left spent : Nat) (current : Url) (answer : Answer) :
    Turn timeout left spent current answer := by
  cases hstop : stop? timeout left spent current answer with
  | some ending => exact .stop ending hstop
  | none =>
    unfold stop? at hstop
    split at hstop
    · contradiction
    · rename_i htime
      split at hstop
      · contradiction
      · contradiction
      · rename_i reply hresult
        rw [ite_eq_right_iff] at hstop
        obtain ⟨hleft, hnext⟩ := not_or.1 fun h => Option.some_ne_none _ (hstop h)
        obtain ⟨remaining, hremaining⟩ := Nat.exists_eq_succ_of_ne_zero hleft
        obtain ⟨next, hnext⟩ := Option.ne_none_iff_exists'.1 hnext
        exact .redirect reply next remaining hremaining (Nat.le_of_not_lt htime) hresult hnext

section Step

variable {network : Network σ} {timeout : Nat} {inbound : Inbound} {left spent : Nat}
variable {method : Text} {current : Url} {answer : Answer} {state after : σ}
variable (hstep : network (inbound.request method current) state = (answer, after))

include hstep

theorem follow_of_stop {ending : Ending}
    (hstop : stop? timeout left spent current answer = some ending) :
    follow network timeout inbound left spent method current state =
      (lone (inbound.request method current) ending, after) := by
  rw [follow, hstep]
  unfold stop? at hstop
  by_cases htime : timeout < spent + answer.delay
  · simp only [if_pos htime, Option.some.injEq] at hstop ⊢
    subst hstop
    rfl
  · simp only [if_neg htime] at hstop ⊢
    cases hresult : answer.result with
    | crash =>
      simp only [hresult, Option.some.injEq] at hstop ⊢
      subst hstop
      rfl
    | failure failure =>
      simp only [hresult, Option.some.injEq] at hstop ⊢
      subst hstop
      rfl
    | reply reply =>
      simp only [hresult] at hstop ⊢
      obtain ⟨hlast, hending⟩ := Option.ite_none_right_eq_some.1 hstop
      cases hending
      rcases hlast with rfl | hnone
      · rfl
      · simp only [hnone, lone]

theorem follow_of_redirect {reply : Reply} {next : Url} (htime : spent + answer.delay ≤ timeout)
    (hresult : answer.result = .reply reply) (hnext : reply.next? current = some next) :
    follow network timeout inbound (left + 1) spent method current state =
      let rest := follow network timeout inbound left (spent + answer.delay)
        (reply.nextMethod method) next after
      (replied (inbound.request method current) reply rest.1, rest.2) := by
  rw [follow, hstep]
  simp only [if_neg (Nat.not_lt.2 htime), hresult, hnext]

end Step

/-- Induction along an exchange: a turn ends it, or leads to the next page with one redirect
less. -/
@[elab_as_elim]
theorem follow_induction (network : Network σ) (timeout : Nat) (inbound : Inbound)
    {motive : Nat → Nat → Text → Url → σ → Prop}
    (stop : ∀ {left spent method current state answer after ending},
      network (inbound.request method current) state = (answer, after) →
      stop? timeout left spent current answer = some ending →
      motive left spent method current state)
    (redirect : ∀ {left spent method current state answer after reply next},
      network (inbound.request method current) state = (answer, after) →
      spent + answer.delay ≤ timeout → answer.result = .reply reply →
      reply.next? current = some next →
      motive left (spent + answer.delay) (reply.nextMethod method) next after →
      motive (left + 1) spent method current state)
    (left spent : Nat) (method : Text) (current : Url) (state : σ) :
    motive left spent method current state := by
  -- The induction is on the redirects that are left: every other turn ends the exchange.
  induction left using Nat.strongRecOn generalizing spent method current state with
  | ind left ih =>
    obtain ⟨answer, after, hstep⟩ :
        ∃ answer after, network (inbound.request method current) state = (answer, after) :=
      ⟨_, _, rfl⟩
    cases turn timeout left spent current answer with
    | stop ending hstop => exact stop hstep hstop
    | redirect reply next remaining hleft htime hresult hnext =>
      subst hleft
      exact redirect hstep htime hresult hnext (ih remaining (Nat.lt_succ_self _) ..)

variable (network : Network σ) (timeout : Nat) (inbound : Inbound)

/-- The requests and answers of an exchange from a page on. -/
def transcript (left spent : Nat) (method : Text) (current : Url) (state : σ) : Transcript :=
  (follow network.logged timeout inbound left spent method current (state, [])).2.2

/-- An exchange adds its own requests to a record, which changes nothing else
about it. -/
theorem exists_added (left spent : Nat) (method : Text) (current : Url) (state : σ) :
    ∃ added : Transcript,
      (follow network timeout inbound left spent method current state).1.requests =
        added.map (·.1) ∧
      ∀ earlier,
        follow network.logged timeout inbound left spent method current (state, earlier) =
          added.adding earlier
            (follow network timeout inbound left spent method current state) := by
  induction left, spent, method, current, state
    using follow_induction network timeout inbound with
  | @stop left spent method current state answer after ending hstep hstop =>
    refine ⟨[(inbound.request method current, answer)], ?_, fun earlier => ?_⟩
    · rw [follow_of_stop hstep hstop, lone_requests]
      rfl
    · rw [follow_of_stop (Network.logged_apply hstep earlier) hstop, follow_of_stop hstep hstop]
      rfl
  | @redirect left spent method current state answer after reply next hstep htime hresult hnext ih =>
    obtain ⟨added, hrequests, hadded⟩ := ih
    refine ⟨(inbound.request method current, answer) :: added, ?_, fun earlier => ?_⟩
    · rw [follow_of_redirect hstep htime hresult hnext]
      exact congrArg _ hrequests
    · rw [follow_of_redirect (Network.logged_apply hstep earlier) htime hresult hnext,
        follow_of_redirect hstep htime hresult hnext, hadded]
      simp [Transcript.adding]

variable {network timeout inbound} {left spent : Nat} {method : Text} {current : Url} {state : σ}

/-- A record changes nothing about an exchange. -/
theorem follow_logged (earlier : Transcript) :
    follow network.logged timeout inbound left spent method current (state, earlier) =
      (transcript network timeout inbound left spent method current state).adding earlier
        (follow network timeout inbound left spent method current state) := by
  obtain ⟨added, -, hadded⟩ :=
    exists_added network timeout inbound left spent method current state
  rw [transcript, hadded, hadded]
  rfl

theorem follow_requests :
    (follow network timeout inbound left spent method current state).1.requests =
      (transcript network timeout inbound left spent method current state).map (·.1) := by
  obtain ⟨added, hrequests, hadded⟩ :=
    exists_added network timeout inbound left spent method current state
  rw [transcript, hadded, hrequests]
  rfl

section Step

variable {answer : Answer} {after : σ}
variable (hstep : network (inbound.request method current) state = (answer, after))

include hstep

theorem transcript_of_stop {ending : Ending}
    (hstop : stop? timeout left spent current answer = some ending) :
    transcript network timeout inbound left spent method current state =
      [(inbound.request method current, answer)] := by
  rw [transcript, follow_of_stop (Network.logged_apply hstep []) hstop]
  rfl

theorem transcript_of_redirect {reply : Reply} {next : Url}
    (htime : spent + answer.delay ≤ timeout) (hresult : answer.result = .reply reply)
    (hnext : reply.next? current = some next) :
    transcript network timeout inbound (left + 1) spent method current state =
      (inbound.request method current, answer) ::
        transcript network timeout inbound left (spent + answer.delay) (reply.nextMethod method)
          next after := by
  rw [transcript, follow_of_redirect (Network.logged_apply hstep []) htime hresult hnext,
    follow_logged]
  rfl

end Step

variable (network timeout inbound left spent method current state) in
/-- An exchange starts with the request for its first page. -/
theorem exists_transcript_eq_cons :
    ∃ answer rest, transcript network timeout inbound left spent method current state =
      (inbound.request method current, answer) :: rest := by
  obtain ⟨answer, after, hstep⟩ :
      ∃ answer after, network (inbound.request method current) state = (answer, after) :=
    ⟨_, _, rfl⟩
  cases turn timeout left spent current answer with
  | stop ending hstop => exact ⟨answer, [], transcript_of_stop hstep hstop⟩
  | redirect reply next remaining hleft htime hresult hnext =>
    subst hleft
    exact ⟨answer, _, transcript_of_redirect hstep htime hresult hnext⟩

end Exchange

namespace Inbound

variable (inbound : Inbound) (network : Network σ) (limits : BackendLimits) (target : Text)

/-- The requests and answers for a request that is forwarded. -/
def transcript (state : σ) : Transcript :=
  match Url.parse target with
  | .error _ => []
  | .ok url =>
    Exchange.transcript network limits.timeout.millis inbound limits.maxRedirects 0
      inbound.method url state

variable {inbound network limits target} in
theorem forward_of_error {error : UrlError} (h : Url.parse target = .error error) (state : σ) :
    inbound.forward network limits target state =
      ({ response := some (Failure.backend target (.invalidUrl error.message)).response,
         measurements := [] }, state) := by
  rw [forward, h]

variable {inbound network limits target} in
theorem forward_of_ok {url : Url} (h : Url.parse target = .ok url) (state : σ) :
    inbound.forward network limits target state =
      let done := Exchange.run network limits inbound url state
      ({ response := done.1.response? limits inbound.visit url,
         measurements := done.1.measurements }, done.2) := by
  rw [forward, h]

variable {target} in
/-- A request that is forwarded to an address asks for the page there first. -/
theorem exists_transcript_eq_cons {url : Url} (h : Url.parse target = .ok url) (state : σ) :
    ∃ answer rest, inbound.transcript network limits target state =
      (inbound.request inbound.method url, answer) :: rest := by
  rw [transcript, h]
  exact Exchange.exists_transcript_eq_cons _ _ _ _ _ _ _ _

/-- A record changes nothing about a forwarded request. -/
theorem forward_logged (state : σ) (earlier : Transcript) :
    inbound.forward network.logged limits target (state, earlier) =
      (inbound.transcript network limits target state).adding earlier
        (inbound.forward network limits target state) := by
  cases hurl : Url.parse target with
  | error error =>
    rw [forward_of_error hurl, forward_of_error hurl, transcript, hurl]
    simp [Transcript.adding]
  | ok url =>
    rw [forward_of_ok hurl, forward_of_ok hurl, transcript, hurl]
    simp only [Exchange.run, Exchange.follow_logged, Transcript.adding]

end Inbound

end RuleGateway
