import RuleGateway.Proofs.Backend.Deadline
import RuleGateway.Proofs.Gateway.Course

/-!
# A deadline for each candidate

The candidates of a request are forwarded to one after the other, each from the state in
which the fetches before it left the network. How long these took makes no difference: each
candidate has the whole deadline for its own course. The main statement says so for all
requests, next to what the deadline does to each request that is forwarded.
-/

namespace RuleGateway

variable {σ : Type}

namespace Network

/-- The state of a network after some fetches. -/
def after (network : Network σ) (made : Transcript) (state : σ) : σ :=
  made.foldl (fun state sent => (network sent.1 state).2) state

variable (network : Network σ)

@[simp] theorem after_nil (state : σ) : network.after [] state = state := rfl

theorem after_append (made more : Transcript) (state : σ) :
    network.after (made ++ more) state = network.after more (network.after made state) :=
  List.foldl_append

theorem after_cons {request : Outbound} {answer : Answer} {state next : σ}
    (hstep : network request state = (answer, next)) (made : Transcript) :
    network.after ((request, answer) :: made) state = network.after made next := by
  rw [after, List.foldl_cons, hstep, after]

end Network

/-- An exchange leaves the network as its fetches do. -/
theorem Exchange.follow_after (network : Network σ) (timeout : Nat) (inbound : Inbound)
    (left spent : Nat) (method : Text) (current : Url) (state : σ) :
    (follow network timeout inbound left spent method current state).2 =
      network.after (transcript network timeout inbound left spent method current state)
        state := by
  induction left, spent, method, current, state
    using follow_induction network timeout inbound with
  | stop hstep hstop =>
    rw [transcript_of_stop hstep hstop, follow_of_stop hstep hstop, Network.after_cons _ hstep,
      Network.after_nil]
  | redirect hstep htime hresult hnext ih =>
    rw [transcript_of_redirect hstep htime hresult hnext,
      follow_of_redirect hstep htime hresult hnext, Network.after_cons _ hstep, ← ih]

theorem Inbound.forward_after (inbound : Inbound) (network : Network σ) (limits : BackendLimits)
    (target : Text) (state : σ) :
    (inbound.forward network limits target state).2 =
      network.after (inbound.transcript network limits target state) state := by
  cases hurl : Url.parse target with
  | error error => rw [forward_of_error hurl, transcript, hurl, Network.after_nil]
  | ok url =>
    rw [forward_of_ok hurl, transcript, hurl]
    exact Exchange.follow_after ..

namespace Gateway

/-- A candidate is forwarded to with the whole deadline, from the state in which the network
is: the fetches and the response are what keeping the deadline gives. A rule without proxy
makes no fetch. -/
inductive Anew (gateway : Gateway) (network : Network σ) (inbound : Inbound) (state : σ)
    (attempt : Attempt) : Prop
  | redirected (hkind : attempt.matcher.rule.kind ≠ .proxy) (hforwarded : attempt.forwarded = none)
      (htranscript : attempt.transcript = [])
  | forwarded (hkind : attempt.matcher.rule.kind = .proxy) {result : Forwarded}
      (hforwarded : attempt.forwarded = some result)
      (hresult : result =
        ((under attempt.matcher inbound).forward network gateway.backend attempt.target state).1)
      (hkeeps : KeepsDeadline gateway.backend.timeout
        ((under attempt.matcher inbound).course network gateway.backend attempt.target state)
        attempt.transcript result.response)

variable (gateway : Gateway) (network : Network σ) (inbound : Inbound)

/-- Each attempt starts anew where the ones before it left the network. -/
theorem anew_of_attempts {candidates : List (Matcher × Text)} {state : σ} {k : Nat}
    {attempt : Attempt}
    (h : (gateway.attempts network inbound candidates state)[k]? = some attempt) :
    Anew gateway network inbound
      (network.after (((gateway.attempts network inbound candidates state).take k).flatMap
        (·.transcript)) state) attempt := by
  induction candidates generalizing state k with
  | nil => cases h
  | cons candidate rest ih =>
    obtain ⟨matcher, target⟩ := candidate
    by_cases hkind : matcher.rule.kind = .proxy
    · rw [attempts_of_proxy hkind rfl] at h ⊢
      cases k with
      | zero =>
        cases h
        exact .forwarded hkind rfl rfl ((under matcher inbound).forward_keeps ..)
      | succ k =>
        -- Its fetches leave the network where the next attempts start.
        rw [List.take_succ_cons, List.flatMap_cons, Network.after_append,
          ← Inbound.forward_after]
        exact ih h
    · rw [attempts_of_redirect hkind] at h ⊢
      cases k with
      | zero =>
        cases h
        exact .redirected hkind rfl rfl
      | succ k => exact ih h

variable {gateway inbound}

/-- With a proxy rule among the candidates, they are tried with the request that was read. -/
theorem inbound_of_plan {request : Request} {loaded : Loaded} {path : Text}
    {candidates : List (Matcher × Text)}
    (h : gateway.plan request loaded = .dispatch path inbound candidates)
    (hproxy : candidates.any (·.1.rule.kind = .proxy)) : Gateway.inbound request = .ok inbound := by
  cases hrouter : gateway.routerOf? loaded with
  | none =>
    by_cases hcrash : loaded = .crashed
    · subst hcrash
      cases h
    · rw [plan_of_none hcrash hrouter] at h
      cases h
  | some router =>
    rw [plan_of_router hrouter, planWith] at h
    split at h
    · cases h
    split at h
    · cases h
    split at h
    · split at h
      · cases h
      · rename_i hinbound
        cases h
        exact hinbound
    · rename_i hnone
      cases h
      exact absurd hproxy hnone

end Gateway

namespace Visit

open Gateway

variable (gateway : Gateway) (visit : Visit σ)

/-- What deadlines are to a visit: the network is asked for the rule document and for the
attempts, and each attempt starts anew from the state in which those before it left the
network, with the request that was read if its rule is a proxy rule. -/
structure KeepsDeadlines : Prop where
  asked : gateway.handle visit.platform.logged visit.request
      { memory := visit.memory, platform := (visit.state, []) } =
    ((visit.handled gateway).1,
      { memory := (visit.handled gateway).2.memory,
        platform := ((visit.handled gateway).2.platform,
          visit.loadTranscript gateway ++ (visit.tries gateway).flatMap (·.transcript)) })
  anew : ∀ k attempt, (visit.tries gateway)[k]? = some attempt → ∃ inbound,
    (attempt.matcher.rule.kind = .proxy → Gateway.inbound visit.request = .ok inbound) ∧
      Anew gateway visit.platform.network inbound
        (visit.platform.network.after (((visit.tries gateway).take k).flatMap (·.transcript))
          (visit.loaded gateway).2.2) attempt

theorem keepsDeadlines : KeepsDeadlines gateway visit := by
  refine ⟨visit.handle_logged gateway, fun k attempt h => ?_⟩
  cases hpast : gateway.immediate? visit.request with
  | some answered =>
    rw [tries_of_immediate hpast] at h
    cases h
  | none =>
    rw [tries_of_past hpast] at h ⊢
    cases hplan : gateway.plan visit.request (visit.loaded gateway).1 with
    | give answered =>
      rw [hplan] at h
      cases h
    | dispatch path inbound candidates =>
      rw [hplan, Plan.attempts, Attempt.tried, List.getElem?_take] at h
      obtain ⟨hk, hattempt⟩ := Option.ite_none_right_eq_some.1 h
      refine ⟨inbound, fun hkind => inbound_of_plan hplan ?_, ?_⟩
      · have hmem : (attempt.matcher, attempt.target) ∈ candidates := by
          rw [← gateway.map_attempts visit.platform.network inbound candidates
            (visit.loaded gateway).2.2]
          exact List.mem_map_of_mem (List.mem_of_getElem? hattempt)
        exact List.any_eq_true.2 ⟨_, hmem, decide_eq_true hkind⟩
      · rw [Plan.attempts, Attempt.tried, List.take_take, Nat.min_eq_left (Nat.le_of_lt hk)]
        exact anew_of_attempts gateway visit.platform.network inbound hattempt

end Visit

/-- Every forwarded request keeps its deadline over all hops together, and so does each
candidate of a request, with the whole deadline for its own fetches. -/
theorem Gateway.deadlines_kept (gateway : Gateway) :
    (∀ (inbound : Inbound) (network : Network σ) (limits : BackendLimits) (target : Text)
        (state : σ),
      inbound.forward network.logged limits target (state, []) =
          (inbound.transcript network limits target state).adding []
            (inbound.forward network limits target state) ∧
        KeepsDeadline limits.timeout (inbound.course network limits target state)
          (inbound.transcript network limits target state)
          (inbound.forward network limits target state).1.response) ∧
      ∀ visit : Visit σ, visit.KeepsDeadlines gateway :=
  ⟨fun inbound network limits target state =>
    ⟨inbound.forward_logged network limits target state [],
      inbound.forward_keeps network limits target state⟩,
    fun visit => visit.keepsDeadlines gateway⟩

end RuleGateway
