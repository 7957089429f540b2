import RuleGateway.Proofs.Backend.Delivery
import RuleGateway.Proofs.Backend.Transcript

/-!
# Redirect chains

Forwarding a request is a chain of hops: pages that are asked for one after the
other, each with a method. `Chain` says how the chain continues and where it
stops in terms of the fetches that end in time, and `Inbound.Exchanged` adds
what is sent on each hop and what the client gets. The main statement is that
forwarding is such an exchange for every network.
-/

namespace RuleGateway

/-- A page that is asked for, and the method. -/
structure Hop where
  method : Text
  page : Url
  deriving DecidableEq, Repr

namespace Reply

/-- A reply leads from a page to another one: its status is that of a redirect,
and its first `Location` is readable and names the other page. -/
def LeadsTo (reply : Reply) (current next : Url) : Prop :=
  300 ≤ reply.status ∧ reply.status < 400 ∧
    ∃ location, reply.headers.text? "location" = some location ∧ current.join location = .ok next

theorem next?_eq_some_iff {reply : Reply} {current next : Url} :
    reply.next? current = some next ↔ reply.LeadsTo current next := by
  unfold next? isRedirect LeadsTo
  cases hlocation : reply.headers.text? "location" with
  | none => simp
  | some location =>
    cases hjoin : current.join location <;> simp [hjoin, Except.toOption, and_assoc]

theorem next?_eq_none_iff {reply : Reply} {current : Url} :
    reply.next? current = none ↔ ∀ next, ¬ reply.LeadsTo current next := by
  rw [Option.eq_none_iff_forall_ne_some]
  exact forall_congr' fun next => not_congr next?_eq_some_iff

/-- A reply leads to one page at most. -/
theorem LeadsTo.unique {reply : Reply} {current next other : Url}
    (h : reply.LeadsTo current next) (hother : reply.LeadsTo current other) : next = other :=
  Option.some.inj ((next?_eq_some_iff.2 h).symm.trans (next?_eq_some_iff.2 hother))

end Reply

namespace Hop

/-- The hop after a reply that leads to another page. -/
def toward (hop : Hop) (reply : Reply) (next : Url) : Hop :=
  { method :=
      if reply.status = 301 ∨ reply.status = 302 ∨ reply.status = 303 then Method.get
      else hop.method,
    page := next }

theorem toward_mk (method : Text) (page : Url) (reply : Reply) (next : Url) :
    toward { method, page } reply next = { method := reply.nextMethod method, page := next } := by
  have hrange : reply.status = 301 ∨ reply.status = 302 ∨ reply.status = 303 ↔
      301 ≤ reply.status ∧ reply.status ≤ 303 := by omega
  simp only [toward, Reply.nextMethod, hrange]

theorem toward_get {hop : Hop} (h : hop.method = Method.get) (reply : Reply) (next : Url) :
    (hop.toward reply next).method = Method.get := by
  simp [toward, h]

end Hop

/-- How the fetches end that take no longer than the given time together. -/
def inTime : Nat → List Answer → List FetchResult
  | _, [] => []
  | time, answer :: answers =>
    if answer.delay ≤ time then answer.result :: inTime (time - answer.delay) answers else []

theorem inTime_cons_of_le {time : Nat} {answer : Answer} (h : answer.delay ≤ time)
    (answers : List Answer) :
    inTime time (answer :: answers) = answer.result :: inTime (time - answer.delay) answers := by
  rw [inTime, if_pos h]

/-- What the hops of an exchange have to be, given how its fetches end in time
and how many redirects may be followed. -/
structure Chain (limit : Nat) (start : Hop) (hops : List Hop) (results : List FetchResult)
    (ending : Ending) : Prop where
  starts : hops.head? = some start
  bounded : hops.length ≤ limit + 1
  redirected : ∀ k hop reply next, hops[k]? = some hop → results[k]? = some (.reply reply) →
    k < limit → reply.LeadsTo hop.page next → hops[k + 1]? = some (hop.toward reply next)
  answered : ∀ k hop reply, hops[k]? = some hop → results[k]? = some (.reply reply) →
    (¬ ∃ next, k < limit ∧ reply.LeadsTo hop.page next) →
    hops.length = k + 1 ∧ ending = .answered hop.page reply
  failed : ∀ k hop failure, hops[k]? = some hop → results[k]? = some (.failure failure) →
    hops.length = k + 1 ∧ ending = .failed hop.page failure
  crashed : ∀ k, results[k]? = some .crash → hops.length = k + 1 ∧ ending = .crashed
  overran : results.length < hops.length → hops.length = results.length + 1 ∧ ending = .overran
  stays_get : hops.Pairwise fun a b => a.method = Method.get → b.method = Method.get

namespace Chain

variable {limit : Nat} {hop : Hop}

/-- A chain of one hop, whose fetch ends with the given result if it is in
time. -/
theorem single {result? : Option FetchResult} {ending : Ending}
    (hlate : result? = none → ending = .overran)
    (hcrash : result? = some .crash → ending = .crashed)
    (hfailure : ∀ failure, result? = some (.failure failure) → ending = .failed hop.page failure)
    (hreply : ∀ reply, result? = some (.reply reply) →
      ending = .answered hop.page reply ∧ ∀ next, 0 < limit → ¬ reply.LeadsTo hop.page next) :
    Chain limit hop [hop] result?.toList ending := by
  have honly {k : Nat} {other : Hop} (h : [hop][k]? = some other) : k = 0 ∧ other = hop := by
    rw [List.getElem?_singleton, Option.ite_none_right_eq_some] at h
    exact ⟨h.1, (Option.some.inj h.2).symm⟩
  have hfirst {k : Nat} {result : FetchResult} (h : result?.toList[k]? = some result) :
      k = 0 ∧ result? = some result := by
    cases result? with
    | none => simp at h
    | some only =>
      rw [Option.toList_some, List.getElem?_singleton, Option.ite_none_right_eq_some] at h
      exact h
  constructor
  case starts => rfl
  case bounded => exact Nat.le_add_left 1 limit
  case redirected =>
    intro k other reply next hhop hresult hlimit hleads
    obtain ⟨rfl, rfl⟩ := honly hhop
    exact absurd hleads ((hreply reply (hfirst hresult).2).2 next hlimit)
  case answered =>
    intro k other reply hhop hresult _
    obtain ⟨rfl, rfl⟩ := honly hhop
    exact ⟨rfl, (hreply reply (hfirst hresult).2).1⟩
  case failed =>
    intro k other failure hhop hresult
    obtain ⟨rfl, rfl⟩ := honly hhop
    exact ⟨rfl, hfailure failure (hfirst hresult).2⟩
  case crashed =>
    intro k hresult
    obtain ⟨rfl, honly⟩ := hfirst hresult
    exact ⟨rfl, hcrash honly⟩
  case overran =>
    intro hshort
    cases result? with
    | none => exact ⟨rfl, hlate rfl⟩
    | some result => simp at hshort
  case stays_get => exact List.pairwise_singleton ..

/-- A chain may be entered one hop before, with one redirect more. -/
theorem cons {reply : Reply} {next : Url} {hops : List Hop} {results : List FetchResult}
    {ending : Ending} (h : Chain limit (hop.toward reply next) hops results ending)
    (hleads : reply.LeadsTo hop.page next) :
    Chain (limit + 1) hop (hop :: hops) (.reply reply :: results) ending := by
  constructor
  case starts => rfl
  case bounded => exact Nat.succ_le_succ h.bounded
  case redirected =>
    intro k other answer page hhop hresult hlimit hpage
    cases k with
    | zero =>
      cases hhop
      cases hresult
      cases hleads.unique hpage
      rw [List.getElem?_cons_succ, ← List.head?_eq_getElem?]
      exact h.starts
    | succ k =>
      have hlimit' : k < limit := Nat.lt_of_succ_lt_succ hlimit
      exact h.redirected k other answer page hhop hresult hlimit' hpage
  case answered =>
    intro k other answer hhop hresult hlast
    cases k with
    | zero =>
      cases hhop
      cases hresult
      exact absurd ⟨next, Nat.succ_pos limit, hleads⟩ hlast
    | succ k =>
      have hlast' : ¬ ∃ page, k < limit ∧ answer.LeadsTo other.page page := by
        rintro ⟨page, hlimit, hpage⟩
        exact hlast ⟨page, Nat.succ_lt_succ hlimit, hpage⟩
      obtain ⟨hlength, hending⟩ := h.answered k other answer hhop hresult hlast'
      exact ⟨congrArg Nat.succ hlength, hending⟩
  case failed =>
    intro k other failure hhop hresult
    cases k with
    | zero => cases hresult
    | succ k =>
      obtain ⟨hlength, hending⟩ := h.failed k other failure hhop hresult
      exact ⟨congrArg Nat.succ hlength, hending⟩
  case crashed =>
    intro k hresult
    cases k with
    | zero => cases hresult
    | succ k =>
      obtain ⟨hlength, hending⟩ := h.crashed k hresult
      exact ⟨congrArg Nat.succ hlength, hending⟩
  case overran =>
    intro hshort
    obtain ⟨hlength, hending⟩ := h.overran (Nat.lt_of_succ_lt_succ hshort)
    exact ⟨congrArg Nat.succ hlength, hending⟩
  case stays_get =>
    refine List.pairwise_cons.2 ⟨fun other hother hget => ?_, h.stays_get⟩
    have hfirst : (hop.toward reply next).method = Method.get := Hop.toward_get hget reply next
    cases hops with
    | nil => cases hother
    | cons first rest =>
      cases h.starts
      rcases List.mem_cons.1 hother with rfl | hrest
      · exact hfirst
      · exact List.rel_of_pairwise_cons h.stays_get hrest hfirst

variable {start : Hop} {hops : List Hop} {results : List FetchResult} {ending : Ending}

/-- Each hop decides whether there is another one, and which. -/
theorem getElem?_succ (h : Chain limit start hops results ending) {k : Nat}
    (hhop : hops[k]? = some hop) :
    hops[k + 1]? =
      match results[k]? with
      | some (.reply reply) =>
        if k < limit then (reply.next? hop.page).map (hop.toward reply) else none
      | _ => none := by
  have hk : k < hops.length := (List.getElem?_eq_some_iff.1 hhop).1
  have hend {n : Nat} (hn : hops.length = n + 1) (hkn : n ≤ k) : hops[k + 1]? = none :=
    List.getElem?_eq_none (by omega)
  cases hresult : results[k]? with
  | none =>
    have hshort : results.length ≤ k := List.getElem?_eq_none_iff.1 hresult
    exact hend (h.overran (Nat.lt_of_le_of_lt hshort hk)).1 hshort
  | some result =>
    cases result with
    | crash => exact hend (h.crashed k hresult).1 (Nat.le_refl k)
    | failure failure => exact hend (h.failed k hop failure hhop hresult).1 (Nat.le_refl k)
    | reply reply =>
      by_cases hleads : ∃ next, k < limit ∧ reply.LeadsTo hop.page next
      · obtain ⟨next, hlimit, hnext⟩ := hleads
        simp only [if_pos hlimit, Reply.next?_eq_some_iff.2 hnext, Option.map_some]
        exact h.redirected k hop reply next hhop hresult hlimit hnext
      · rw [hend (h.answered k hop reply hhop hresult hleads).1 (Nat.le_refl k)]
        by_cases hlimit : k < limit
        · have hnone : reply.next? hop.page = none :=
            Reply.next?_eq_none_iff.2 fun next hnext => hleads ⟨next, hlimit, hnext⟩
          simp only [if_pos hlimit, hnone, Option.map_none]
        · simp only [if_neg hlimit]

/-- The results leave no choice: there is one chain for them from a hop on. -/
theorem hops_unique {others : List Hop} {other : Ending} (h : Chain limit start hops results ending)
    (hother : Chain limit start others results other) : hops = others := by
  refine List.ext_getElem? fun k => ?_
  induction k with
  | zero => rw [← List.head?_eq_getElem?, ← List.head?_eq_getElem?, h.starts, hother.starts]
  | succ k ih =>
    cases hhop : hops[k]? with
    | none =>
      have hlength : hops.length ≤ k := List.getElem?_eq_none_iff.1 hhop
      have hothers : others.length ≤ k := List.getElem?_eq_none_iff.1 (ih ▸ hhop)
      rw [List.getElem?_eq_none (by omega), List.getElem?_eq_none (by omega)]
    | some hop => rw [h.getElem?_succ hhop, hother.getElem?_succ (ih ▸ hhop)]

end Chain

namespace Exchange

variable {σ : Type} {timeout : Nat}

/-- An exchange that stops with its first fetch is a chain of one hop. -/
theorem chain_of_stop {left spent : Nat} {hop : Hop} {answer : Answer} {ending : Ending}
    (hspent : spent ≤ timeout) (hstop : stop? timeout left spent hop.page answer = some ending) :
    Chain left hop [hop] (inTime (timeout - spent) [answer]) ending := by
  have hresults : inTime (timeout - spent) [answer] =
      (if timeout < spent + answer.delay then none else some answer.result).toList := by
    rw [inTime, inTime]
    by_cases htime : timeout < spent + answer.delay
    · rw [if_pos htime, if_neg (by omega)]
      rfl
    · rw [if_neg htime, if_pos (by omega)]
      rfl
  rw [hresults]
  unfold stop? at hstop
  by_cases htime : timeout < spent + answer.delay
  · rw [if_pos htime] at hstop ⊢
    cases hstop
    apply Chain.single <;> simp
  · rw [if_neg htime] at hstop ⊢
    cases hresult : answer.result with
    | crash =>
      rw [hresult] at hstop
      cases hstop
      apply Chain.single <;> simp
    | failure failure =>
      rw [hresult] at hstop
      cases hstop
      apply Chain.single <;> simp
    | reply reply =>
      simp only [hresult] at hstop
      obtain ⟨hlast, hending⟩ := Option.ite_none_right_eq_some.1 hstop
      cases hending
      refine Chain.single (by simp) (by simp) (by simp) fun other hother => ?_
      cases hother
      refine ⟨rfl, fun next hleft => ?_⟩
      rcases hlast with hzero | hnone
      · exact absurd hzero (Nat.ne_of_gt hleft)
      · exact Reply.next?_eq_none_iff.1 hnone next

/-- An exchange from a page on is a chain, and its requests are those for the
hops. -/
theorem follow_chain (network : Network σ) (inbound : Inbound) (left : Nat) {spent : Nat}
    (hspent : spent ≤ timeout) (hop : Hop) (state : σ) :
    ∃ hops,
      Chain left hop hops
        (inTime (timeout - spent)
          ((transcript network timeout inbound left spent hop.method hop.page state).map (·.2)))
        (follow network timeout inbound left spent hop.method hop.page state).1.ending ∧
      (transcript network timeout inbound left spent hop.method hop.page state).map (·.1) =
        hops.map fun hop => inbound.request hop.method hop.page := by
  obtain ⟨method, page⟩ := hop
  dsimp only
  induction left, spent, method, page, state
    using follow_induction network timeout inbound with
  | @stop left spent method page state answer after ending hstep hstop =>
    refine ⟨[{ method, page }], ?_, ?_⟩
    · rw [transcript_of_stop hstep hstop, follow_of_stop hstep hstop, lone_ending]
      exact chain_of_stop hspent hstop
    · rw [transcript_of_stop hstep hstop]
      rfl
  | @redirect left spent method page state answer after reply next hstep htime hresult hnext ih =>
    obtain ⟨hops, hchain, hrequests⟩ := ih htime
    have hdelay : answer.delay ≤ timeout - spent := by omega
    refine ⟨{ method, page } :: hops, ?_, ?_⟩
    · rw [transcript_of_redirect hstep htime hresult hnext,
        follow_of_redirect hstep htime hresult hnext, List.map_cons,
        inTime_cons_of_le hdelay, hresult, Nat.sub_sub]
      rw [← Hop.toward_mk] at hchain
      exact hchain.cons (Reply.next?_eq_some_iff.1 hnext)
    · rw [transcript_of_redirect hstep htime hresult hnext, List.map_cons, List.map_cons]
      exact congrArg _ hrequests

end Exchange

/-- What the client gets for an exchange of some number of fetches. -/
def Ending.Delivers (fetches : Nat) (response? : Option Response) : Ending → Prop
  | .answered _ reply =>
    ∃ response, response? = some response ∧ response.status = reply.status ∧
      response.headers.valuesOf "x-upstream-status" = [Utf8.encode (Text.ofNat reply.status)] ∧
      response.headers.valuesOf "x-proxy-redirects-followed" =
        [Utf8.encode (Text.ofNat (fetches - 1))]
  | .failed _ _ => ∃ response, response? = some response ∧ response.status = 502
  | .overran => ∃ response, response? = some response ∧ response.status = 504
  | .crashed => response? = none

theorem Exchange.delivers_response? (exchange : Exchange) (limits : BackendLimits)
    (visit : Location.Visit) (target : Url) :
    exchange.ending.Delivers exchange.requests.length
      (exchange.response? limits visit target) := by
  rw [Exchange.response?]
  cases exchange.ending with
  | answered current reply =>
    exact ⟨_, rfl, Delivery.response_status .., Delivery.valuesOf_response_status ..,
      Delivery.valuesOf_response_followed ..⟩
  | failed current failure => exact ⟨_, rfl, rfl⟩
  | overran => exact ⟨_, rfl, rfl⟩
  | crashed => rfl

namespace Inbound

/-- What it is to forward a request to a target over some hops: the fetches are
those of the hops, each with the body if its method has one, and the client gets
what the end of the chain says. -/
structure Exchanged (inbound : Inbound) (limits : BackendLimits) (target : Url) (hops : List Hop)
    (ending : Ending) (transcript : Transcript) (response? : Option Response) : Prop where
  chain : Chain limits.maxRedirects ⟨inbound.method, target⟩ hops
    (inTime limits.timeout.millis (transcript.map (·.2))) ending
  requests : transcript.map (·.1) = hops.map fun hop => inbound.request hop.method hop.page
  fetches_bounded : transcript.length ≤ limits.maxRedirects + 1
  carries_body : ∀ request ∈ transcript.map (·.1),
    (request.method ≠ "GET".toList ∧ request.method ≠ "HEAD".toList →
      request.body = inbound.body) ∧
    (request.method = "GET".toList ∨ request.method = "HEAD".toList → request.body = none)
  stays_get : (transcript.map (·.1.method)).Pairwise fun a b => a = "GET".toList → b = "GET".toList
  delivers : ending.Delivers transcript.length response?

theorem carriesBody_iff (method : Text) :
    Method.carriesBody method ↔ method ≠ "GET".toList ∧ method ≠ "HEAD".toList := by
  rw [Method.carriesBody, Bool.and_eq_true, bne_iff_ne, bne_iff_ne]
  exact Iff.rfl

theorem request_body (inbound : Inbound) (method : Text) (current : Url) :
    (method ≠ "GET".toList ∧ method ≠ "HEAD".toList →
      (inbound.request method current).body = inbound.body) ∧
    (method = "GET".toList ∨ method = "HEAD".toList →
      (inbound.request method current).body = none) := by
  rw [← carriesBody_iff]
  refine ⟨fun h => if_pos h, fun h => if_neg fun hcarries => ?_⟩
  obtain ⟨hget, hhead⟩ := (carriesBody_iff method).1 hcarries
  exact h.elim hget hhead

/-- Every request of a forwarded request is one for some hop. -/
theorem exists_hop_of_mem_transcript {σ : Type} {inbound : Inbound} {network : Network σ}
    {limits : BackendLimits} {target : Text} {state : σ} {sent : Outbound × Answer}
    (h : sent ∈ inbound.transcript network limits target state) :
    ∃ hop : Hop, sent.1 = inbound.request hop.method hop.page := by
  rw [transcript] at h
  cases hurl : Url.parse target with
  | error error => simp [hurl] at h
  | ok url =>
    rw [hurl] at h
    obtain ⟨hops, -, hrequests⟩ :=
      Exchange.follow_chain network inbound limits.maxRedirects
        (Nat.zero_le limits.timeout.millis) ⟨inbound.method, url⟩ state
    obtain ⟨hop, -, hhop⟩ := List.mem_map.1 (hrequests ▸ List.mem_map_of_mem h)
    exact ⟨hop, hhop.symm⟩

/-- Forwarding a request to a text is an exchange with the address that the text
is, and asks for nothing if it is none. -/
theorem forward_exchanged {σ : Type} (inbound : Inbound) (network : Network σ)
    (limits : BackendLimits) (target : Text) (state : σ) :
    ∃ transcript : Transcript,
      inbound.forward network.logged limits target (state, []) =
        transcript.adding [] (inbound.forward network limits target state) ∧
      match Url.parse target with
      | .error _ => transcript = [] ∧
          ∃ response, (inbound.forward network limits target state).1.response = some response ∧
            response.status = 502
      | .ok url => ∃ hops ending, inbound.Exchanged limits url hops ending transcript
          (inbound.forward network limits target state).1.response := by
  refine ⟨inbound.transcript network limits target state,
    inbound.forward_logged network limits target state [], ?_⟩
  cases hurl : Url.parse target with
  | error error =>
    rw [transcript, forward, hurl]
    exact ⟨rfl, _, rfl, rfl⟩
  | ok url =>
    obtain ⟨hops, hchain, hrequests⟩ :=
      Exchange.follow_chain network inbound limits.maxRedirects
        (Nat.zero_le limits.timeout.millis) ⟨inbound.method, url⟩ state
    rw [Nat.sub_zero] at hchain
    refine ⟨hops, (Exchange.run network limits inbound url state).1.ending, ?_⟩
    rw [transcript, forward, hurl]
    refine { chain := hchain, requests := hrequests, fetches_bounded := ?_, carries_body := ?_,
             stays_get := ?_, delivers := ?_ }
    · have hlength := congrArg List.length hrequests
      rw [List.length_map, List.length_map] at hlength
      exact hlength ▸ hchain.bounded
    · intro request hrequest
      obtain ⟨hop, -, rfl⟩ := List.mem_map.1 (hrequests ▸ hrequest)
      exact request_body inbound hop.method hop.page
    · have hmethods := congrArg (List.map Outbound.method) hrequests
      rw [List.map_map, List.map_map] at hmethods
      exact hmethods ▸ List.pairwise_map.2 hchain.stays_get
    · rw [← List.length_map, ← Exchange.follow_requests]
      exact Exchange.delivers_response? ..

end Inbound

end RuleGateway
