import RuleGateway.Proofs.Backend.Chain

/-!
# Replies that are counted

What is recorded for a request that is forwarded depends on its transcript alone: each
reply that came in time is counted with its status, and if the last fetch was answered
with one, the number of redirects that were followed is recorded too. In all other cases
the client gets nothing of a backend: there is no response, or one that the gateway makes
up itself.
-/

namespace RuleGateway

/-- The reply that a fetch ends with, if it ends with one. -/
def FetchResult.reply? : FetchResult → Option Reply
  | .reply found => some found
  | _ => none

/-- The reply that an exchange ends with, if it ends with one. -/
def Ending.reply? : Ending → Option Reply
  | .answered _ reply => some reply
  | _ => none

namespace Transcript

/-- How the fetches end that come in time. -/
def results (time : Nat) (transcript : Transcript) : List FetchResult :=
  inTime time (transcript.map (·.2))

/-- The replies that come in time. -/
def replies (time : Nat) (transcript : Transcript) : List Reply :=
  (transcript.results time).filterMap FetchResult.reply?

/-- The reply to the last fetch, if that is answered in time. -/
def lastReply? (time : Nat) (transcript : Transcript) : Option Reply :=
  (transcript.results time)[transcript.length - 1]?.bind FetchResult.reply?

/-- What is recorded: each reply, and how many redirects were followed to the last one. -/
def counted (time : Nat) (transcript : Transcript) : List Measurement :=
  (transcript.replies time).map (fun reply => .backendReply reply.status) ++
    (transcript.lastReply? time).toList.map fun _ => .redirectsFollowed (transcript.length - 1)

variable {time : Nat} {sent : Outbound × Answer}

theorem results_cons (h : sent.2.delay ≤ time) (rest : Transcript) :
    results time (sent :: rest) = sent.2.result :: rest.results (time - sent.2.delay) :=
  inTime_cons_of_le h _

theorem results_cons_of_late (h : ¬ sent.2.delay ≤ time) (rest : Transcript) :
    results time (sent :: rest) = [] :=
  if_neg h

theorem replies_singleton :
    replies time [sent] =
      (if sent.2.delay ≤ time then sent.2.result.reply? else none).toList := by
  rw [replies]
  by_cases h : sent.2.delay ≤ time
  · rw [results_cons h, if_pos h]
    cases hreply : sent.2.result.reply? <;> simp [results, inTime, hreply]
  · rw [results_cons_of_late h, if_neg h]
    rfl

theorem lastReply?_singleton :
    lastReply? time [sent] = if sent.2.delay ≤ time then sent.2.result.reply? else none := by
  rw [lastReply?]
  by_cases h : sent.2.delay ≤ time
  · rw [results_cons h, if_pos h]
    rfl
  · rw [results_cons_of_late h, if_neg h]
    rfl

/-- A reply that is followed by another fetch is one more reply and not the last one. -/
theorem replies_cons {reply : Reply} (h : sent.2.delay ≤ time)
    (hresult : sent.2.result = .reply reply) (rest : Transcript) :
    replies time (sent :: rest) = reply :: rest.replies (time - sent.2.delay) := by
  rw [replies, results_cons h, hresult]
  rfl

theorem lastReply?_cons (h : sent.2.delay ≤ time) {rest : Transcript} (hrest : rest ≠ []) :
    lastReply? time (sent :: rest) = rest.lastReply? (time - sent.2.delay) := by
  obtain ⟨n, hn⟩ := Nat.exists_eq_succ_of_ne_zero (mt List.length_eq_zero_iff.1 hrest)
  simp only [lastReply?, results_cons h, List.length_cons, hn, Nat.succ_eq_add_one,
    Nat.add_sub_cancel, List.getElem?_cons_succ]

end Transcript

namespace Exchange

theorem lone_replies (request : Outbound) (ending : Ending) :
    (lone request ending).replies = ending.reply?.toList := by
  cases ending <;> rfl

variable {σ : Type} {timeout : Nat}

/-- An exchange that is over after a fetch ends with the reply to it, if that came in time. -/
theorem reply?_of_stop {left spent : Nat} {current : Url} {answer : Answer} {ending : Ending}
    (hspent : spent ≤ timeout) (hstop : stop? timeout left spent current answer = some ending) :
    ending.reply? =
      if answer.delay ≤ timeout - spent then answer.result.reply? else none := by
  unfold stop? at hstop
  by_cases htime : timeout < spent + answer.delay
  · rw [if_pos htime] at hstop
    cases hstop
    rw [if_neg (by omega)]
    rfl
  · rw [if_neg htime] at hstop
    rw [if_pos (by omega)]
    cases hresult : answer.result with
    | crash | failure =>
      rw [hresult] at hstop
      cases hstop
      rfl
    | reply reply =>
      simp only [hresult] at hstop
      cases (Option.ite_none_right_eq_some.1 hstop).2
      rfl

/-- The replies of an exchange and the one that it ends with are those of its transcript. -/
theorem follow_replies (network : Network σ) (inbound : Inbound) (left : Nat) {spent : Nat}
    (hspent : spent ≤ timeout) (method : Text) (current : Url) (state : σ) :
    let made := transcript network timeout inbound left spent method current state
    let exchange := (follow network timeout inbound left spent method current state).1
    exchange.replies = made.replies (timeout - spent) ∧
      exchange.ending.reply? = made.lastReply? (timeout - spent) := by
  induction left, spent, method, current, state
    using follow_induction network timeout inbound with
  | stop hstep hstop =>
    dsimp only
    rw [transcript_of_stop hstep hstop, follow_of_stop hstep hstop, lone_replies, lone_ending,
      reply?_of_stop hspent hstop, Transcript.replies_singleton, Transcript.lastReply?_singleton]
    exact ⟨rfl, rfl⟩
  | @redirect left spent method current state answer after reply next hstep htime hresult hnext ih =>
    obtain ⟨hreplies, hending⟩ := ih htime
    have hdelay : answer.delay ≤ timeout - spent := by omega
    have hrest : transcript network timeout inbound left (spent + answer.delay)
        (reply.nextMethod method) next after ≠ [] := by
      obtain ⟨first, rest, hcons⟩ := exists_transcript_eq_cons network timeout inbound left
        (spent + answer.delay) (reply.nextMethod method) next after
      rw [hcons]
      exact List.cons_ne_nil _ _
    dsimp only
    rw [transcript_of_redirect hstep htime hresult hnext,
      follow_of_redirect hstep htime hresult hnext, Transcript.replies_cons hdelay hresult,
      Transcript.lastReply?_cons hdelay hrest, Nat.sub_sub]
    exact ⟨congrArg _ hreplies, hending⟩

theorem measurements_eq (exchange : Exchange) :
    exchange.measurements =
      exchange.replies.map (fun reply => .backendReply reply.status) ++
        exchange.ending.reply?.toList.map fun _ => .redirectsFollowed exchange.followed := by
  rw [measurements]
  cases exchange.ending <;> rfl

end Exchange

/-- What the client gets, given the reply that a backend ended with: that reply, with the
report of its status, or without one either no response or a response for a failure. -/
def Forwarded.EndsWith (forwarded : Forwarded) : Option Reply → Prop
  | some reply => ∃ response, forwarded.response = some response ∧
      response.status = reply.status ∧
      response.headers.valuesOf "x-upstream-status" = [Utf8.encode (Text.ofNat reply.status)]
  | none => forwarded.response = none ∨
      ∃ failure : Failure, forwarded.response = some failure.response ∧
        (failure.status = 502 ∨ failure.status = 504)

namespace Inbound

variable {σ : Type} (inbound : Inbound) (network : Network σ) (limits : BackendLimits)
variable (target : Text) (state : σ)

/-- What is recorded for a request that is forwarded is counted in its transcript. -/
theorem forward_counted :
    (inbound.forward network limits target state).1.measurements =
      (inbound.transcript network limits target state).counted
        limits.timeout.millis := by
  cases hurl : Url.parse target with
  | error error =>
    rw [forward_of_error hurl, transcript, hurl]
    rfl
  | ok url =>
    obtain ⟨hreplies, hending⟩ := Exchange.follow_replies network inbound limits.maxRedirects
      (Nat.zero_le limits.timeout.millis) inbound.method url state
    rw [Nat.sub_zero] at hreplies hending
    rw [forward_of_ok hurl, transcript, hurl]
    simp only [Exchange.run, Exchange.measurements_eq, Exchange.followed, hreplies, hending,
      Exchange.follow_requests, List.length_map, Transcript.counted]

/-- A request that is forwarded ends with the reply to its last fetch. -/
theorem forward_endsWith :
    (inbound.forward network limits target state).1.EndsWith
      ((inbound.transcript network limits target state).lastReply?
        limits.timeout.millis) := by
  cases hurl : Url.parse target with
  | error error =>
    rw [forward_of_error hurl, transcript, hurl]
    exact .inr ⟨_, rfl, .inl rfl⟩
  | ok url =>
    have hending := (Exchange.follow_replies network inbound limits.maxRedirects
      (Nat.zero_le limits.timeout.millis) inbound.method url state).2
    rw [Nat.sub_zero] at hending
    rw [forward_of_ok hurl, transcript, hurl]
    dsimp only
    rw [← hending]
    simp only [Exchange.run, Exchange.response?]
    cases (Exchange.follow network limits.timeout.millis inbound limits.maxRedirects 0
      inbound.method url state).1.ending with
    | answered current reply =>
      exact ⟨_, rfl, Delivery.response_status .., Delivery.valuesOf_response_status ..⟩
    | failed current failure => exact .inr ⟨_, rfl, .inl rfl⟩
    | overran => exact .inr ⟨_, rfl, .inr rfl⟩
    | crashed => exact .inl rfl

end Inbound

end RuleGateway
