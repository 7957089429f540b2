import RuleGateway.Proofs.Backend.Delivery
import RuleGateway.Proofs.Backend.Transcript

/-!
# One deadline for all hops

If there were no deadline, a forwarded request would take a course that depends on the
replies alone. The deadline cuts this course off: a fetch is made if those before it take no
longer than the deadline together, and the gateway answers for itself that the time is up
just if all fetches of the course take longer. The main statement is that every forwarded
request keeps its deadline so.
-/

namespace RuleGateway

variable {σ : Type}

namespace Transcript

/-- How long the fetches take together. -/
def delay : Transcript → Nat
  | [] => 0
  | sent :: rest => sent.2.delay + delay rest

@[simp] theorem delay_nil : delay [] = 0 := rfl

@[simp] theorem delay_cons (sent : Outbound × Answer) (rest : Transcript) :
    delay (sent :: rest) = sent.2.delay + delay rest := rfl

theorem delay_append (front back : Transcript) :
    delay (front ++ back) = front.delay + back.delay := by
  induction front with
  | nil => rw [List.nil_append, delay_nil, Nat.zero_add]
  | cons sent front ih => rw [List.cons_append, delay_cons, delay_cons, ih, Nat.add_assoc]

theorem delay_le_of_isPrefix {part whole : Transcript} (h : part <+: whole) :
    part.delay ≤ whole.delay := by
  obtain ⟨rest, rfl⟩ := h
  rw [delay_append]
  exact Nat.le_add_right ..

/-- What is made of a course that is cut off after a time: a fetch is made if those before
it take no longer. -/
structure IsCutOff (time : Nat) (course made : Transcript) : Prop where
  starts : made <+: course
  made_iff : ∀ k < course.length, k < made.length ↔ delay (course.take k) ≤ time

namespace IsCutOff

variable {time : Nat} {course made : Transcript} {sent : Outbound × Answer}

/-- The course is over with its first fetch, or this fetch alone takes too long. -/
theorem single (h : course = [] ∨ time < sent.2.delay) : IsCutOff time (sent :: course) [sent] := by
  refine ⟨⟨course, rfl⟩, fun k hk => ?_⟩
  cases k with
  | zero => simp
  | succ k =>
    rcases h with rfl | hlate
    · simp at hk
    · simp only [List.length_singleton, List.take_succ_cons, delay_cons]
      omega

/-- A fetch that is in time leaves what remains of it to the others. -/
theorem cons (h : IsCutOff (time - sent.2.delay) course made) (htime : sent.2.delay ≤ time) :
    IsCutOff time (sent :: course) (sent :: made) := by
  refine ⟨(List.prefix_cons_inj sent).2 h.starts, fun k hk => ?_⟩
  cases k with
  | zero => simp
  | succ k =>
    have hrest := h.made_iff k (Nat.lt_of_succ_lt_succ hk)
    simp only [List.length_cons, List.take_succ_cons, delay_cons]
    omega

/-- No fetch is made after one with which the time is up. -/
theorem length_le (h : IsCutOff time course made) {k : Nat}
    (hlate : time < delay (course.take (k + 1))) : made.length ≤ k + 1 := by
  by_cases hk : k + 1 < course.length
  · have hnot : ¬ k + 1 < made.length := fun hmade =>
      Nat.not_lt.2 ((h.made_iff _ hk).1 hmade) hlate
    exact Nat.le_of_not_lt hnot
  · exact Nat.le_trans h.starts.length_le (Nat.le_of_not_lt hk)

/-- Nothing is cut off from a course that is in time. -/
theorem eq_of_le (h : IsCutOff time course made) (htime : course.delay ≤ time) :
    made = course := by
  refine h.starts.eq_of_length_le (Nat.le_of_not_lt fun hshort => ?_)
  -- All fetches before the first one that is not made are in time, so it would be made.
  have hbefore : delay (course.take made.length) ≤ time :=
    Nat.le_trans (delay_le_of_isPrefix (List.take_prefix ..)) htime
  exact Nat.lt_irrefl _ ((h.made_iff _ hshort).2 hbefore)

end IsCutOff

end Transcript

namespace Exchange

/-- The requests and answers of an exchange from a page on that has no deadline. -/
def course (network : Network σ) (inbound : Inbound) : Nat → Text → Url → σ → Transcript
  | left, method, current, state =>
    let request := inbound.request method current
    let (answer, after) := network request state
    match answer.result with
    | .reply reply =>
      match left, reply.next? current with
      | left + 1, some next =>
        (request, answer) :: course network inbound left (reply.nextMethod method) next after
      | _, _ => [(request, answer)]
    | _ => [(request, answer)]

section Step

variable {network : Network σ} {timeout : Nat} {inbound : Inbound} {left spent : Nat}
variable {method : Text} {current : Url} {answer : Answer} {state after : σ}
variable (hstep : network (inbound.request method current) state = (answer, after))

include hstep

theorem course_of_redirect {reply : Reply} {next : Url} (hresult : answer.result = .reply reply)
    (hnext : reply.next? current = some next) :
    course network inbound (left + 1) method current state =
      (inbound.request method current, answer) ::
        course network inbound left (reply.nextMethod method) next after := by
  rw [course, hstep]
  simp only [hresult, hnext]

theorem course_of_last
    (hlast : ∀ reply, answer.result = .reply reply → left = 0 ∨ reply.next? current = none) :
    course network inbound left method current state =
      [(inbound.request method current, answer)] := by
  rw [course, hstep]
  cases hresult : answer.result with
  | crash => simp only [hresult]
  | failure failure => simp only [hresult]
  | reply reply =>
    simp only [hresult]
    rcases hlast reply hresult with rfl | hnone
    · rfl
    · simp only [hnone]

/-- A course starts with the request for its first page. -/
theorem exists_course_eq_cons :
    ∃ rest, course network inbound left method current state =
      (inbound.request method current, answer) :: rest := by
  by_cases hlast : ∀ reply, answer.result = .reply reply → left = 0 ∨ reply.next? current = none
  · exact ⟨[], course_of_last hstep hlast⟩
  · simp only [Classical.not_forall, not_or] at hlast
    obtain ⟨reply, hresult, hleft, hnext⟩ := hlast
    obtain ⟨left, rfl⟩ := Nat.exists_eq_succ_of_ne_zero hleft
    obtain ⟨next, hnext⟩ := Option.ne_none_iff_exists'.1 hnext
    exact ⟨_, course_of_redirect hstep hresult hnext⟩

end Step

/-- An exchange stops because its time is up, or because its course does. -/
theorem stop?_cases {timeout left spent : Nat} {current : Url} {answer : Answer} {ending : Ending}
    (h : stop? timeout left spent current answer = some ending) :
    timeout < spent + answer.delay ∧ ending = .overran ∨
      spent + answer.delay ≤ timeout ∧ ending ≠ .overran ∧
        ∀ reply, answer.result = .reply reply → left = 0 ∨ reply.next? current = none := by
  unfold stop? at h
  by_cases htime : timeout < spent + answer.delay
  · rw [if_pos htime] at h
    cases h
    exact .inl ⟨htime, rfl⟩
  · rw [if_neg htime] at h
    refine .inr ⟨Nat.le_of_not_lt htime, ?_⟩
    cases hresult : answer.result with
    | crash =>
      rw [hresult] at h
      cases h
      exact ⟨nofun, nofun⟩
    | failure failure =>
      rw [hresult] at h
      cases h
      exact ⟨nofun, nofun⟩
    | reply reply =>
      simp only [hresult] at h
      obtain ⟨hlast, hending⟩ := Option.ite_none_right_eq_some.1 h
      cases hending
      refine ⟨nofun, fun other hother => ?_⟩
      cases hother
      exact hlast

/-- An exchange is its course, cut off when the time that is left for it is up, and it ends so
just if the course takes longer. -/
theorem follow_isCutOff (network : Network σ) (inbound : Inbound) {timeout spent : Nat}
    (hspent : spent ≤ timeout) (left : Nat) (method : Text) (current : Url) (state : σ) :
    Transcript.IsCutOff (timeout - spent) (course network inbound left method current state)
        (transcript network timeout inbound left spent method current state) ∧
      ((follow network timeout inbound left spent method current state).1.ending = .overran ↔
        timeout - spent < (course network inbound left method current state).delay) := by
  -- The time that is left goes down with every turn.
  induction left, spent, method, current, state
    using follow_induction network timeout inbound with
  | @stop left spent method current state answer after ending hstep hstop =>
    rw [transcript_of_stop hstep hstop, follow_of_stop hstep hstop, lone_ending]
    rcases stop?_cases hstop with ⟨htime, rfl⟩ | ⟨htime, hending, hlast⟩
    · obtain ⟨rest, hcourse⟩ : ∃ rest, course network inbound left method current state =
          (inbound.request method current, answer) :: rest := exists_course_eq_cons hstep
      rw [hcourse, Transcript.delay_cons]
      have hlate : timeout - spent < answer.delay := by omega
      exact ⟨.single (.inr hlate), iff_of_true rfl (Nat.lt_add_right _ hlate)⟩
    · rw [course_of_last hstep hlast, Transcript.delay_cons, Transcript.delay_nil]
      have hintime : ¬ timeout - spent < answer.delay + 0 := by omega
      exact ⟨.single (.inl rfl), iff_of_false hending hintime⟩
  | @redirect left spent method current state answer after reply next hstep htime hresult hnext ih =>
    obtain ⟨hmade, hover⟩ := ih htime
    rw [transcript_of_redirect hstep htime hresult hnext,
      follow_of_redirect hstep htime hresult hnext, course_of_redirect hstep hresult hnext,
      Transcript.delay_cons]
    rw [← Nat.sub_sub] at hmade hover
    have hdelay : answer.delay ≤ timeout - spent := by omega
    refine ⟨hmade.cons hdelay, hover.trans ?_⟩
    dsimp only
    omega

/-- What the gateway makes up itself when the time is up, no backend can reply: its replies
are marked. -/
theorem response?_eq_exhausted_iff {exchange : Exchange} {limits : BackendLimits}
    {visit : Location.Visit} {target : Url} :
    exchange.response? limits visit target = some (Failure.exhausted limits.timeout).response ↔
      exchange.ending = .overran := by
  rw [response?]
  cases exchange.ending with
  | overran => exact iff_of_true rfl rfl
  | crashed => exact iff_of_false nofun nofun
  | failed current failure =>
    refine iff_of_false (fun h => ?_) nofun
    cases congrArg Response.status (Option.some.inj h)
  | answered current reply =>
    refine iff_of_false (fun h => ?_) nofun
    have hmark := Delivery.valuesOf_response_status visit current target exchange.followed reply
    rw [Option.some.inj h] at hmark
    cases hmark

end Exchange

/-- What it is to keep a deadline, for the fetches that are made of a course and the
response: the fetches are a start of the course, and they go on as long as the time is not up.
If the fetches up to some hop take longer than the deadline together, none is made after them,
and the gateway answers for itself that the time is up. If the whole course takes no longer,
it is made and the gateway does not answer so. -/
structure KeepsDeadline (deadline : Duration) (course made : Transcript)
    (response? : Option Response) : Prop where
  starts : made <+: course
  made_iff : ∀ k < course.length,
    k < made.length ↔ Transcript.delay (course.take k) ≤ deadline.millis
  exceeded : ∀ k < course.length, deadline.millis < Transcript.delay (course.take (k + 1)) →
    response? = some (Failure.exhausted deadline).response ∧ made.length ≤ k + 1
  met : course.delay ≤ deadline.millis →
    made = course ∧ response? ≠ some (Failure.exhausted deadline).response
  exhausted_iff : response? = some (Failure.exhausted deadline).response ↔
    deadline.millis < course.delay

theorem Transcript.IsCutOff.keepsDeadline {deadline : Duration} {course made : Transcript}
    {response? : Option Response} (h : IsCutOff deadline.millis course made)
    (hover : response? = some (Failure.exhausted deadline).response ↔
      deadline.millis < course.delay) :
    KeepsDeadline deadline course made response? := by
  refine { starts := h.starts, made_iff := h.made_iff, exceeded := ?_, met := ?_,
           exhausted_iff := hover }
  · intro k hk hlate
    have hwhole : Transcript.delay (course.take (k + 1)) ≤ course.delay :=
      Transcript.delay_le_of_isPrefix (List.take_prefix ..)
    exact ⟨hover.2 (Nat.lt_of_lt_of_le hlate hwhole), h.length_le hlate⟩
  · intro htime
    exact ⟨h.eq_of_le htime, fun hown => Nat.not_lt.2 htime (hover.1 hown)⟩

namespace Inbound

variable (inbound : Inbound) (network : Network σ) (limits : BackendLimits) (target : Text)

/-- The requests and answers for a request that is forwarded without a deadline. -/
def course (state : σ) : Transcript :=
  match Url.parse target with
  | .error _ => []
  | .ok url => Exchange.course network inbound limits.maxRedirects inbound.method url state

/-- A forwarded request keeps the deadline, whatever the network answers and when. -/
theorem forward_keeps (state : σ) :
    KeepsDeadline limits.timeout (inbound.course network limits target state)
      (inbound.transcript network limits target state)
      (inbound.forward network limits target state).1.response := by
  cases hurl : Url.parse target with
  | error error =>
    rw [forward_of_error hurl, course, transcript, hurl]
    have hmade : Transcript.IsCutOff limits.timeout.millis [] [] :=
      ⟨List.prefix_rfl, fun k hk => absurd hk (Nat.not_lt_zero k)⟩
    refine hmade.keepsDeadline (iff_of_false (fun h => ?_) (Nat.not_lt_zero _))
    cases congrArg Response.status (Option.some.inj h)
  | ok url =>
    rw [forward_of_ok hurl, course, transcript, hurl]
    obtain ⟨hmade, hover⟩ := Exchange.follow_isCutOff network inbound
      (Nat.zero_le limits.timeout.millis) limits.maxRedirects inbound.method url state
    exact hmade.keepsDeadline (Exchange.response?_eq_exhausted_iff.trans hover)

end Inbound

end RuleGateway
