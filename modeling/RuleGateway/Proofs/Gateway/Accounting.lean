import Mathlib.Data.List.Basic
import RuleGateway.Proofs.Backend.Replies
import RuleGateway.Proofs.Gateway.Course

/-!
# What metrics add up to

Requests are recorded where they are answered, loads where the document is loaded, and
replies and redirects where requests are forwarded. Over a run each of the four metrics is
read off the visits: one sample for each request, one for each load that came to an end, one
for each reply of a backend that came in time, and one for each candidate whose last fetch
was answered. The main statement, `run_accounts`, holds for all runs, with any mixture of
crashes, failures and late answers.
-/

namespace RuleGateway

namespace Metric

/-- The samples of a metric among all that is recorded. -/
def samplesOf (metric : Metric) (measurements : List Measurement) : List Sample :=
  (measurements.flatMap Measurement.samples).filter (·.metric = metric)

variable (metric : Metric)

theorem samplesOf_append (first second : List Measurement) :
    metric.samplesOf (first ++ second) = metric.samplesOf first ++ metric.samplesOf second := by
  rw [samplesOf, List.flatMap_append, List.filter_append]
  rfl

theorem samplesOf_flatMap {α : Type} (items : List α) (f : α → List Measurement) :
    metric.samplesOf (items.flatMap f) = items.flatMap fun item => metric.samplesOf (f item) := by
  induction items with
  | nil => rfl
  | cons item items ih => rw [List.flatMap_cons, samplesOf_append, ih, List.flatMap_cons]

theorem samplesOf_replies (replies : List Reply) :
    metric.samplesOf (replies.map fun reply => .backendReply reply.status) =
      if metric = .backendRequests then
        replies.map fun reply => ⟨.backendRequests, [("status", Text.ofNat reply.status)], 1⟩
      else [] := by
  induction replies with
  | nil => cases metric <;> rfl
  | cons reply replies ih =>
    rw [List.map_cons, List.map_cons, ← List.singleton_append, samplesOf_append, ih]
    cases metric <;> rfl

theorem samplesOf_followed (last? : Option Reply) (count : Nat) :
    metric.samplesOf (last?.toList.map fun _ => .redirectsFollowed count) =
      if metric = .redirectsFollowed then
        last?.toList.map fun _ => ⟨.redirectsFollowed, [], count⟩
      else [] := by
  cases last? <;> cases metric <;> rfl

/-- A transcript gives samples for replies and for followed redirects, and no other ones. -/
theorem samplesOf_counted (time : Nat) (transcript : Transcript) :
    metric.samplesOf (transcript.counted time) =
      (if metric = .backendRequests then
        (transcript.replies time).map fun reply =>
          ⟨.backendRequests, [("status", Text.ofNat reply.status)], 1⟩
      else []) ++
      if metric = .redirectsFollowed then
        (transcript.lastReply? time).toList.map fun _ =>
          ⟨.redirectsFollowed, [], transcript.length - 1⟩
      else [] := by
  rw [Transcript.counted, samplesOf_append, samplesOf_replies, samplesOf_followed]

end Metric

namespace Visit

open Gateway

variable {σ : Type} (gateway : Gateway) (visit : Visit σ)

/-- The source that the load reports, if the request comes to it and it does not crash. -/
def loadSource? : Option Text :=
  match gateway.immediate? visit.request, (visit.loaded gateway).1 with
  | none, .served _ source => some source.name
  | none, .unavailable => some "none"
  | _, _ => none

/-- The samples that a visit has to give for a metric. -/
def accounted : Metric → List Sample
  | .requests =>
    [⟨.requests,
      [("outcome", (visit.handled gateway).1.outcome.name),
        ("status", Text.ofNat (visit.handled gateway).1.response.status)], 1⟩]
  | .requestDuration =>
    [⟨.requestDuration, [("outcome", (visit.handled gateway).1.outcome.name)], 0⟩]
  | .documentLoads =>
    (visit.loadSource? gateway).toList.map fun source =>
      ⟨.documentLoads, [("source", source)], 1⟩
  | .backendRequests =>
    (visit.tries gateway).flatMap fun attempt =>
      (attempt.transcript.replies gateway.backend.timeout.millis).map fun reply =>
        ⟨.backendRequests, [("status", Text.ofNat reply.status)], 1⟩
  | .redirectsFollowed =>
    (visit.tries gateway).flatMap fun attempt =>
      (attempt.transcript.lastReply? gateway.backend.timeout.millis).toList.map fun _ =>
        ⟨.redirectsFollowed, [], attempt.transcript.length - 1⟩

variable {gateway visit}

/-- What is recorded for an attempt that is made is counted in its transcript. -/
theorem measurements_of_tries {attempt : Attempt} (h : attempt ∈ visit.tries gateway) :
    attempt.measurements =
      attempt.transcript.counted gateway.backend.timeout.millis := by
  rw [Attempt.measurements]
  rcases forwarded_cases h with
    ⟨hforwarded, htranscript⟩ | ⟨inbound, before, hforwarded, htranscript⟩
  · rw [hforwarded, htranscript]
    rfl
  · rw [hforwarded, htranscript]
    exact Inbound.forward_counted ..

theorem samplesOf_loadMeasurements (metric : Metric) :
    metric.samplesOf (visit.loadMeasurements gateway) =
      if metric = .documentLoads then
        (visit.loadSource? gateway).toList.map fun source =>
          ⟨.documentLoads, [("source", source)], 1⟩
      else [] := by
  rw [loadMeasurements, loadSource?]
  cases gateway.immediate? visit.request with
  | some answered => cases metric <;> rfl
  | none => cases (visit.loaded gateway).1 <;> cases metric <;> rfl

variable (gateway visit) in
/-- A visit gives the samples that it has to give. -/
theorem samplesOf_handled (metric : Metric) :
    metric.samplesOf (visit.handled gateway).1.measurements = visit.accounted gateway metric := by
  have htries : metric.samplesOf ((visit.tries gateway).flatMap Attempt.measurements) =
      (visit.tries gateway).flatMap fun attempt => metric.samplesOf
        (attempt.transcript.counted gateway.backend.timeout.millis) := by
    rw [Metric.samplesOf_flatMap]
    exact List.flatMap_congr fun attempt hattempt => by rw [measurements_of_tries hattempt]
  rw [handled_measurements, Metric.samplesOf_append, Metric.samplesOf_append, htries,
    samplesOf_loadMeasurements]
  simp only [Metric.samplesOf_counted]
  cases metric <;> simp [accounted, Metric.samplesOf, Measurement.samples]

variable (gateway visit) in
/-- A candidate that is forwarded to ends with the reply to its last fetch. -/
theorem endsWith_of_tries {attempt : Attempt} (h : attempt ∈ visit.tries gateway)
    {forwarded : Forwarded} (hforwarded : attempt.forwarded = some forwarded) :
    forwarded.EndsWith
      (attempt.transcript.lastReply? gateway.backend.timeout.millis) := by
  rcases forwarded_cases h with ⟨hnone, -⟩ | ⟨inbound, before, hsome, htranscript⟩
  · rw [hnone] at hforwarded
    cases hforwarded
  · cases hsome.symm.trans hforwarded
    rw [htranscript]
    exact Inbound.forward_endsWith ..

end Visit

namespace Gateway

variable {σ : Type}

/-- All that a run records. -/
def recorded (gateway : Gateway) (memory : Memory) (arrivals : List (Arrival σ)) :
    List Measurement :=
  (gateway.visits memory arrivals).flatMap fun visit => (visit.handled gateway).1.measurements

/-- What the metrics of a run add up to: each request is a visit, each visit gives the samples
that it has to give, with the outcome for the way in which its response came about; the
network was asked for the rule document and for the attempts that are counted; and candidates
whose last fetch has no reply end without a response or with one for a failure. -/
structure Accounts (gateway : Gateway) (memory : Memory) (arrivals : List (Arrival σ)) :
    Prop where
  visits : (gateway.visits memory arrivals).map (fun visit => visit.request) =
    arrivals.map fun arrival => arrival.request
  samples : ∀ metric : Metric, metric.samplesOf (gateway.recorded memory arrivals) =
    (gateway.visits memory arrivals).flatMap fun visit => visit.accounted gateway metric
  produced : ∀ visit ∈ gateway.visits memory arrivals,
    Visit.Produced gateway visit (visit.handled gateway).1.response
      (visit.handled gateway).1.outcome
  asked : ∀ visit ∈ gateway.visits memory arrivals,
    gateway.handle visit.platform.logged visit.request
        { memory := visit.memory, platform := (visit.state, []) } =
      ((visit.handled gateway).1,
        { memory := (visit.handled gateway).2.memory,
          platform := ((visit.handled gateway).2.platform,
            visit.loadTranscript gateway ++ (visit.tries gateway).flatMap (·.transcript)) })
  ended : ∀ visit ∈ gateway.visits memory arrivals, ∀ attempt ∈ visit.tries gateway,
    ∀ forwarded, attempt.forwarded = some forwarded → forwarded.EndsWith
      (attempt.transcript.lastReply? gateway.backend.timeout.millis)

theorem visits_requests (gateway : Gateway) (memory : Memory) (arrivals : List (Arrival σ)) :
    (gateway.visits memory arrivals).map (fun visit => visit.request) =
      arrivals.map fun arrival => arrival.request := by
  induction arrivals generalizing memory with
  | nil => rfl
  | cons arrival rest ih => exact congrArg (arrival.request :: ·) (ih _)

/-- The metrics of a run add up, whatever crashes, fails or comes late in it. -/
theorem run_accounts (gateway : Gateway) (memory : Memory) (arrivals : List (Arrival σ)) :
    gateway.Accounts memory arrivals where
  visits := gateway.visits_requests memory arrivals
  samples metric := by
    rw [recorded, Metric.samplesOf_flatMap]
    exact List.flatMap_congr fun visit _ => visit.samplesOf_handled gateway metric
  produced visit _ := visit.handled_produced gateway
  asked visit _ := visit.handle_logged gateway
  ended visit _ attempt hattempt forwarded hforwarded :=
    visit.endsWith_of_tries gateway hattempt hforwarded

end Gateway

end RuleGateway
