import RuleGateway.Proofs.Backend.Replies
import RuleGateway.Proofs.Gateway.Course
import RuleGateway.Proofs.Store.Effects

/-!
# Crashes on the way

The client of the network may crash in any fetch that a request waits for, and the request
is answered all the same. A fetch counts as crashed if it crashes before the time for it is
over: what would crash later is not waited for. A crash in the fetch of the rule document
comes before anything is kept, and one in a fetch for a proxy rule comes when all that is
kept is kept already. So a run goes on after either as if the request had done its load and
nothing else, which is the main statement, `run_withstands`.
-/

namespace RuleGateway

/-- A fetch that crashes leaves no response. -/
theorem Inbound.response_of_crash {σ : Type} {inbound : Inbound} {network : Network σ}
    {limits : BackendLimits} {target : Text} {state : σ}
    (h : FetchResult.crash ∈
      (inbound.transcript network limits target state).results limits.timeout.millis) :
    (inbound.forward network limits target state).1.response = none := by
  cases hurl : Url.parse target with
  | error error =>
    rw [transcript, hurl] at h
    cases h
  | ok url =>
    obtain ⟨hops, hchain, -⟩ :=
      Exchange.follow_chain network inbound limits.maxRedirects
        (Nat.zero_le limits.timeout.millis) ⟨inbound.method, url⟩ state
    rw [transcript, hurl] at h
    obtain ⟨k, hk⟩ := List.mem_iff_getElem?.1 h
    rw [Nat.sub_zero] at hchain
    have hending := (hchain.crashed k hk).2
    rw [forward_of_ok hurl]
    simp only [Exchange.run, Exchange.response?, hending]

/-- A fetch of the rule document that crashes ends the load and leaves the copies alone. -/
theorem Loader.load_of_crash {σ : Type} {loader : Loader} {platform : Platform σ} {url : Text}
    {memory : Memory} {state : σ} {sent : Outbound × Answer}
    (h : sent ∈ transcript platform url memory state) (hcrash : sent.2.result = .crash)
    (htime : sent.2.delay ≤ loader.fetchTimeout.millis) :
    (loader.load platform url memory state).1 = .crashed ∧
      (loader.load platform url memory state).2.1 = memory := by
  rw [transcript] at h
  split at h
  · cases h
  · rename_i hneither
    rw [not_or, Option.not_isSome_iff_eq_none, Option.not_isSome_iff_eq_none] at hneither
    obtain ⟨hfresh, hcached⟩ := hneither
    cases List.mem_singleton.1 h
    have hiscrash : loader.isCrash
        (platform.network (.get url) (readCache platform url state).2).1 := by
      dsimp only at hcrash htime
      simp [isCrash, hcrash, htime]
    rw [load_of_not_fresh loader platform url memory state hfresh,
      loadPastMemory_of_not_cached loader platform url memory state _ hcached,
      fetch_of_crash _ rfl hiscrash]
    exact ⟨rfl, rfl⟩

namespace Visit

open Gateway

variable {σ : Type} (gateway : Gateway) (visit : Visit σ)

/-- The copies that the load leaves, if the request comes to it. -/
def memoryOfLoad : Memory :=
  match gateway.immediate? visit.request with
  | some _ => visit.memory
  | none => (visit.loaded gateway).2.1

/-- The copies that a request leaves are those of its load. -/
theorem handled_memory : (visit.handled gateway).2.memory = visit.memoryOfLoad gateway := by
  unfold memoryOfLoad
  cases hpast : gateway.immediate? visit.request with
  | some answered => rw [handled_of_immediate hpast]
  | none => rw [handled_of_past hpast]

/-- What a request comes to when fetches crash or fail: there is a response for it, which
is the plain one after a crash; the copies are then as they were, or as the load left them;
and a request that needs no rule document does nothing else. -/
structure Withstands : Prop where
  answered : Produced gateway visit (visit.handled gateway).1.response
    (visit.handled gateway).1.outcome
  asked : gateway.handle visit.platform.logged visit.request
      { memory := visit.memory, platform := (visit.state, []) } =
    ((visit.handled gateway).1,
      { memory := (visit.handled gateway).2.memory,
        platform := ((visit.handled gateway).2.platform,
          visit.loadTranscript gateway ++ (visit.tries gateway).flatMap (·.transcript)) })
  document : ∀ sent ∈ visit.loadTranscript gateway, sent.2.result = .crash →
    sent.2.delay ≤ gateway.backend.timeout.millis →
    (visit.handled gateway).1.response = .plain 500 "Internal Server Error" ∧
      (visit.handled gateway).2.memory = visit.memory
  proxied : ∀ attempt ∈ visit.tries gateway,
    .crash ∈ attempt.transcript.results gateway.backend.timeout.millis →
    (visit.handled gateway).1.response = .plain 500 "Internal Server Error" ∧
      ∃ document source after, visit.loaded gateway =
        (.served document source, (visit.handled gateway).2.memory, after)
  untouched : (visit.handled gateway).1.outcome = .canonical ∨
      (visit.handled gateway).1.outcome = .favicon →
    (visit.handled gateway).2 = { memory := visit.memory, platform := visit.state } ∧
      ∀ journal, gateway.handle visit.platform.journaled visit.request
        { memory := visit.memory, platform := (visit.state, journal) } =
          ((visit.handled gateway).1,
            { memory := visit.memory, platform := (visit.state, journal) })

variable {gateway visit}

/-- A load that crashes is answered with the plain response. -/
theorem handled_of_crashed (hpast : gateway.immediate? visit.request = none)
    (hload : (visit.loaded gateway).1 = .crashed) :
    (visit.handled gateway).1.response = .plain 500 "Internal Server Error" := by
  rw [handled_of_past hpast, hload]
  rfl

/-- Candidates are tried with a document. -/
theorem exists_served_of_tries {attempt : Attempt} (h : attempt ∈ visit.tries gateway) :
    gateway.immediate? visit.request = none ∧
      ∃ document source, (visit.loaded gateway).1 = .served document source := by
  cases hpast : gateway.immediate? visit.request with
  | some answered =>
    rw [tries_of_immediate hpast] at h
    cases h
  | none =>
    refine ⟨rfl, ?_⟩
    rw [tries_of_past hpast] at h
    cases hload : (visit.loaded gateway).1 with
    | served document source => exact ⟨document, source, rfl⟩
    | unavailable | crashed =>
      rw [hload] at h
      cases h

/-- An attempt of which a fetch crashes is the last one and gives the plain response. -/
theorem handled_of_lost {attempt : Attempt} (h : attempt ∈ visit.tries gateway)
    (hcrash : .crash ∈ attempt.transcript.results gateway.backend.timeout.millis) :
    (visit.handled gateway).1.response = .plain 500 "Internal Server Error" := by
  rcases forwarded_cases h with ⟨-, hempty⟩ | ⟨inbound, before, hforwarded, htranscript⟩
  · rw [hempty] at hcrash
    cases hcrash
  · rw [htranscript] at hcrash
    have hresponse := Inbound.response_of_crash hcrash
    have hsettles : attempt.settles := by
      simp [Attempt.settles, hforwarded, hresponse]
    rw [(handled_of_last gateway visit (getLast?_tries h hsettles)).1, Attempt.response, hforwarded]
    simp [hresponse, Answered.crashed]

theorem immediate?_of_outcome (h : (visit.handled gateway).1.outcome = .canonical ∨
    (visit.handled gateway).1.outcome = .favicon) :
    ∃ answered, gateway.immediate? visit.request = some answered := by
  rw [← Option.ne_none_iff_exists']
  intro hpast
  obtain ⟨hcanonical, hicon⟩ := immediate?_eq_none_iff.1 hpast
  have hproduced := handled_produced gateway visit
  generalize (visit.handled gateway).1.response = response at hproduced
  generalize (visit.handled gateway).1.outcome = outcome at h hproduced
  rcases h with rfl | rfl
  · cases hproduced with
    | canonical hfound => rw [hcanonical] at hfound; contradiction
  · cases hproduced with
    | icon _ hpath => exact hicon hpath

variable (gateway visit)

theorem withstands : Withstands gateway visit := by
  constructor
  case answered => exact visit.handled_produced gateway
  case asked => exact visit.handle_logged gateway
  case document =>
    intro sent hsent hcrash htime
    cases hpast : gateway.immediate? visit.request with
    | some answered =>
      rw [loadTranscript_of_immediate hpast] at hsent
      cases hsent
    | none =>
      rw [loadTranscript_of_past hpast] at hsent
      obtain ⟨hload, hmemory⟩ :
          (visit.loaded gateway).1 = .crashed ∧ (visit.loaded gateway).2.1 = visit.memory :=
        Loader.load_of_crash hsent hcrash htime
      refine ⟨handled_of_crashed hpast hload, ?_⟩
      rw [handled_of_past hpast]
      exact hmemory
  case proxied =>
    intro attempt hattempt hcrash
    obtain ⟨hpast, document, source, hload⟩ := exists_served_of_tries hattempt
    refine ⟨handled_of_lost hattempt hcrash, document, source, (visit.loaded gateway).2.2, ?_⟩
    rw [handled_of_past hpast, ← hload]
  case untouched =>
    intro houtcome
    obtain ⟨answered, hanswered⟩ := immediate?_of_outcome houtcome
    rw [handled_of_immediate hanswered]
    exact ⟨rfl, fun journal => handle_of_immediate hanswered _ _⟩

end Visit

namespace Gateway

variable {σ : Type}

/-- Each request of a run withstands crashes, and after it the run goes on as after the load
of the request alone. -/
theorem run_withstands (gateway : Gateway) (memory : Memory) (before : List (Arrival σ))
    (arrival : Arrival σ) (rest : List (Arrival σ)) :
    let visit := arrival.visit (gateway.memoryAfter memory before)
    gateway.visits memory (before ++ arrival :: rest) =
        gateway.visits memory before ++
          visit :: gateway.visits (visit.memoryOfLoad gateway) rest ∧
      visit.Withstands gateway := by
  intro visit
  refine ⟨?_, visit.withstands gateway⟩
  rw [visits_append, visits, visit.handled_memory gateway]

end Gateway

end RuleGateway
