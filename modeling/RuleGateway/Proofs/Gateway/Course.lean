import RuleGateway.Proofs.Gateway.Policy

/-!
# The course of a request

What `Gateway.handle` does, laid out in order: the answers that need no rule document,
the load, the `Plan` that the loaded document leaves, and the attempts that carry it out.
A `Visit` is a request with all that the gateway finds when it comes. For each visit there
is the transcript of the load, the attempts that are made, what is recorded, and a reason
for the response: `Produced` has one constructor for each way in which a response comes
about.
-/

namespace RuleGateway

namespace Attempt

/-- How a request is recorded that the attempt answers. -/
def outcome (attempt : Attempt) : Outcome :=
  match attempt.forwarded with
  | some forwarded => if forwarded.response.isSome then .proxy else .error
  | none =>
    match redirectTo attempt.target attempt.matcher.rule.status with
    | .ok _ => .redirect
    | .error _ => .error

/-- What is recorded while the attempt is made. -/
def measurements (attempt : Attempt) : List Measurement :=
  (attempt.forwarded.map (·.measurements)).getD []

/-- The outcome of the last attempt, or the given one if there is none. -/
def lastOutcome (attempts : List Attempt) (fallback : Outcome) : Outcome :=
  (attempts.getLast?.map outcome).getD fallback

theorem lastOutcome_singleton (attempt : Attempt) (fallback : Outcome) :
    lastOutcome [attempt] fallback = attempt.outcome := rfl

theorem lastOutcome_cons (attempt : Attempt) (attempts : List Attempt) (fallback : Outcome) :
    lastOutcome (attempt :: attempts) fallback = lastOutcome attempts attempt.outcome := by
  rw [lastOutcome, List.getLast?_cons, lastOutcome]
  cases attempts.getLast? <;> rfl

theorem tried_eq_nil_iff {attempts : List Attempt} : tried attempts = [] ↔ attempts = [] := by
  rw [tried, List.take_eq_nil_iff]
  simp

/-- An attempt that settles the request is the last one that is made. -/
theorem getLast?_tried {attempts : List Attempt} {attempt : Attempt}
    (h : attempt ∈ tried attempts) (hsettles : attempt.settles) :
    (tried attempts).getLast? = some attempt := by
  induction attempts with
  | nil => cases h
  | cons first rest ih =>
    by_cases hfirst : first.settles
    · rw [tried_cons_of_settles hfirst] at h ⊢
      rw [List.mem_singleton.1 h]
      rfl
    · rw [Bool.not_eq_true] at hfirst
      rw [tried_cons_of_not_settles hfirst] at h ⊢
      rcases List.mem_cons.1 h with rfl | hrest
      · rw [hfirst] at hsettles
        contradiction
      · rw [List.getLast?_cons, ih hrest]
        rfl

end Attempt

namespace Gateway

variable {σ : Type}

theorem redirect_recorded (rule : Rule) (target : Text) :
    (redirect rule target).measurements = [] ∧
      (redirect rule target).outcome =
        match redirectTo target rule.status with
        | .ok _ => .redirect
        | .error _ => .error := by
  rw [redirect]
  cases h : redirectTo target rule.status with
  | ok response => exact ⟨rfl, rfl⟩
  | error failure =>
    rw [redirectTo] at h
    split at h
    · cases h
      exact ⟨rfl, rfl⟩
    · cases h

/-- The last candidate that is tried gives the outcome, and what is recorded for each of
those that are tried is recorded once. -/
theorem dispatch_recorded (gateway : Gateway) (network : Network σ) (path : Text)
    (inbound : Inbound) (candidates : List (Matcher × Text)) (fallback : Option Response)
    (state : σ) :
    let tried := Attempt.tried (gateway.attempts network inbound candidates state)
    let dispatched := (gateway.dispatch network path inbound fallback candidates state).1
    dispatched.outcome =
        Attempt.lastOutcome tried (if fallback.isSome then .proxy else .notFound) ∧
      dispatched.measurements = tried.flatMap Attempt.measurements := by
  induction candidates generalizing fallback state with
  | nil => cases fallback <;> exact ⟨rfl, rfl⟩
  | cons candidate rest ih =>
    obtain ⟨matcher, target⟩ := candidate
    dsimp only
    by_cases hkind : matcher.rule.kind = .proxy
    · obtain ⟨forwarded, after, hforward⟩ : ∃ forwarded after,
          (under matcher inbound).forward network gateway.backend target state =
            (forwarded, after) := ⟨_, _, rfl⟩
      rw [attempts_of_proxy hkind hforward]
      cases hresponse : forwarded.response with
      | none =>
        rw [Attempt.tried_cons_of_settles (by simp [Attempt.settles, hresponse]),
          dispatch_of_crash hkind hforward hresponse, Attempt.lastOutcome_singleton]
        simp [Attempt.outcome, Attempt.measurements, Answered.after, Answered.crashed, hresponse]
      | some response =>
        by_cases hsoft : isSoftFailure response
        · rw [Attempt.tried_cons_of_not_settles (by simp [Attempt.settles, hresponse, hsoft]),
            dispatch_of_soft hkind hforward hresponse hsoft, Attempt.lastOutcome_cons]
          obtain ⟨houtcome, hmeasurements⟩ := ih (some response) after
          simp [Attempt.outcome, Attempt.measurements, Answered.after, hresponse, houtcome,
            hmeasurements]
        · rw [Attempt.tried_cons_of_settles (by simp [Attempt.settles, hresponse, hsoft]),
            dispatch_of_answered hkind hforward hresponse hsoft, Attempt.lastOutcome_singleton]
          simp [Attempt.outcome, Attempt.measurements, hresponse]
    · obtain ⟨hmeasurements, houtcome⟩ := redirect_recorded matcher.rule target
      rw [attempts_of_redirect hkind, Attempt.tried_cons_of_settles rfl,
        dispatch_of_redirect hkind, houtcome, hmeasurements, Attempt.lastOutcome_singleton]
      exact ⟨rfl, rfl⟩

/-- The answer to a request that needs no rule document: a redirect to the canonical
origin, or the icon. -/
def immediate? (gateway : Gateway) (request : Request) : Option Answered :=
  match gateway.canonical.redirect? request with
  | some response => some { response, outcome := .canonical }
  | none =>
    if Path.normalize request.target.path = "/favicon.ico".toList then
      some { response := Page.icon, outcome := .favicon }
    else none

/-- What is left to do for a request when the load of the rule document is over: to give
an answer, or to try candidates. -/
inductive Plan where
  | give (answered : Answered)
  | dispatch (path : Text) (inbound : Inbound) (candidates : List (Matcher × Text))

namespace Plan

/-- Carries out the plan. -/
def carryOut (gateway : Gateway) (network : Network σ) : Plan → σ → Answered × σ
  | give answered, state => (answered, state)
  | dispatch path inbound candidates, state =>
    gateway.dispatch network path inbound none candidates state

/-- The attempts that carry out the plan. -/
def attempts (gateway : Gateway) (network : Network σ) : Plan → σ → List Attempt
  | give _, _ => []
  | dispatch _ inbound candidates, state =>
    Attempt.tried (gateway.attempts network inbound candidates state)

end Plan

/-- The router of the document that was loaded, if there is one with a slot tree. -/
def routerOf? (gateway : Gateway) : Loaded → Option Router
  | .served document _ => Router.ofDocument? document gateway.compiles
  | _ => none

/-- What is left to do with a router. -/
def planWith (gateway : Gateway) (request : Request) (router : Router) : Plan :=
  if Path.normalize request.target.path = "/robots.txt".toList then
    .give
      { response := Page.robots request.origin gateway.bindings.allowsRobots, outcome := .robots }
  else if Path.normalize request.target.path = "/sitemap.xml".toList then
    .give { response := Page.sitemap request.origin router, outcome := .sitemap }
  else if (candidatesOf router request).any (·.1.rule.kind = .proxy) then
    match inbound request with
    | .error failure => .give (.failed failure)
    | .ok inbound => .dispatch (pathOf router request) inbound (candidatesOf router request)
  else .dispatch (pathOf router request) {} (candidatesOf router request)

/-- What is left to do when the load is over. -/
def plan (gateway : Gateway) (request : Request) (loaded : Loaded) : Plan :=
  match loaded, gateway.routerOf? loaded with
  | .crashed, _ => .give .crashed
  | _, none => .give (.failed .noDocument)
  | _, some router => gateway.planWith request router

variable {gateway : Gateway} {request : Request} {loaded : Loaded} {router : Router}

theorem plan_of_none (hcrash : loaded ≠ .crashed) (h : gateway.routerOf? loaded = none) :
    gateway.plan request loaded = .give (.failed .noDocument) := by
  unfold plan
  rw [h]
  cases loaded <;> first | rfl | contradiction

theorem plan_of_router (h : gateway.routerOf? loaded = some router) :
    gateway.plan request loaded = gateway.planWith request router := by
  unfold plan
  rw [h]
  cases loaded <;> first | rfl | contradiction

theorem serve_eq_carryOut (network : Network σ) (state : σ) :
    gateway.serve network router request (Path.normalize request.target.path) state =
      (gateway.planWith request router).carryOut gateway network state := by
  unfold serve planWith
  split
  · rfl
  split
  · rfl
  · rw [route]
    -- Both sides look at the same candidates.
    change (if (candidatesOf router request).any _ then _ else _) = _
    split
    · cases inbound request <;> rfl
    · rfl

theorem answerLoaded_eq_carryOut (network : Network σ) (state : σ) :
    gateway.answerLoaded network request (Path.normalize request.target.path) loaded state =
      (gateway.plan request loaded).carryOut gateway network state := by
  cases loaded with
  | crashed => rfl
  | unavailable => rfl
  | served document source =>
    rw [answerLoaded]
    cases hrouter : Router.ofDocument? document gateway.compiles with
    | none =>
      have hplan : gateway.plan request (.served document source) = .give (.failed .noDocument) :=
        plan_of_none (fun h => by cases h) hrouter
      rw [hplan, Plan.carryOut]
    | some router =>
      have hplan :
          gateway.plan request (.served document source) = gateway.planWith request router :=
        plan_of_router hrouter
      rw [hplan, ← serve_eq_carryOut]

variable (gateway) (network : Network σ)

theorem carryOut_logged (plan : Plan) (state : σ) (earlier : Transcript) :
    plan.carryOut gateway network.logged (state, earlier) =
      Transcript.adding ((plan.attempts gateway network state).flatMap (·.transcript)) earlier
        (plan.carryOut gateway network state) := by
  cases plan with
  | give answered => simp [Plan.carryOut, Plan.attempts, Transcript.adding]
  | dispatch path inbound candidates =>
    exact (gateway.dispatch_attempts network path inbound candidates none state earlier).1

/-- The attempt that is made last gives the response and the outcome. -/
theorem carryOut_of_last {plan : Plan} {state : σ} {attempt : Attempt}
    (h : (plan.attempts gateway network state).getLast? = some attempt) :
    (plan.carryOut gateway network state).1.response = attempt.response ∧
      (plan.carryOut gateway network state).1.outcome = attempt.outcome := by
  cases plan with
  | give answered => cases h
  | dispatch path inbound candidates =>
    rw [Plan.attempts] at h
    rw [Plan.carryOut, (gateway.dispatch_attempts _ _ _ _ _ _ []).2,
      (gateway.dispatch_recorded _ _ _ _ _ _).1, Attempt.lastResponse, Attempt.lastOutcome, h]
    exact ⟨rfl, rfl⟩

/-- Without a candidate the answer is the page for missing pages. -/
theorem candidates_of_no_attempts {path : Text} {inbound : Inbound}
    {candidates : List (Matcher × Text)} {state : σ}
    (h : (Plan.dispatch path inbound candidates).attempts gateway network state = []) :
    candidates = [] := by
  rw [← gateway.map_attempts network inbound candidates state, Attempt.tried_eq_nil_iff.1 h]
  rfl

theorem planWith_measurements {answered : Answered}
    (h : gateway.planWith request router = .give answered) : answered.measurements = [] := by
  unfold planWith at h
  split at h
  · cases h
    rfl
  split at h
  · cases h
    rfl
  split at h
  · split at h <;> cases h
    rfl
  · cases h

/-- Nothing is recorded for an answer that is given without attempts. -/
theorem plan_measurements {answered : Answered} (h : gateway.plan request loaded = .give answered) :
    answered.measurements = [] := by
  cases hrouter : gateway.routerOf? loaded with
  | some router => exact gateway.planWith_measurements (plan_of_router hrouter ▸ h)
  | none =>
    by_cases hcrash : loaded = .crashed
    · subst hcrash
      cases h
      rfl
    · rw [plan_of_none hcrash hrouter] at h
      cases h
      rfl

theorem carryOut_measurements (state : σ) :
    ((gateway.plan request loaded).carryOut gateway network state).1.measurements =
      ((gateway.plan request loaded).attempts gateway network state).flatMap
        Attempt.measurements := by
  cases hplan : gateway.plan request loaded with
  | give answered => exact gateway.plan_measurements hplan
  | dispatch path inbound candidates =>
    exact (gateway.dispatch_recorded network path inbound candidates none state).2

variable {gateway}

/-- What is given without a rule document is a redirect to the canonical origin or the icon,
and nothing is recorded for it. -/
theorem immediate?_cases {answered : Answered} (h : gateway.immediate? request = some answered) :
    answered.measurements = [] ∧
      (gateway.canonical.redirect? request = some answered.response ∧
          answered.outcome = .canonical ∨
        gateway.canonical.redirect? request = none ∧
          Path.normalize request.target.path = "/favicon.ico".toList ∧
          answered.response = Page.icon ∧ answered.outcome = .favicon) := by
  unfold immediate? at h
  split at h
  · rename_i response hcanonical
    cases h
    exact ⟨rfl, .inl ⟨hcanonical, rfl⟩⟩
  · rename_i hcanonical
    obtain ⟨hicon, hanswered⟩ := Option.ite_none_right_eq_some.1 h
    cases hanswered
    exact ⟨rfl, .inr ⟨hcanonical, hicon, rfl, rfl⟩⟩

theorem handle_of_immediate {answered : Answered}
    (h : gateway.immediate? request = some answered) (platform : Platform σ)
    (running : Running σ) :
    gateway.handle platform request running = (answered.recorded, running) := by
  obtain ⟨response, outcome, measurements⟩ := answered
  obtain ⟨rfl, ⟨hcanonical, rfl⟩ | ⟨hcanonical, hicon, rfl, rfl⟩⟩ := immediate?_cases h
  · rw [handle, answer, hcanonical]
  · rw [handle, answer, hcanonical]
    dsimp only
    rw [if_pos hicon]

theorem immediate?_eq_none_iff :
    gateway.immediate? request = none ↔
      gateway.canonical.redirect? request = none ∧
        Path.normalize request.target.path ≠ "/favicon.ico".toList := by
  unfold immediate?
  cases gateway.canonical.redirect? request with
  | some response => exact ⟨nofun, fun h => nomatch h.1⟩
  | none =>
    dsimp only
    rw [ite_eq_right_iff]
    exact ⟨fun h => ⟨rfl, fun hpath => nomatch h hpath⟩, fun h hpath => absurd hpath h.2⟩

theorem handle_of_past (h : gateway.immediate? request = none) (platform : Platform σ)
    (running : Running σ) :
    gateway.handle platform request running =
      let loaded := gateway.loader.load platform gateway.documentUrl running.memory running.platform
      let carried := (gateway.plan request loaded.1).carryOut gateway platform.network loaded.2.2
      ((carried.1.after loaded.1.measurements).recorded,
        { memory := loaded.2.1, platform := carried.2 }) := by
  obtain ⟨hcanonical, hicon⟩ := immediate?_eq_none_iff.1 h
  rw [handle, answer]
  simp only [hcanonical, if_neg hicon, answerLoaded_eq_carryOut]

theorem inbound_error {failure : Failure} (h : inbound request = .error failure) :
    ∃ detail, failure = .internal detail := by
  unfold inbound at h
  split at h
  · split at h <;> cases h
    exact ⟨_, rfl⟩
  · cases h

end Gateway

/-- A request with all that the gateway finds when it comes: the copies in memory, and the
platform in a state. -/
structure Visit (σ : Type) where
  memory : Memory
  request : Request
  platform : Platform σ
  state : σ

namespace Visit

open Gateway

variable {σ : Type} (gateway : Gateway) (visit : Visit σ)

/-- The answer, and what is left behind. -/
def handled : Answered × Running σ :=
  gateway.handle visit.platform visit.request { memory := visit.memory, platform := visit.state }

/-- The load of the rule document, if it comes to that. -/
def loaded : Loaded × Memory × σ :=
  gateway.loader.load visit.platform gateway.documentUrl visit.memory visit.state

/-- The requests for the rule document, with their answers. -/
def loadTranscript : Transcript :=
  match gateway.immediate? visit.request with
  | some _ => []
  | none => Loader.transcript visit.platform gateway.documentUrl visit.memory visit.state

/-- The attempts that are made. -/
def tries : List Attempt :=
  match gateway.immediate? visit.request with
  | some _ => []
  | none =>
    (gateway.plan visit.request (visit.loaded gateway).1).attempts gateway visit.platform.network
      (visit.loaded gateway).2.2

variable {gateway visit}

theorem handled_of_immediate {answered : Answered}
    (h : gateway.immediate? visit.request = some answered) :
    visit.handled gateway =
      (answered.recorded, { memory := visit.memory, platform := visit.state }) :=
  handle_of_immediate h visit.platform _

theorem handled_of_past (h : gateway.immediate? visit.request = none) :
    visit.handled gateway =
      let carried := (gateway.plan visit.request (visit.loaded gateway).1).carryOut gateway
        visit.platform.network (visit.loaded gateway).2.2
      ((carried.1.after (visit.loaded gateway).1.measurements).recorded,
        { memory := (visit.loaded gateway).2.1, platform := carried.2 }) :=
  handle_of_past h visit.platform _

theorem loadTranscript_of_immediate {answered : Answered}
    (h : gateway.immediate? visit.request = some answered) : visit.loadTranscript gateway = [] := by
  rw [loadTranscript, h]

theorem loadTranscript_of_past (h : gateway.immediate? visit.request = none) :
    visit.loadTranscript gateway =
      Loader.transcript visit.platform gateway.documentUrl visit.memory visit.state := by
  rw [loadTranscript, h]

theorem tries_of_immediate {answered : Answered}
    (h : gateway.immediate? visit.request = some answered) : visit.tries gateway = [] := by
  rw [tries, h]

theorem tries_of_past (h : gateway.immediate? visit.request = none) :
    visit.tries gateway = (gateway.plan visit.request (visit.loaded gateway).1).attempts gateway
      visit.platform.network (visit.loaded gateway).2.2 := by
  rw [tries, h]

variable (gateway visit) in
/-- The attempts that are made are those of some candidates up to the first one that settles
the request. -/
theorem tries_cases :
    visit.tries gateway = [] ∨ ∃ inbound candidates, visit.tries gateway =
      Attempt.tried (gateway.attempts visit.platform.network inbound candidates
        (visit.loaded gateway).2.2) := by
  cases hpast : gateway.immediate? visit.request with
  | some answered => exact .inl (tries_of_immediate hpast)
  | none =>
    rw [tries_of_past hpast]
    cases gateway.plan visit.request (visit.loaded gateway).1 with
    | give answered => exact .inl rfl
    | dispatch path inbound candidates => exact .inr ⟨inbound, candidates, rfl⟩

/-- For an attempt that is made, the request is forwarded or nothing is asked for. -/
theorem forwarded_cases {attempt : Attempt} (h : attempt ∈ visit.tries gateway) :
    attempt.forwarded = none ∧ attempt.transcript = [] ∨
    ∃ (inbound : Inbound) (before : σ),
      attempt.forwarded = some (inbound.forward visit.platform.network gateway.backend
        attempt.target before).1 ∧
      attempt.transcript = inbound.transcript visit.platform.network gateway.backend
        attempt.target before := by
  rcases tries_cases gateway visit with hnone | ⟨inbound, candidates, htries⟩
  · rw [hnone] at h
    cases h
  · rcases attempt_cases (List.mem_of_mem_take (htries ▸ h)) with
      ⟨-, hforwarded, htranscript⟩ | ⟨-, before, hforwarded, htranscript⟩
    · exact .inl ⟨hforwarded, htranscript⟩
    · exact .inr ⟨_, before, hforwarded, htranscript⟩

/-- Nothing is tried after an attempt that settles the request. -/
theorem getLast?_tries {attempt : Attempt} (h : attempt ∈ visit.tries gateway)
    (hsettles : attempt.settles) : (visit.tries gateway).getLast? = some attempt := by
  rcases tries_cases gateway visit with hnone | ⟨inbound, candidates, htries⟩
  · rw [hnone] at h
    cases h
  · rw [htries] at h ⊢
    exact Attempt.getLast?_tried h hsettles

variable (gateway visit)

/-- The network is asked for the rule document and for the attempts that are made, and for
nothing else. -/
theorem handle_logged :
    gateway.handle visit.platform.logged visit.request
        { memory := visit.memory, platform := (visit.state, []) } =
      ((visit.handled gateway).1,
        { memory := (visit.handled gateway).2.memory,
          platform := ((visit.handled gateway).2.platform,
            visit.loadTranscript gateway ++ (visit.tries gateway).flatMap (·.transcript)) }) := by
  cases himmediate : gateway.immediate? visit.request with
  | some answered =>
    rw [handled_of_immediate himmediate, handle_of_immediate himmediate,
      loadTranscript_of_immediate himmediate, tries_of_immediate himmediate]
    rfl
  | none =>
    have hload := gateway.loader.load_logged visit.platform gateway.documentUrl visit.memory
      visit.state []
    rw [List.nil_append] at hload
    rw [handled_of_past himmediate, handle_of_past himmediate,
      loadTranscript_of_past himmediate, tries_of_past himmediate]
    have hnetwork : visit.platform.logged.network = visit.platform.network.logged := rfl
    simp only [hload, hnetwork, carryOut_logged]
    rfl

/-- What is recorded for a load, if there is one. -/
def loadMeasurements : List Measurement :=
  match gateway.immediate? visit.request with
  | some _ => []
  | none => (visit.loaded gateway).1.measurements

/-- What is recorded: the load, the attempts that are made and, in the end, the request. -/
theorem handled_measurements :
    (visit.handled gateway).1.measurements =
      visit.loadMeasurements gateway ++ (visit.tries gateway).flatMap Attempt.measurements ++
      [.request (visit.handled gateway).1.outcome (visit.handled gateway).1.response.status] := by
  cases himmediate : gateway.immediate? visit.request with
  | some answered =>
    rw [handled_of_immediate himmediate, tries_of_immediate himmediate, loadMeasurements,
      himmediate]
    simp [Answered.recorded, (immediate?_cases himmediate).1]
  | none =>
    rw [handled_of_past himmediate, tries_of_past himmediate, loadMeasurements, himmediate]
    simp [Answered.recorded, Answered.after, carryOut_measurements]

/-- The router that is in force, if the request comes to the rule document. -/
def router? : Option Router :=
  match gateway.immediate? visit.request with
  | some _ => none
  | none => gateway.routerOf? (visit.loaded gateway).1

variable {gateway visit} in
theorem router?_of_past (h : gateway.immediate? visit.request = none) :
    visit.router? gateway = gateway.routerOf? (visit.loaded gateway).1 := by
  rw [router?, h]

/-- How a response comes about, and the outcome that says so. The last three pairs of
cases are about the candidate that is tried last. -/
inductive Produced : Response → Outcome → Prop
  | canonical {response : Response}
      (hcanonical : gateway.canonical.redirect? visit.request = some response) :
    Produced response .canonical
  | icon (hcanonical : gateway.canonical.redirect? visit.request = none)
      (hpath : Path.normalize visit.request.target.path = "/favicon.ico".toList) :
    Produced Page.icon .favicon
  | crashed (hpast : gateway.immediate? visit.request = none)
      (hload : (visit.loaded gateway).1 = .crashed) :
    Produced (.plain 500 "Internal Server Error") .error
  | noDocument (hpast : gateway.immediate? visit.request = none)
      (hload : (visit.loaded gateway).1 ≠ .crashed) (hrouter : visit.router? gateway = none) :
    Produced Failure.noDocument.response .noSlots
  | robots {router : Router} (hrouter : visit.router? gateway = some router)
      (hpath : Path.normalize visit.request.target.path = "/robots.txt".toList) :
    Produced (Page.robots visit.request.origin gateway.bindings.allowsRobots) .robots
  | sitemap {router : Router} (hrouter : visit.router? gateway = some router)
      (hpath : Path.normalize visit.request.target.path = "/sitemap.xml".toList) :
    Produced (Page.sitemap visit.request.origin router) .sitemap
  | unread {router : Router} {failure : Failure} (hrouter : visit.router? gateway = some router)
      (hpath : Path.normalize visit.request.target.path ∉ builtinPaths)
      (hproxy : (candidatesOf router visit.request).any (·.1.rule.kind = .proxy))
      (hinbound : inbound visit.request = .error failure) :
    Produced (.plain 500 "Internal Server Error") .error
  | notFound {router : Router} (hrouter : visit.router? gateway = some router)
      (hpath : Path.normalize visit.request.target.path ∉ builtinPaths)
      (hcandidates : candidatesOf router visit.request = []) :
    Produced Page.notFound .notFound
  | redirected {attempt : Attempt} {response : Response}
      (hlast : (visit.tries gateway).getLast? = some attempt)
      (hforwarded : attempt.forwarded = none)
      (hredirect : redirectTo attempt.target attempt.matcher.rule.status = .ok response) :
    Produced response .redirect
  | unusable {attempt : Attempt} {failure : Failure}
      (hlast : (visit.tries gateway).getLast? = some attempt)
      (hforwarded : attempt.forwarded = none)
      (hredirect : redirectTo attempt.target attempt.matcher.rule.status = .error failure) :
    Produced (.plain 500 "Internal Server Error") .error
  | proxied {attempt : Attempt} {forwarded : Forwarded} {response : Response}
      (hlast : (visit.tries gateway).getLast? = some attempt)
      (hforwarded : attempt.forwarded = some forwarded)
      (hresponse : forwarded.response = some response) :
    Produced response .proxy
  | lost {attempt : Attempt} {forwarded : Forwarded}
      (hlast : (visit.tries gateway).getLast? = some attempt)
      (hforwarded : attempt.forwarded = some forwarded) (hresponse : forwarded.response = none) :
    Produced (.plain 500 "Internal Server Error") .error

variable {gateway visit}

/-- The attempt that is made last gives the response and the outcome. -/
theorem produced_of_last {attempt : Attempt}
    (hlast : (visit.tries gateway).getLast? = some attempt) :
    Produced gateway visit attempt.response attempt.outcome := by
  unfold Attempt.response Attempt.outcome
  cases hforwarded : attempt.forwarded with
  | none =>
    cases hredirect : redirectTo attempt.target attempt.matcher.rule.status with
    | ok response => exact .redirected hlast hforwarded hredirect
    | error failure => exact .unusable hlast hforwarded hredirect
  | some forwarded =>
    cases hresponse : forwarded.response with
    | none =>
      simp only [hresponse]
      exact .lost hlast hforwarded hresponse
    | some response =>
      simp only [hresponse]
      exact .proxied hlast hforwarded hresponse

/-- Trying candidates gives the page for missing pages if there are none, and otherwise the
response of the last one that is tried. -/
theorem produced_of_dispatch {router : Router} {path : Text} {inbound : Inbound}
    (hpast : gateway.immediate? visit.request = none)
    (hrouter : visit.router? gateway = some router)
    (hpath : Path.normalize visit.request.target.path ∉ builtinPaths)
    (hplan : gateway.plan visit.request (visit.loaded gateway).1 =
      .dispatch path inbound (candidatesOf router visit.request)) :
    let carried := (gateway.plan visit.request (visit.loaded gateway).1).carryOut gateway
      visit.platform.network (visit.loaded gateway).2.2
    Produced gateway visit carried.1.response carried.1.outcome := by
  have htries := tries_of_past hpast
  dsimp only
  cases hlast : (visit.tries gateway).getLast? with
  | some attempt =>
    obtain ⟨hresponse, houtcome⟩ := gateway.carryOut_of_last _ (htries ▸ hlast)
    rw [hresponse, houtcome]
    exact produced_of_last hlast
  | none =>
    rw [List.getLast?_eq_none_iff.1 hlast, hplan] at htries
    have hcandidates := gateway.candidates_of_no_attempts _ htries.symm
    rw [hplan, hcandidates]
    exact .notFound hrouter hpath hcandidates

/-- With a router, the plan gives a document for crawlers, a failure to read the body, or
what trying candidates gives. -/
theorem produced_of_plan {router : Router} (hpast : gateway.immediate? visit.request = none)
    (hrouter : visit.router? gateway = some router)
    (hplan : gateway.plan visit.request (visit.loaded gateway).1 =
      gateway.planWith visit.request router) :
    let carried := (gateway.plan visit.request (visit.loaded gateway).1).carryOut gateway
      visit.platform.network (visit.loaded gateway).2.2
    Produced gateway visit carried.1.response carried.1.outcome := by
  dsimp only
  by_cases hrobots : Path.normalize visit.request.target.path = "/robots.txt".toList
  · rw [planWith, if_pos hrobots] at hplan
    rw [hplan]
    exact .robots hrouter hrobots
  by_cases hsitemap : Path.normalize visit.request.target.path = "/sitemap.xml".toList
  · rw [planWith, if_neg hrobots, if_pos hsitemap] at hplan
    rw [hplan]
    exact .sitemap hrouter hsitemap
  have hpath : Path.normalize visit.request.target.path ∉ builtinPaths := by
    simp only [builtinPaths, List.mem_cons, List.not_mem_nil, or_false, not_or]
    exact ⟨(immediate?_eq_none_iff.1 hpast).2, hrobots, hsitemap⟩
  rw [planWith, if_neg hrobots, if_neg hsitemap] at hplan
  split at hplan
  · rename_i hproxy
    split at hplan
    · rename_i failure hinbound
      obtain ⟨detail, rfl⟩ := inbound_error hinbound
      rw [hplan]
      exact .unread hrouter hpath hproxy hinbound
    · exact produced_of_dispatch hpast hrouter hpath hplan
  · exact produced_of_dispatch hpast hrouter hpath hplan

variable (gateway visit)

/-- Each response comes about in one of these ways, and the outcome is the one for it. -/
theorem handled_produced :
    Produced gateway visit (visit.handled gateway).1.response
      (visit.handled gateway).1.outcome := by
  cases hpast : gateway.immediate? visit.request with
  | some answered =>
    rw [handled_of_immediate hpast]
    obtain ⟨-, ⟨hcanonical, houtcome⟩ | ⟨hcanonical, hpath, hresponse, houtcome⟩⟩ :=
      immediate?_cases hpast
    · exact houtcome ▸ .canonical hcanonical
    · exact houtcome ▸ hresponse ▸ .icon hcanonical hpath
  | none =>
    rw [handled_of_past hpast]
    change Produced gateway visit
      ((gateway.plan visit.request (visit.loaded gateway).1).carryOut gateway
        visit.platform.network (visit.loaded gateway).2.2).1.response
      ((gateway.plan visit.request (visit.loaded gateway).1).carryOut gateway
        visit.platform.network (visit.loaded gateway).2.2).1.outcome
    by_cases hcrash : (visit.loaded gateway).1 = .crashed
    · rw [hcrash]
      exact .crashed hpast hcrash
    cases hrouter : visit.router? gateway with
    | none =>
      rw [plan_of_none hcrash (router?_of_past hpast ▸ hrouter)]
      exact .noDocument hpast hcrash hrouter
    | some router =>
      have hplan : gateway.plan visit.request (visit.loaded gateway).1 =
          gateway.planWith visit.request router :=
        plan_of_router (router?_of_past hpast ▸ hrouter)
      exact produced_of_plan hpast hrouter hplan

/-- The attempt that is made last gives the response and the outcome. -/
theorem handled_of_last {attempt : Attempt} (h : (visit.tries gateway).getLast? = some attempt) :
    (visit.handled gateway).1.response = attempt.response ∧
      (visit.handled gateway).1.outcome = attempt.outcome := by
  cases hpast : gateway.immediate? visit.request with
  | some answered =>
    rw [tries_of_immediate hpast] at h
    cases h
  | none =>
    rw [tries_of_past hpast] at h
    rw [handled_of_past hpast]
    exact gateway.carryOut_of_last _ h

end Visit

/-- A request of a run, and the platform as it is when the request comes. -/
structure Arrival (σ : Type) where
  request : Request
  platform : Platform σ
  state : σ

/-- The request with the copies that are in memory when it comes. -/
def Arrival.visit {σ : Type} (arrival : Arrival σ) (memory : Memory) : Visit σ :=
  { memory, request := arrival.request, platform := arrival.platform, state := arrival.state }

namespace Gateway

variable {σ : Type}

/-- The visits of a run: each request finds the copies that the ones before it left. -/
def visits (gateway : Gateway) : Memory → List (Arrival σ) → List (Visit σ)
  | _, [] => []
  | memory, arrival :: rest =>
    let visit := arrival.visit memory
    visit :: gateway.visits (visit.handled gateway).2.memory rest

/-- The copies that a run leaves. -/
def memoryAfter (gateway : Gateway) (memory : Memory) (arrivals : List (Arrival σ)) : Memory :=
  arrivals.foldl (fun memory arrival => ((arrival.visit memory).handled gateway).2.memory) memory

theorem visits_append (gateway : Gateway) (memory : Memory) (before rest : List (Arrival σ)) :
    gateway.visits memory (before ++ rest) =
      gateway.visits memory before ++ gateway.visits (gateway.memoryAfter memory before) rest := by
  induction before generalizing memory with
  | nil => rfl
  | cons arrival before ih =>
    rw [List.cons_append, visits, visits, ih]
    rfl

end Gateway

end RuleGateway
