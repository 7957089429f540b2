import RuleGateway.Gateway
import RuleGateway.Proofs.Backend.Chain
import RuleGateway.Proofs.Store.Transcript

/-!
# The order of candidates

A request that reaches the rules is answered by trying candidates one after the
other. `attempts` says what would come of each candidate if all of them were
tried in order, by forwarding alone, and `Decides` says what the answer has to
be then: that of the first attempt that settles the request, or of the last one,
with no request to a backend after it. The main statement is that the gateway
answers so.
-/

namespace RuleGateway

/-- What comes of trying a candidate: what was forwarded, if its rule is a proxy
rule, and what the network was asked for it. -/
structure Attempt where
  matcher : Matcher
  target : Text
  forwarded : Option Forwarded
  transcript : Transcript

namespace Attempt

/-- The response of a candidate on its own. -/
def response (attempt : Attempt) : Response :=
  match attempt.forwarded with
  | some forwarded => forwarded.response.getD Answered.crashed.response
  | none =>
    match redirectTo attempt.target attempt.matcher.rule.status with
    | .ok response => response
    | .error _ => .plain 500 "Internal Server Error"

/-- Whether no further candidate is tried: the rule is not a proxy rule, or the
proxied response neither misses the page nor reports a failure of the server. -/
def settles (attempt : Attempt) : Bool :=
  !(attempt.forwarded.bind (·.response)).any Gateway.isSoftFailure

/-- The attempts up to the first one that settles the request. -/
def tried (attempts : List Attempt) : List Attempt :=
  attempts.take (attempts.findIdx settles + 1)

theorem tried_cons_of_settles {attempt : Attempt} (h : attempt.settles)
    (attempts : List Attempt) : tried (attempt :: attempts) = [attempt] := by
  simp [tried, List.findIdx_cons, h]

theorem tried_cons_of_not_settles {attempt : Attempt} (h : attempt.settles = false)
    (attempts : List Attempt) : tried (attempt :: attempts) = attempt :: tried attempts := by
  simp [tried, List.findIdx_cons, h]

/-- The response of the last attempt, or the given one if there is none. -/
def lastResponse (attempts : List Attempt) (fallback : Response) : Response :=
  (attempts.getLast?.map response).getD fallback

theorem lastResponse_singleton (attempt : Attempt) (fallback : Response) :
    lastResponse [attempt] fallback = attempt.response := rfl

theorem lastResponse_cons (attempt : Attempt) (attempts : List Attempt) (fallback : Response) :
    lastResponse (attempt :: attempts) fallback = lastResponse attempts attempt.response := by
  rw [lastResponse, List.getLast?_cons, lastResponse]
  cases attempts.getLast? <;> rfl

theorem tried_of_first {attempts : List Attempt} {i : Nat} {attempt : Attempt}
    (hi : attempts[i]? = some attempt) (hsettles : attempt.settles)
    (hearlier : ∀ j < i, ∀ earlier, attempts[j]? = some earlier → earlier.settles = false) :
    tried attempts = attempts.take (i + 1) := by
  obtain ⟨hlt, hget⟩ := List.getElem?_eq_some_iff.1 hi
  have hindex : attempts.findIdx settles = i := by
    rw [List.findIdx_eq hlt, hget]
    refine ⟨hsettles, fun j hj => hearlier j hj _ ?_⟩
    exact List.getElem?_eq_getElem (Nat.lt_trans hj hlt)
  rw [tried, hindex]

theorem tried_of_none {attempts : List Attempt}
    (h : ∀ attempt ∈ attempts, attempt.settles = false) : tried attempts = attempts := by
  rw [tried, List.findIdx_eq_length.2 h]
  exact List.take_of_length_le (Nat.le_succ _)

/-- If anything is tried, its last attempt is one of those that may be tried. -/
theorem exists_lastResponse_tried {attempts : List Attempt} (h : attempts ≠ [])
    (fallback : Response) :
    ∃ attempt ∈ attempts,
      lastResponse (tried attempts) fallback = attempt.response := by
  have htried : tried attempts ≠ [] := by
    rw [tried, Ne, List.take_eq_nil_iff, not_or]
    exact ⟨Nat.succ_ne_zero _, h⟩
  refine ⟨(tried attempts).getLast htried,
    List.mem_of_mem_take (List.getLast_mem htried), ?_⟩
  rw [lastResponse, List.getLast?_eq_some_getLast htried]
  rfl

end Attempt

namespace Gateway

variable {σ : Type}

/-- What comes of the candidates if all of them are tried in order. -/
def attempts (gateway : Gateway) (network : Network σ) (inbound : Inbound) :
    List (Matcher × Text) → σ → List Attempt
  | [], _ => []
  | (matcher, target) :: rest, state =>
    if matcher.rule.kind = .proxy then
      let mounted := under matcher inbound
      let (forwarded, after) := mounted.forward network gateway.backend target state
      { matcher, target, forwarded := some forwarded,
        transcript := mounted.transcript network gateway.backend target state } ::
        gateway.attempts network inbound rest after
    else
      { matcher, target, forwarded := none, transcript := [] } ::
        gateway.attempts network inbound rest state

section Dispatch

variable {gateway : Gateway} {network : Network σ} {path : Text} {inbound : Inbound}
variable {fallback : Option Response} {matcher : Matcher} {target : Text}
variable {rest : List (Matcher × Text)} {state after : σ} {forwarded : Forwarded}

theorem dispatch_of_redirect (h : matcher.rule.kind ≠ .proxy) :
    gateway.dispatch network path inbound fallback ((matcher, target) :: rest) state =
      (redirect matcher.rule target, state) := by
  simp only [dispatch, if_neg h]

theorem dispatch_of_crash (h : matcher.rule.kind = .proxy)
    (hforward : (under matcher inbound).forward network gateway.backend target state =
      (forwarded, after))
    (hresponse : forwarded.response = none) :
    gateway.dispatch network path inbound fallback ((matcher, target) :: rest) state =
      (Answered.crashed.after forwarded.measurements, after) := by
  simp only [dispatch, if_pos h, hforward, hresponse]

theorem dispatch_of_soft {response : Response} (h : matcher.rule.kind = .proxy)
    (hforward : (under matcher inbound).forward network gateway.backend target state =
      (forwarded, after))
    (hresponse : forwarded.response = some response) (hsoft : isSoftFailure response) :
    gateway.dispatch network path inbound fallback ((matcher, target) :: rest) state =
      let last := gateway.dispatch network path inbound (some response) rest after
      (last.1.after forwarded.measurements, last.2) := by
  simp only [dispatch, if_pos h, hforward, hresponse, if_pos hsoft]

theorem dispatch_of_answered {response : Response} (h : matcher.rule.kind = .proxy)
    (hforward : (under matcher inbound).forward network gateway.backend target state =
      (forwarded, after))
    (hresponse : forwarded.response = some response) (hsoft : ¬ isSoftFailure response) :
    gateway.dispatch network path inbound fallback ((matcher, target) :: rest) state =
      ({ response, outcome := .proxy, measurements := forwarded.measurements }, after) := by
  simp only [dispatch, if_pos h, hforward, hresponse, if_neg hsoft]

theorem redirectTo_error_response {status : Nat} {failure : Failure}
    (h : redirectTo target status = .error failure) :
    failure.response = .plain 500 "Internal Server Error" := by
  rw [redirectTo] at h
  split at h
  · cases h
    rfl
  · cases h

theorem redirect_response (rule : Rule) (target : Text) :
    (redirect rule target).response =
      match redirectTo target rule.status with
      | .ok response => response
      | .error _ => .plain 500 "Internal Server Error" := by
  rw [redirect]
  cases h : redirectTo target rule.status with
  | ok response => rfl
  | error failure => exact redirectTo_error_response h

theorem attempts_of_redirect (h : matcher.rule.kind ≠ .proxy) :
    gateway.attempts network inbound ((matcher, target) :: rest) state =
      { matcher, target, forwarded := none, transcript := [] } ::
        gateway.attempts network inbound rest state := by
  simp only [attempts, if_neg h]

theorem attempts_of_proxy (h : matcher.rule.kind = .proxy)
    (hforward : (under matcher inbound).forward network gateway.backend target state =
      (forwarded, after)) :
    gateway.attempts network inbound ((matcher, target) :: rest) state =
      { matcher, target, forwarded := some forwarded,
        transcript :=
          (under matcher inbound).transcript network gateway.backend target state } ::
        gateway.attempts network inbound rest after := by
  simp only [attempts, if_pos h, hforward]

end Dispatch

variable (gateway : Gateway) (network : Network σ) (path : Text) (inbound : Inbound)

/-- Candidates are tried up to the first one that settles the request, which the
requests to the network show, and the last one tried gives the response. -/
theorem dispatch_attempts (candidates : List (Matcher × Text)) (fallback : Option Response)
    (state : σ) (earlier : Transcript) :
    let tried := Attempt.tried (gateway.attempts network inbound candidates state)
    gateway.dispatch network.logged path inbound fallback candidates (state, earlier) =
        Transcript.adding (tried.flatMap (·.transcript)) earlier
          (gateway.dispatch network path inbound fallback candidates state) ∧
      (gateway.dispatch network path inbound fallback candidates state).1.response =
        Attempt.lastResponse tried (fallback.getD Page.notFound) := by
  induction candidates generalizing fallback state earlier with
  | nil =>
    cases fallback with
    | none =>
      simp [dispatch, attempts, Attempt.tried, Attempt.lastResponse, Transcript.adding,
        Answered.failed, Failure.response]
    | some response =>
      simp [dispatch, attempts, Attempt.tried, Attempt.lastResponse, Transcript.adding]
  | cons candidate rest ih =>
    obtain ⟨matcher, target⟩ := candidate
    by_cases hkind : matcher.rule.kind = .proxy
    · obtain ⟨forwarded, after, hforward⟩ : ∃ forwarded after,
          (under matcher inbound).forward network gateway.backend target state =
            (forwarded, after) := ⟨_, _, rfl⟩
      have hlogged :=
        (under matcher inbound).forward_logged network gateway.backend target state earlier
      rw [hforward, Transcript.adding] at hlogged
      dsimp only
      rw [attempts_of_proxy hkind hforward]
      cases hresponse : forwarded.response with
      | none =>
        rw [Attempt.tried_cons_of_settles (by simp [Attempt.settles, hresponse]),
          dispatch_of_crash hkind hlogged hresponse, dispatch_of_crash hkind hforward hresponse,
          Attempt.lastResponse_singleton, Attempt.response]
        simp [Transcript.adding, Answered.after, hresponse]
      | some response =>
        by_cases hsoft : isSoftFailure response
        · rw [Attempt.tried_cons_of_not_settles (by simp [Attempt.settles, hresponse, hsoft]),
            dispatch_of_soft hkind hlogged hresponse hsoft,
            dispatch_of_soft hkind hforward hresponse hsoft,
            Attempt.lastResponse_cons, Attempt.response]
          obtain ⟨hrest, hlast⟩ := ih (some response) after
            (earlier ++ (under matcher inbound).transcript network gateway.backend target state)
          rw [hrest]
          simp [Transcript.adding, Answered.after, hresponse, hlast]
        · rw [Attempt.tried_cons_of_settles (by simp [Attempt.settles, hresponse, hsoft]),
            dispatch_of_answered hkind hlogged hresponse hsoft,
            dispatch_of_answered hkind hforward hresponse hsoft,
            Attempt.lastResponse_singleton, Attempt.response]
          simp [Transcript.adding, hresponse]
    · dsimp only
      rw [attempts_of_redirect hkind, Attempt.tried_cons_of_settles rfl,
        dispatch_of_redirect hkind, dispatch_of_redirect hkind, redirect_response,
        Attempt.lastResponse_singleton, Attempt.response]
      simp [Transcript.adding]

theorem map_attempts (candidates : List (Matcher × Text)) (state : σ) :
    (gateway.attempts network inbound candidates state).map
      (fun attempt => (attempt.matcher, attempt.target)) = candidates := by
  induction candidates generalizing state with
  | nil => rfl
  | cons candidate rest ih =>
    obtain ⟨matcher, target⟩ := candidate
    by_cases hkind : matcher.rule.kind = .proxy
    · rw [attempts_of_proxy hkind rfl, List.map_cons, ih]
    · rw [attempts_of_redirect hkind, List.map_cons, ih]

variable {gateway network path inbound}

/-- An attempt forwards the request under the mount of its rule if that is a
proxy rule, and asks for nothing otherwise. -/
theorem attempt_cases {candidates : List (Matcher × Text)} {state : σ} {attempt : Attempt}
    (h : attempt ∈ gateway.attempts network inbound candidates state) :
    attempt.matcher.rule.kind ≠ .proxy ∧ attempt.forwarded = none ∧ attempt.transcript = [] ∨
    attempt.matcher.rule.kind = .proxy ∧ ∃ before,
      attempt.forwarded = some ((under attempt.matcher inbound).forward network gateway.backend
        attempt.target before).1 ∧
      attempt.transcript = (under attempt.matcher inbound).transcript network gateway.backend
        attempt.target before := by
  induction candidates generalizing state with
  | nil => cases h
  | cons candidate rest ih =>
    obtain ⟨matcher, target⟩ := candidate
    by_cases hkind : matcher.rule.kind = .proxy
    · rw [attempts_of_proxy hkind rfl] at h
      rcases List.mem_cons.1 h with rfl | hrest
      · exact .inr ⟨hkind, state, rfl, rfl⟩
      · exact ih hrest
    · rw [attempts_of_redirect hkind] at h
      rcases List.mem_cons.1 h with rfl | hrest
      · exact .inl ⟨hkind, rfl, rfl⟩
      · exact ih hrest

/-- A body that is sent is the one of the client. -/
theorem body_of_mem_attempts {candidates : List (Matcher × Text)} {state : σ} {attempt : Attempt}
    (h : attempt ∈ gateway.attempts network inbound candidates state) {sent : Outbound × Answer}
    (hsent : sent ∈ attempt.transcript) {body : Bytes} (hbody : sent.1.body = some body) :
    inbound.body = some body := by
  rcases attempt_cases h with ⟨-, -, hnone⟩ | ⟨-, before, -, htranscript⟩
  · rw [hnone] at hsent
    cases hsent
  · obtain ⟨hop, hhop⟩ := Inbound.exists_hop_of_mem_transcript (htranscript ▸ hsent)
    rw [hhop, Inbound.request] at hbody
    exact (Option.ite_none_right_eq_some.1 hbody).2

section NotFound

theorem valuesOf_notFound (name : Text) (htype : name ≠ "content-type".toList)
    (hcache : name ≠ "cache-control".toList) : Page.notFound.headers.valuesOf name = [] := by
  have htype' : ¬ ("content-type".toList == name) = true := fun h => htype (eq_of_beq h).symm
  rw [Page.notFound, Headers.valuesOf_insert, if_neg hcache]
  exact congrArg (List.map Prod.snd) (List.filter_cons_of_neg htype')

theorem not_delivers_notFound (ending : Ending) (fetches : Nat) :
    ¬ ending.Delivers fetches (some Page.notFound) := by
  intro h
  cases ending with
  | answered current reply =>
    obtain ⟨response, hresponse, -, hstatus, -⟩ := h
    cases hresponse
    rw [valuesOf_notFound _ (by decide) (by decide)] at hstatus
    cases hstatus
  | failed current failure =>
    obtain ⟨response, hresponse, hstatus⟩ := h
    cases hresponse
    cases hstatus
  | overran =>
    obtain ⟨response, hresponse, hstatus⟩ := h
    cases hresponse
    cases hstatus
  | crashed => cases h

theorem forward_ne_notFound (network : Network σ) (inbound : Inbound) (limits : BackendLimits)
    (target : Text) (state : σ) :
    (inbound.forward network limits target state).1.response ≠ some Page.notFound := by
  intro h
  cases hurl : Url.parse target with
  | error error =>
    rw [Inbound.forward_of_error hurl] at h
    cases congrArg Response.status (Option.some.inj h)
  | ok url =>
    rw [Inbound.forward_of_ok hurl] at h
    dsimp only at h
    have hdelivers := Exchange.delivers_response?
      (Exchange.run network limits inbound url state).1 limits inbound.visit url
    rw [h] at hdelivers
    exact not_delivers_notFound _ _ hdelivers

theorem redirectTo_ne_notFound {target : Text} {status : Nat} {response : Response}
    (h : redirectTo target status = .ok response) : response ≠ Page.notFound := by
  rintro rfl
  rw [redirectTo] at h
  split at h
  · cases h
  · rename_i value hvalue
    have hlocation := valuesOf_notFound "location" (by decide) (by decide)
    rw [← Except.ok.inj h] at hlocation
    rw [Headers.valuesOf_secured (by decide) (by decide)] at hlocation
    simp [Headers.valuesOf] at hlocation

/-- No candidate gives the page for requests without one. -/
theorem response_ne_notFound {candidates : List (Matcher × Text)} {state : σ} {attempt : Attempt}
    (h : attempt ∈ gateway.attempts network inbound candidates state) :
    attempt.response ≠ Page.notFound := by
  have hplain : Answered.crashed.response ≠ Page.notFound := fun h => by
    cases congrArg Response.status h
  rw [Attempt.response]
  rcases attempt_cases h with ⟨-, hforwarded, -⟩ | ⟨-, before, hforwarded, -⟩
  · rw [hforwarded]
    cases hredirect : redirectTo attempt.target attempt.matcher.rule.status with
    | ok response => exact redirectTo_ne_notFound hredirect
    | error failure => exact hplain
  · rw [hforwarded]
    intro hpage
    cases hresponse : ((under attempt.matcher inbound).forward network gateway.backend
        attempt.target before).1.response with
    | none => exact hplain (by simpa [hresponse] using hpage)
    | some response =>
      refine forward_ne_notFound network (under attempt.matcher inbound) gateway.backend
        attempt.target before ?_
      simpa [hresponse] using hpage

end NotFound

/-- What the answer to a request has to be, given what would come of each
candidate: it is that of the first attempt that settles the request, or of the
last one if none does, and the network is asked for the attempts up to it. The
page for requests without a candidate is given in no other case. -/
structure Decides (candidates : List (Matcher × Text)) (attempts : List Attempt)
    (response : Response) (made : Transcript) : Prop where
  in_order : attempts.map (fun attempt => (attempt.matcher, attempt.target)) = candidates
  first : ∀ i attempt, attempts[i]? = some attempt → attempt.settles →
    (∀ j < i, ∀ earlier, attempts[j]? = some earlier → earlier.settles = false) →
    response = attempt.response ∧ made = (attempts.take (i + 1)).flatMap (·.transcript)
  last : (∀ attempt ∈ attempts, attempt.settles = false) →
    made = attempts.flatMap (·.transcript) ∧
      ∀ attempt, attempts.getLast? = some attempt → response = attempt.response
  not_found : response = Page.notFound ↔ candidates = []

theorem decides_lastResponse (gateway : Gateway) (network : Network σ) (inbound : Inbound)
    (candidates : List (Matcher × Text)) (state : σ) :
    let attempts := gateway.attempts network inbound candidates state
    Decides candidates attempts (Attempt.lastResponse (Attempt.tried attempts) Page.notFound)
      ((Attempt.tried attempts).flatMap (·.transcript)) := by
  constructor
  case in_order => exact gateway.map_attempts network inbound candidates state
  case first =>
    intro i attempt hi hsettles hearlier
    rw [Attempt.tried_of_first hi hsettles hearlier]
    refine ⟨?_, rfl⟩
    rw [Attempt.lastResponse, List.getLast?_take, if_neg (Nat.succ_ne_zero i), Nat.add_sub_cancel,
      hi]
    rfl
  case last =>
    intro hnone
    rw [Attempt.tried_of_none hnone]
    refine ⟨rfl, fun attempt hlast => ?_⟩
    rw [Attempt.lastResponse, hlast]
    rfl
  case not_found =>
    constructor
    · intro hpage
      cases hattempts : gateway.attempts network inbound candidates state with
      | nil =>
        rw [← gateway.map_attempts network inbound candidates state, hattempts]
        rfl
      | cons attempt rest =>
        have hne : gateway.attempts network inbound candidates state ≠ [] := by simp [hattempts]
        obtain ⟨tried, hmem, hlast⟩ := Attempt.exists_lastResponse_tried hne Page.notFound
        exact absurd (hlast.symm.trans hpage) (response_ne_notFound hmem)
    · rintro rfl
      rfl

section Handle

/-- The paths that the gateway answers itself. -/
def builtinPaths : List Text := ["/favicon.ico", "/robots.txt", "/sitemap.xml"]

/-- Without a proxy rule among the candidates it does not matter what would be
forwarded. -/
theorem dispatch_of_no_proxy {candidates : List (Matcher × Text)}
    (h : ¬ candidates.any (·.1.rule.kind = .proxy)) (other : Inbound) (state : σ) :
    gateway.dispatch network path other none candidates state =
      gateway.dispatch network path inbound none candidates state := by
  cases candidates with
  | nil => rfl
  | cons candidate rest =>
    obtain ⟨matcher, target⟩ := candidate
    have hkind : matcher.rule.kind ≠ .proxy := by
      intro hproxy
      simp [hproxy] at h
    rw [dispatch_of_redirect hkind, dispatch_of_redirect hkind]

/-- The path that a request is matched under. -/
def pathOf (router : Router) (request : Request) : Text :=
  router.effectivePath (Path.decode (Path.normalize request.target.path)) (referer? request)

/-- The candidates of a request in the order in which they are tried. -/
def candidatesOf (router : Router) (request : Request) : List (Matcher × Text) :=
  router.candidates (pathOf router request) request.target.query

variable {platform : Platform σ} {request : Request} {document : RuleDocument} {router : Router}
variable {source : Provenance} {kept : Memory} {after : σ}

theorem route_eq_dispatch (hinbound : Gateway.inbound request = .ok inbound) (state : σ) :
    gateway.route network router request (Path.normalize request.target.path) state =
      gateway.dispatch network (pathOf router request) inbound none (candidatesOf router request)
        state := by
  rw [route]
  split
  · rw [hinbound]
    rfl
  · rename_i hproxy
    exact dispatch_of_no_proxy hproxy {} state

/-- A request past the canonical check that is for none of the gateway's own paths
reaches the rules of the document that is served. -/
theorem handle_eq_route (platform : Platform σ) (running : Running σ)
    (hcanonical : gateway.canonical.redirect? request = none)
    (hpath : Path.normalize request.target.path ∉ builtinPaths)
    (hload : gateway.loader.load platform gateway.documentUrl running.memory running.platform =
      (.served document source, kept, after))
    (hrouter : Router.ofDocument? document gateway.compiles = some router) :
    gateway.handle platform request running =
      let routed := gateway.route platform.network router request
        (Path.normalize request.target.path) after
      ((routed.1.after (Loaded.served document source).measurements).recorded,
        { memory := kept, platform := routed.2 }) := by
  simp only [builtinPaths, List.mem_cons, List.not_mem_nil, or_false, not_or] at hpath
  obtain ⟨hicon, hrobots, hsitemap⟩ := hpath
  have hserve : gateway.answerLoaded platform.network request
      (Path.normalize request.target.path) (.served document source) after =
        gateway.route platform.network router request (Path.normalize request.target.path)
          after := by
    simp only [answerLoaded, hrouter, serve, if_neg hrobots, if_neg hsitemap]
  rw [handle, answer]
  simp only [hcanonical, if_neg hicon, hload, hserve]

/-- A request that reaches the rules is answered by trying candidates. -/
theorem handle_eq_dispatch (platform : Platform σ) (running : Running σ)
    (hcanonical : gateway.canonical.redirect? request = none)
    (hpath : Path.normalize request.target.path ∉ builtinPaths)
    (hload : gateway.loader.load platform gateway.documentUrl running.memory running.platform =
      (.served document source, kept, after))
    (hrouter : Router.ofDocument? document gateway.compiles = some router)
    (hinbound : Gateway.inbound request = .ok inbound) :
    gateway.handle platform request running =
      let dispatched := gateway.dispatch platform.network (pathOf router request) inbound none
        (candidatesOf router request) after
      ((dispatched.1.after (Loaded.served document source).measurements).recorded,
        { memory := kept, platform := dispatched.2 }) := by
  rw [handle_eq_route platform running hcanonical hpath hload hrouter, route_eq_dispatch hinbound]

/-- The record of a network holds the requests of the load and then those of the
attempts that are made, and changes nothing about the answer. -/
theorem handle_logged {memory : Memory} {state : σ}
    (hcanonical : gateway.canonical.redirect? request = none)
    (hpath : Path.normalize request.target.path ∉ builtinPaths)
    (hload : gateway.loader.load platform gateway.documentUrl memory state =
      (.served document source, kept, after))
    (hrouter : Router.ofDocument? document gateway.compiles = some router)
    (hinbound : Gateway.inbound request = .ok inbound) :
    gateway.handle platform.logged request { memory, platform := (state, []) } =
      let handled := gateway.handle platform request { memory, platform := state }
      (handled.1,
        { memory := kept,
          platform :=
            (handled.2.platform, Loader.transcript platform gateway.documentUrl memory state ++
              (Attempt.tried (gateway.attempts platform.network inbound
                (candidatesOf router request) after)).flatMap (·.transcript)) }) := by
  have hlogged := Loader.load_logged gateway.loader platform gateway.documentUrl memory state []
  rw [hload, List.nil_append] at hlogged
  rw [handle_eq_dispatch platform.logged { memory, platform := (state, []) } hcanonical hpath
      hlogged hrouter hinbound,
    handle_eq_dispatch platform { memory, platform := state } hcanonical hpath hload hrouter
      hinbound]
  dsimp only [Platform.logged]
  rw [(gateway.dispatch_attempts platform.network (pathOf router request) inbound
    (candidatesOf router request) none after _).1]
  rfl

theorem exists_inbound (h : request.bodyFailure = none) :
    ∃ inbound, Gateway.inbound request = .ok inbound ∧
      ∀ body, inbound.body = some body → body = request.body := by
  rw [Gateway.inbound]
  by_cases hcarries : Method.carriesBody request.method
  · simp [hcarries, h]
  · simp [hcarries]

/-- What it is to answer a request by trying the candidates of a document in
order: the answer and the requests to backends are those that the attempts
decide, behind the requests of the load, and each body among them is the body of
the request. -/
def AnswersInOrder (gateway : Gateway) (platform : Platform σ) (request : Request)
    (memory : Memory) (state : σ) (document : RuleDocument) (kept : Memory) (after : σ) : Prop :=
  ∃ router inbound made last,
    Router.ofDocument? document gateway.compiles = some router ∧
    Gateway.inbound request = .ok inbound ∧
    gateway.handle platform.logged request { memory, platform := (state, []) } =
      ((gateway.handle platform request { memory, platform := state }).1,
        { memory := kept,
          platform :=
            (last, Loader.transcript platform gateway.documentUrl memory state ++ made) }) ∧
    Decides (candidatesOf router request)
      (gateway.attempts platform.network inbound (candidatesOf router request) after)
      (gateway.handle platform request { memory, platform := state }).1.response made ∧
    ∀ sent ∈ made, ∀ body, sent.1.body = some body → body = request.body

/-- A request past the canonical check that is for none of the gateway's own
paths is answered in the order of the candidates, for every document with a slot
tree and every network. -/
theorem handle_answersInOrder (gateway : Gateway) (platform : Platform σ) (request : Request)
    (memory : Memory) (state : σ) (source : Provenance) (tree : Json.Members)
    (hcanonical : gateway.canonical.redirect? request = none)
    (hpath : Path.normalize request.target.path ∉ builtinPaths)
    (hbody : request.bodyFailure = none)
    (hload : gateway.loader.load platform gateway.documentUrl memory state =
      (.served document source, kept, after))
    (htree : document.tree? = some tree) :
    gateway.AnswersInOrder platform request memory state document kept after := by
  obtain ⟨inbound, hinbound, hbytes⟩ := exists_inbound hbody
  obtain ⟨router, hrouter⟩ :
      ∃ router, Router.ofDocument? document gateway.compiles = some router :=
    ⟨_, by rw [Router.ofDocument?, htree]; rfl⟩
  have hplain := handle_eq_dispatch platform { memory, platform := state } hcanonical hpath hload
    hrouter hinbound
  refine ⟨router, inbound,
    (Attempt.tried (gateway.attempts platform.network inbound (candidatesOf router request)
      after)).flatMap (·.transcript),
    (gateway.handle platform request { memory, platform := state }).2.platform, hrouter, hinbound,
    handle_logged hcanonical hpath hload hrouter hinbound, ?_, ?_⟩
  · rw [hplain]
    have hresponse := (gateway.dispatch_attempts platform.network (pathOf router request) inbound
      (candidatesOf router request) none after []).2
    have hdecides := gateway.decides_lastResponse platform.network inbound
      (candidatesOf router request) after
    exact hresponse ▸ hdecides
  · intro sent hsent body hsome
    obtain ⟨attempt, hattempt, hmem⟩ := List.mem_flatMap.1 hsent
    exact hbytes body (body_of_mem_attempts (List.mem_of_mem_take hattempt) hmem hsome)

/-- The text of a document with two proxy rules for one path. -/
def twoBackendsText : Text :=
  "\x7b\"slots\":\x7b\"/a\":[\x7b\"type\":\"proxy\",\"to\":\"http://x\"\x7d,".toList ++
    "\x7b\"type\":\"proxy\",\"to\":\"http://y\"\x7d]\x7d\x7d".toList

/-- The slot tree of that document. -/
def twoBackendsTree : Json.Members :=
  [("/a", .list
    [.object [("type", .text "proxy".toList), ("to", .text "http://x".toList)],
      .object [("type", .text "proxy".toList), ("to", .text "http://y".toList)]])]

/-- A platform that has the document, misses the page at the first backend and
has it at the second. -/
def twoBackends : Platform Unit where
  now _ := 0
  network request _ :=
    if request.url = "http://rules/".toList then
      ({ result := .reply { status := 200, body := Utf8.encode twoBackendsText } }, ())
    else if request.url = "http://x/".toList then ({ result := .reply { status := 404 } }, ())
    else ({ result := .reply { status := 200 } }, ())

/-- A gateway for the document. -/
def twoBackendsGateway : Gateway where
  source := { url := some "http://rules/".toList }
  bindings := {}
  backend := {}
  canonical := {}

theorem twoBackends_answersInOrder :
    twoBackendsGateway.AnswersInOrder twoBackends
      { method := "POST", target := .ofText "/a".toList, body := [1, 2] } [] ()
      { members := [("slots", .object twoBackendsTree)] }
      [("http://rules/".toList, { text := twoBackendsText, expiresAt := 3600000 })] () :=
  handle_answersInOrder twoBackendsGateway twoBackends _ [] () .network twoBackendsTree
    (by decide) (by decide) rfl (by rfl) rfl

end Handle

end Gateway

end RuleGateway
