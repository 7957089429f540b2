import RuleGateway.Proofs.Backend.Redirection

/-!
# What a backend sees of a client

The fields of a connection and of the platform do not reach a backend, and the fields that
say who forwards a request are the gateway's own, whatever a client sent under these names
(`valuesOf_forwardedHeaders`). Requests that differ in such fields alone therefore look the
same to every backend on every hop, and get the same response (`forward_agrees`).
-/

namespace RuleGateway

/-- What a backend sees of a request. The order of fields with different names carries no
meaning, so what it sees of them is the values of every name. -/
structure Sight where
  method : Text
  url : Text
  valuesOf : Text → List Bytes
  body : Option Bytes

def Outbound.sight (request : Outbound) : Sight where
  method := request.method
  url := request.url
  valuesOf := request.headers.valuesOf
  body := request.body

/-- The network of backends that answer to what they see, in any way. -/
def Network.ofSight {σ : Type} (answer : Sight → σ → Answer × σ) : Network σ :=
  fun request state => answer request.sight state

namespace Inbound

/-- The names that a client's request may have any values for without a backend seeing
them. -/
def unseenFields (mount : Option Text) : List Text :=
  ["host".toList, "connection", "keep-alive", "transfer-encoding", "upgrade",
    "proxy-authenticate", "proxy-authorization", "te", "trailer", "content-length",
    "cf-connecting-ip", "cf-ipcountry", "cf-ray", "cf-visitor", "x-forwarded-host",
    "x-forwarded-proto", "origin", "referer"] ++
    if mount.isSome then ["accept-encoding".toList] else []

/-- Two requests that differ at most in fields that backends do not see. -/
structure Agrees (a b : Inbound) : Prop where
  method_eq : a.method = b.method
  body_eq : a.body = b.body
  visit_eq : a.visit = b.visit
  values_eq : ∀ name ∉ unseenFields a.visit.mount,
    a.headers.valuesOf name = b.headers.valuesOf name

theorem agrees_of_removeAll {a b : Inbound} (hmethod : a.method = b.method)
    (hbody : a.body = b.body) (hvisit : a.visit = b.visit)
    (hheaders : a.headers.removeAll (unseenFields a.visit.mount) =
      b.headers.removeAll (unseenFields a.visit.mount)) : a.Agrees b := by
  refine ⟨hmethod, hbody, hvisit, fun name hname => ?_⟩
  have hvalues := congrArg (·.valuesOf name) hheaders
  simpa only [Headers.valuesOf_removeAll, if_neg hname] using hvalues

end Inbound

/-- A request for a page as it is sent for a client: of what backends do not see of the
client, nothing is the client's choice, and of everything else nothing is lost. -/
structure Outbound.IsShielded (inbound : Inbound) (page : Url) (request : Outbound) : Prop where
  url_eq : request.url = page.render
  none_dropped : ∀ name ∈ Inbound.droppedFields, request.headers.valuesOf name = []
  forwarded_host : request.headers.valuesOf "x-forwarded-host" =
    [(inbound.visit.host.bind HeaderValue.ofText?).getD []]
  forwarded_proto : request.headers.valuesOf "x-forwarded-proto" = [Utf8.encode "https"]
  origin : request.headers.valuesOf "origin" = [Utf8.encode page.renderOrigin]
  referer : request.headers.valuesOf "referer" = [Utf8.encode page.render]
  encoding : inbound.visit.mount.isSome →
    request.headers.valuesOf "accept-encoding" = [Utf8.encode "identity"]
  kept : ∀ name ∉ Inbound.unseenFields inbound.visit.mount,
    request.headers.valuesOf name = inbound.headers.valuesOf name

namespace Inbound

section Request

variable {a b : Inbound} {current : Url}

/-- The values of every name in the request for a page. -/
theorem valuesOf_forwardedHeaders (inbound : Inbound) (hcurrent : current.IsClean) (name : Text) :
    (inbound.forwardedHeaders current).valuesOf name =
      if name = "accept-encoding".toList ∧ inbound.visit.mount.isSome then [Utf8.encode "identity"]
      else if name = "referer".toList then [Utf8.encode current.render]
      else if name = "origin".toList then [Utf8.encode current.renderOrigin]
      else if name = "x-forwarded-proto".toList then [Utf8.encode "https"]
      else if name = "x-forwarded-host".toList then
        [(inbound.visit.host.bind HeaderValue.ofText?).getD []]
      else if name ∈ droppedFields then []
      else inbound.headers.valuesOf name := by
  have hreferer := HeaderValue.ofText?_of_isPrintable hcurrent.isPrintable_render
  have horigin := HeaderValue.ofText?_of_isPrintable hcurrent.isPrintable_renderOrigin
  rw [forwardedHeaders]
  simp only [setText, hreferer, horigin]
  cases inbound.visit.mount.isSome with
  | true => simp only [if_true, and_true, Headers.valuesOf_insert, Headers.valuesOf_removeAll]
  | false =>
    simp only [Bool.false_eq_true, if_false, and_false, Headers.valuesOf_insert,
      Headers.valuesOf_removeAll]

/-- What is not seen is set by the gateway or dropped. -/
theorem mem_unseenFields_iff {mount : Option Text} {name : Text} :
    name ∈ unseenFields mount ↔
      (name = "accept-encoding".toList ∧ mount.isSome) ∨ name = "referer".toList ∨
        name = "origin".toList ∨ name = "x-forwarded-proto".toList ∨
        name = "x-forwarded-host".toList ∨ name ∈ droppedFields := by
  have hforth : unseenFields none ⊆ "referer".toList :: "origin".toList ::
      "x-forwarded-proto".toList :: "x-forwarded-host".toList :: droppedFields := by decide
  have hback : "referer".toList :: "origin".toList :: "x-forwarded-proto".toList ::
      "x-forwarded-host".toList :: droppedFields ⊆ unseenFields none := by decide
  have hfixed : name ∈ unseenFields none ↔ name = "referer".toList ∨ name = "origin".toList ∨
      name = "x-forwarded-proto".toList ∨ name = "x-forwarded-host".toList ∨
      name ∈ droppedFields := by
    have hsame := Iff.intro (@hforth name) (@hback name)
    simpa only [List.mem_cons] using hsame
  rw [← hfixed]
  cases mount with
  | none => simp
  | some mount =>
    rw [show unseenFields (some mount) = unseenFields none ++ ["accept-encoding".toList] from rfl,
      List.mem_append, List.mem_singleton, or_comm]
    simp

theorem isShielded_request (inbound : Inbound) (method : Text) (hcurrent : current.IsClean) :
    (inbound.request method current).IsShielded inbound current := by
  have hvalues := valuesOf_forwardedHeaders inbound hcurrent
  constructor
  case url_eq => rfl
  case none_dropped =>
    have hother : ∀ name ∈ droppedFields, name ≠ "accept-encoding".toList ∧
        name ≠ "referer".toList ∧ name ≠ "origin".toList ∧ name ≠ "x-forwarded-proto".toList ∧
        name ≠ "x-forwarded-host".toList := by decide
    intro name hname
    obtain ⟨hencoding, hreferer, horigin, hproto, hhost⟩ := hother name hname
    rw [request, hvalues]
    simp only [hencoding, hreferer, horigin, hproto, hhost, hname, false_and, if_false, if_true]
  case encoding =>
    intro hmount
    rw [request, hvalues, if_pos ⟨rfl, hmount⟩]
  case kept =>
    intro name hname
    rw [mem_unseenFields_iff] at hname
    simp only [not_or] at hname
    obtain ⟨hencoding, hreferer, horigin, hproto, hhost, hdropped⟩ := hname
    rw [request, hvalues, if_neg hencoding, if_neg hreferer, if_neg horigin, if_neg hproto,
      if_neg hhost, if_neg hdropped]
  all_goals
    rw [request, hvalues, if_neg (fun h => absurd h.1 (by decide))]
    rfl

theorem sight_request (h : a.Agrees b) (method : Text) (hcurrent : current.IsClean) :
    (a.request method current).sight = (b.request method current).sight := by
  have hvalues : (a.forwardedHeaders current).valuesOf = (b.forwardedHeaders current).valuesOf := by
    funext name
    rw [valuesOf_forwardedHeaders a hcurrent, valuesOf_forwardedHeaders b hcurrent, ← h.visit_eq]
    by_cases hunseen : name ∈ unseenFields a.visit.mount
    · rcases mem_unseenFields_iff.1 hunseen with hname | hname | hname | hname | hname | hname
      all_goals simp only [hname, and_self, if_true]
    · rw [h.values_eq name hunseen]
  simp only [request, Outbound.sight, hvalues, h.body_eq]

end Request

end Inbound

/-- Two exchanges that look the same to the backends and bring the same replies. -/
structure Exchange.LooksLike (e other : Exchange) : Prop where
  requests_eq : e.requests.map Outbound.sight = other.requests.map Outbound.sight
  replies_eq : e.replies = other.replies
  ending_eq : e.ending = other.ending

namespace Exchange

variable {σ : Type} {answer : Sight → σ → Answer × σ} {timeout : Nat} {a b inbound : Inbound}

theorem LooksLike.lone {request other : Outbound} (h : request.sight = other.sight)
    (ending : Ending) : (lone request ending).LooksLike (lone other ending) := by
  cases ending <;> exact ⟨congrArg (fun sight => [sight]) h, rfl, rfl⟩

theorem LooksLike.replied {request other : Outbound} {rest next : Exchange}
    (hrest : rest.LooksLike next) (h : request.sight = other.sight) (reply : Reply) :
    (replied request reply rest).LooksLike (replied other reply next) where
  requests_eq := List.cons_eq_cons.2 ⟨h, hrest.requests_eq⟩
  replies_eq := congrArg (reply :: ·) hrest.replies_eq
  ending_eq := hrest.ending_eq

/-- Requests that agree take the same course with every network of backends that answer to
what they see. -/
theorem follow_agrees (h : a.Agrees b) {left spent : Nat} {method : Text} {start : Url} {state : σ}
    (hstart : start.IsClean) :
    let ofA := follow (.ofSight answer) timeout a left spent method start state
    let ofB := follow (.ofSight answer) timeout b left spent method start state
    ofA.1.LooksLike ofB.1 ∧ ofA.2 = ofB.2 := by
  induction left, spent, method, start, state
    using follow_induction (.ofSight answer) timeout a with
  | @stop left spent method start state given after ending hstep hstop =>
    have hsight := Inbound.sight_request h method hstart
    have hother : Network.ofSight answer (b.request method start) state = (given, after) := by
      rw [← hstep, Network.ofSight, Network.ofSight, hsight]
    rw [follow_of_stop hstep hstop, follow_of_stop hother hstop]
    exact ⟨.lone hsight ending, rfl⟩
  | @redirect left spent method start state given after reply next hstep htime hresult hnext ih =>
    have hsight := Inbound.sight_request h method hstart
    have hother : Network.ofSight answer (b.request method start) state = (given, after) := by
      rw [← hstep, Network.ofSight, Network.ofSight, hsight]
    rw [follow_of_redirect hstep htime hresult hnext,
      follow_of_redirect hother htime hresult hnext]
    obtain ⟨-, -, location, -, hjoin⟩ := Reply.next?_eq_some_iff.1 hnext
    obtain ⟨hrest, hstate⟩ := ih (Url.isClean_of_join hstart hjoin)
    exact ⟨hrest.replied hsight reply, hstate⟩

theorem run_agrees (h : a.Agrees b) (answer : Sight → σ → Answer × σ) (limits : BackendLimits)
    {target : Url} (htarget : target.IsClean) (state : σ) :
    let ofA := run (.ofSight answer) limits a target state
    let ofB := run (.ofSight answer) limits b target state
    ofA.1.LooksLike ofB.1 ∧ ofA.2 = ofB.2 := by
  dsimp only
  rw [run, run, h.method_eq]
  exact follow_agrees h htarget

theorem LooksLike.followed_eq {e other : Exchange} (h : e.LooksLike other) :
    e.followed = other.followed := by
  have hlength := congrArg List.length h.requests_eq
  rw [List.length_map, List.length_map] at hlength
  rw [followed, followed, hlength]

theorem LooksLike.response?_eq {e other : Exchange} (h : e.LooksLike other) (limits : BackendLimits)
    (visit : Location.Visit) (target : Url) :
    e.response? limits visit target = other.response? limits visit target := by
  rw [response?, response?, h.ending_eq, h.followed_eq]

theorem LooksLike.measurements_eq {e other : Exchange} (h : e.LooksLike other) :
    e.measurements = other.measurements := by
  rw [measurements, measurements, h.replies_eq, h.ending_eq, h.followed_eq]

/-- Every request of an exchange is for a clean page. -/
theorem exists_clean_of_mem_requests {network : Network σ} {left spent : Nat} {method : Text}
    {start : Url} {state : σ} (hstart : start.IsClean) {request : Outbound}
    (h : request ∈ (follow network timeout inbound left spent method start state).1.requests) :
    ∃ method page, Url.IsClean page ∧ request = inbound.request method page := by
  induction left, spent, method, start, state
    using follow_induction network timeout inbound with
  | @stop left spent method start state answer after ending hstep hstop =>
    rw [follow_of_stop hstep hstop, lone_requests, List.mem_singleton] at h
    exact ⟨method, start, hstart, h⟩
  | @redirect left spent method start state answer after reply next hstep htime hresult hnext ih =>
    rw [follow_of_redirect hstep htime hresult hnext] at h
    obtain ⟨-, -, location, -, hjoin⟩ := Reply.next?_eq_some_iff.1 hnext
    rcases List.mem_cons.1 h with hfirst | hrest
    · exact ⟨method, start, hstart, hfirst⟩
    · exact ih (Url.isClean_of_join hstart hjoin) hrest

end Exchange

namespace Inbound

variable {σ : Type} {a b : Inbound}

/-- The requests of a forwarded request are those of its exchange. -/
theorem transcript_requests {inbound : Inbound} {network : Network σ} {limits : BackendLimits}
    {target : Text} {url : Url} (hurl : Url.parse target = .ok url) (state : σ) :
    (inbound.transcript network limits target state).map (·.1) =
      (Exchange.run network limits inbound url state).1.requests := by
  rw [transcript, hurl]
  exact Exchange.follow_requests.symm

theorem transcript_agrees (h : a.Agrees b) (answer : Sight → σ → Answer × σ)
    (limits : BackendLimits) (target : Text) (state : σ) :
    (a.transcript (.ofSight answer) limits target state).map (·.1.sight) =
      (b.transcript (.ofSight answer) limits target state).map (·.1.sight) := by
  cases hurl : Url.parse target with
  | error error => rw [transcript, transcript, hurl]
  | ok url =>
    obtain ⟨hlooks, -⟩ := Exchange.run_agrees h answer limits (Url.isClean_of_parse hurl) state
    have hrequests := hlooks.requests_eq
    rwa [← transcript_requests hurl, ← transcript_requests hurl, List.map_map, List.map_map]
      at hrequests

theorem forward_eq_of_agrees (h : a.Agrees b) (answer : Sight → σ → Answer × σ)
    (limits : BackendLimits) (target : Text) (state : σ) :
    a.forward (.ofSight answer) limits target state =
      b.forward (.ofSight answer) limits target state := by
  cases hurl : Url.parse target with
  | error error => rw [forward_of_error hurl, forward_of_error hurl]
  | ok url =>
    obtain ⟨hlooks, hstate⟩ :=
      Exchange.run_agrees h answer limits (Url.isClean_of_parse hurl) state
    rw [forward_of_ok hurl, forward_of_ok hurl]
    dsimp only
    rw [hlooks.response?_eq, hlooks.measurements_eq, hstate, h.visit_eq]

/-- Every request that is sent for a client is shielded, whatever the network is. -/
theorem exists_isShielded {inbound : Inbound} {network : Network σ} {limits : BackendLimits}
    {target : Text} {state : σ} {sent : Outbound × Answer}
    (h : sent ∈ inbound.transcript network limits target state) :
    ∃ page, sent.1.IsShielded inbound page := by
  cases hurl : Url.parse target with
  | error error =>
    rw [transcript, hurl] at h
    cases h
  | ok url =>
    have hmem := transcript_requests hurl state ▸ List.mem_map_of_mem h
    obtain ⟨method, page, hpage, hsent⟩ :=
      Exchange.exists_clean_of_mem_requests (Url.isClean_of_parse hurl) hmem
    exact ⟨page, hsent ▸ isShielded_request inbound method hpage⟩

/-- Requests that differ in what backends do not see are the same to them on every hop and
get the same response, and this is because no backend is sent anything of that. -/
theorem forward_agrees (h : a.Agrees b) (limits : BackendLimits) (target : Text) (state : σ) :
    (∀ answer : Sight → σ → Answer × σ,
      (a.transcript (.ofSight answer) limits target state).map (·.1.sight) =
          (b.transcript (.ofSight answer) limits target state).map (·.1.sight) ∧
        a.forward (.ofSight answer) limits target state =
          b.forward (.ofSight answer) limits target state) ∧
      ∀ network : Network σ, ∀ sent ∈ a.transcript network limits target state,
        ∃ page, sent.1.IsShielded a page :=
  ⟨fun answer => ⟨transcript_agrees h answer limits target state,
    forward_eq_of_agrees h answer limits target state⟩, fun _ _ => exists_isShielded⟩

/-- A request below a mount. -/
def plain : Inbound where
  headers := [("cookie", Utf8.encode "theme=dark")]
  visit := { host := some "site.example", mount := some "/docs" }

/-- The same request from a client that makes up fields of the platform, its connection and
the forwarding. -/
def spoofed : Inbound where
  headers :=
    [("host", Utf8.encode "other.example"), ("cf-ray", Utf8.encode "1"),
      ("x-forwarded-proto", Utf8.encode "http"), ("cookie", Utf8.encode "theme=dark"),
      ("te", Utf8.encode "trailers"), ("cf-ray", Utf8.encode "2"),
      ("accept-encoding", Utf8.encode "gzip"), ("origin", Utf8.encode "https://other.example")]
  visit := plain.visit

/-- A backend that redirects once and then lets nobody in who seems to come over http. -/
def guardedBackend (sight : Sight) (hop : Nat) : Answer × Nat :=
  let reply : Reply :=
    if hop = 0 then loginReply
    else { status := if Utf8.encode "http" ∈ sight.valuesOf "x-forwarded-proto" then 403 else 200 }
  ({ result := .reply reply }, hop + 1)

theorem spoofed_forward :
    spoofed.Agrees plain ∧
      (spoofed.transcript (.ofSight guardedBackend) {} "https://[::1]/" 0).length = 2 ∧
      (spoofed.forward (.ofSight guardedBackend) {} "https://[::1]/" 0).1.response.map (·.status) =
        some 200 ∧
      spoofed.forward (.ofSight guardedBackend) {} "https://[::1]/" 0 =
        plain.forward (.ofSight guardedBackend) {} "https://[::1]/" 0 := by
  have hagrees : spoofed.Agrees plain := agrees_of_removeAll rfl rfl rfl (by decide)
  exact ⟨hagrees, by decide +kernel, by decide +kernel,
    ((forward_agrees hagrees {} "https://[::1]/" 0).1 guardedBackend).2⟩

end Inbound

end RuleGateway
