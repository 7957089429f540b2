import RuleGateway.Proofs.Backend.Shielding
import RuleGateway.Proofs.Text.Runs

/-!
# Fields that reach the client

A reply is delivered with its own fields except for a few names: those of the backend's
connection and its policies are withheld, those that tell about the exchange are the
gateway's own, and cookies, the length of a changed page and the location are rewritten.
`Delivery.HasFields` says for every name what its values are. A location that cannot be
written stays as it was (`forward_fields`), and a field of the connection that only
requests are cleared of reaches the client (`forward_connectionFields`).
-/

namespace RuleGateway

section Answered

variable {σ : Type} {inbound : Inbound} {network : Network σ} {limits : BackendLimits}
variable {target : Text} {state : σ} {url current : Url} {followed : Nat} {reply : Reply}

/-- A request that is forwarded to a target is answered: after some redirects a page gives
the reply that is delivered. -/
structure Inbound.IsAnswered (inbound : Inbound) (network : Network σ) (limits : BackendLimits)
    (target : Text) (state : σ) (url current : Url) (followed : Nat) (reply : Reply) : Prop where
  parse_eq : Url.parse target = .ok url
  ending_eq : (Exchange.run network limits inbound url state).1.ending = .answered current reply
  followed_eq : (Exchange.run network limits inbound url state).1.followed = followed

/-- What the client gets for a reply. -/
theorem Inbound.IsAnswered.response_eq
    (h : inbound.IsAnswered network limits target state url current followed reply) :
    (inbound.forward network limits target state).1.response =
      some (Delivery.response inbound.visit current url followed reply) := by
  rw [forward_of_ok h.parse_eq]
  dsimp only
  rw [Exchange.response?, h.ending_eq, h.followed_eq]

/-- The network whose only reply is a given one. -/
def Network.always (reply : Reply) : Network Unit := fun _ _ => ({ result := .reply reply }, ())

theorem Inbound.isAnswered_always (hparse : Url.parse target = .ok url)
    (hlast : limits.maxRedirects = 0 ∨ reply.next? url = none) :
    inbound.IsAnswered (.always reply) limits target () url url 0 reply := by
  have hstop : Exchange.stop? limits.timeout.millis limits.maxRedirects 0 url
      { result := .reply reply } = some (.answered url reply) := by
    rw [Exchange.stop?]
    exact (if_neg (Nat.not_lt_zero _)).trans (if_pos hlast)
  have hrun : Exchange.run (.always reply) limits inbound url () =
      (Exchange.lone (inbound.request inbound.method url) (.answered url reply), ()) :=
    Exchange.follow_of_stop rfl hstop
  exact ⟨hparse, by rw [hrun]; rfl, by rw [hrun]; rfl⟩

end Answered

namespace Cookie

/-- Without its domain a cookie has no other characters. -/
theorem withoutDomain_subset (cookie : Text) :
    ∀ c ∈ withoutDomain cookie, c = ';' ∨ c ∈ cookie := by
  intro c hc
  refine (Text.mem_join hc).imp id ?_
  rintro ⟨part, hpart, hmem⟩
  have hkept : part ∈ Text.split ';' cookie := by
    rw [keptParts] at hpart
    split at hpart
    · cases hpart
    · rename_i pair attributes hsplit
      rw [hsplit]
      rcases List.mem_cons.1 hpart with rfl | hattribute
      · exact List.mem_cons_self
      · exact List.mem_cons_of_mem pair (List.mem_filter.1 hattribute).1
  exact (Text.of_mem_split hkept).1.subset hmem

end Cookie

namespace Delivery

section Values

variable {name : Text} (visit : Location.Visit) (current target : Url) (followed : Nat)
variable (reply : Reply)

theorem location?_removeAll (headers : Headers) :
    location? (headers.removeAll Inbound.hopFields) = location? headers := by
  rw [location?, Headers.get?, Headers.valuesOf_removeAll, if_neg (by decide)]
  rfl

/-- The fields before a mounted page loses its length. -/
theorem valuesOf_headers (hlocation : name ≠ "location".toList)
    (hcookie : name ≠ "set-cookie".toList) :
    (headers visit current target followed reply).valuesOf name =
      (withReport (reply.headers.removeAll Inbound.hopFields) reply.status
        followed).secured.valuesOf name := by
  rw [headers, valuesOf_withLocation _ _ _ _ _ hlocation, valuesOf_withCookies _ hcookie]

/-- The names whose values the steps before cookies and location change. -/
def altered : List Text :=
  Headers.foreignPolicies ++ ["strict-transport-security".toList] ++ reported ++ Inbound.hopFields

theorem valuesOf_secured_withReport (h : name ∉ altered) :
    (withReport (reply.headers.removeAll Inbound.hopFields) reply.status
      followed).secured.valuesOf name = reply.headers.valuesOf name := by
  simp only [altered, List.mem_append, List.mem_singleton, not_or] at h
  obtain ⟨⟨⟨hpolicy, hsts⟩, hreported⟩, hhop⟩ := h
  rw [Headers.valuesOf_secured hpolicy hsts, valuesOf_withReport _ _ _ hreported,
    Headers.valuesOf_removeAll, if_neg hhop]

theorem isPage_headers :
    isPage (headers visit current target followed reply) = isPage reply.headers := by
  have hvalues : (headers visit current target followed reply).valuesOf "content-type" =
      reply.headers.valuesOf "content-type" := by
    rw [valuesOf_headers _ _ _ _ _ (by decide) (by decide),
      valuesOf_secured_withReport _ _ (by decide +kernel)]
  rw [isPage, isPage, Headers.text?, Headers.text?, Headers.get?, Headers.get?, hvalues]

/-- Whether the links of a reply are moved below the mount. -/
def movesLinks (mount : Option Text) (reply : Reply) : Bool := mount.isSome && isPage reply.headers

theorem response_of_movesLinks {mount : Text} (hmount : visit.mount = some mount)
    (hpage : isPage reply.headers) :
    response visit current target followed reply =
      { status := reply.status,
        headers := (headers visit current target followed reply).remove "content-length",
        body := Utf8.encode (Links.mount mount (Utf8.decodeLossy reply.body)) } := by
  rw [response, hmount]
  dsimp only
  rw [if_pos (by rwa [isPage_headers])]

theorem response_of_not_movesLinks (h : movesLinks visit.mount reply = false) :
    response visit current target followed reply =
      { status := reply.status, headers := headers visit current target followed reply,
        body := reply.body } := by
  rw [response]
  cases hmount : visit.mount with
  | none => rfl
  | some mount =>
    have hpage : isPage reply.headers = false := by
      rw [movesLinks, hmount] at h
      exact h
    rw [isPage_headers, hpage]
    rfl

/-- The names that no response has: those of the backend's connection, and its policies. -/
def withheld : List Text :=
  ["connection", "transfer-encoding", "upgrade", "proxy-authenticate", "proxy-authorization", "te",
    "trailer", "content-security-policy", "content-security-policy-report-only", "x-frame-options"]

/-- The names whose values are not those of the reply, or may not be. -/
def governed : List Text :=
  withheld ++
    ["strict-transport-security".toList, "x-upstream-status", "x-upstream-location",
      "x-proxy-redirects-followed", "location", "set-cookie", "content-length"]

theorem valuesOf_response_withheld (h : name ∈ withheld) :
    (response visit current target followed reply).headers.valuesOf name = [] := by
  have hother : ∀ name ∈ withheld, name ≠ "content-length".toList ∧ name ≠ "location".toList ∧
      name ≠ "set-cookie".toList ∧ name ≠ "strict-transport-security".toList ∧
      name ∉ reported := by decide +kernel
  obtain ⟨hlength, hlocation, hcookie, hsts, hreport⟩ := hother name h
  rw [valuesOf_response _ _ _ _ _ hlength, valuesOf_headers _ _ _ _ _ hlocation hcookie]
  have hpart : ∀ name ∈ withheld, name ∈ Headers.foreignPolicies ∨
      name ∉ Headers.foreignPolicies ∧ name ∈ Inbound.hopFields := by decide +kernel
  rcases hpart name h with hpolicy | ⟨hpolicy, hhop⟩
  · rw [Headers.secured, Headers.valuesOf_insert, if_neg hsts, Headers.valuesOf_removeAll,
      if_pos hpolicy]
  · rw [Headers.valuesOf_secured hpolicy hsts, valuesOf_withReport _ _ _ hreport,
      Headers.valuesOf_removeAll, if_pos hhop]

theorem valuesOf_response_security :
    (response visit current target followed reply).headers.valuesOf "strict-transport-security" =
      [Utf8.encode Headers.transportSecurity] := by
  rw [valuesOf_response _ _ _ _ _ (by decide), valuesOf_headers _ _ _ _ _ (by decide) (by decide),
    Headers.secured, Headers.valuesOf_insert, if_pos rfl]

theorem valuesOf_response_reported_location :
    (response visit current target followed reply).headers.valuesOf "x-upstream-location" =
      [((location? reply.headers).bind HeaderValue.ofText?).getD []] := by
  rw [valuesOf_response_of_not_mem_reworked _ _ _ _ _ (by decide +kernel), withReport,
    location?_removeAll, Headers.valuesOf_insert, if_neg (by decide), Headers.valuesOf_insert, if_pos rfl]

theorem valuesOf_response_cookies :
    (response visit current target followed reply).headers.valuesOf "set-cookie" =
      (reply.headers.valuesOf "set-cookie").filterMap cookie? := by
  rw [valuesOf_response _ _ _ _ _ (by decide), headers,
    valuesOf_withLocation _ _ _ _ _ (by decide), withCookies, Headers.valuesOf_replace, if_pos rfl,
    valuesOf_secured_withReport _ _ (by decide +kernel)]

/-- A cookie that a backend could send can be passed on without its domain. -/
theorem cookie?_of_isAllowed {value : Bytes} (h : HeaderValue.isAllowed value) :
    cookie? value = some (Utf8.encode (Cookie.withoutDomain (Utf8.decodeLossy value))) := by
  refine HeaderValue.ofText?_of_isWritable fun c hc => ?_
  rcases Cookie.withoutDomain_subset _ c hc with rfl | hmem
  · decide
  · exact HeaderValue.isWritable_decodeLossy h c hmem

theorem valuesOf_response_length :
    (response visit current target followed reply).headers.valuesOf "content-length" =
      if movesLinks visit.mount reply then [] else reply.headers.valuesOf "content-length" := by
  cases hmoves : movesLinks visit.mount reply with
  | true =>
    rw [movesLinks, Bool.and_eq_true] at hmoves
    obtain ⟨mount, hmount⟩ := Option.isSome_iff_exists.1 hmoves.1
    rw [response_of_movesLinks _ _ _ _ _ hmount hmoves.2, Headers.valuesOf_remove, if_pos rfl,
      if_pos rfl]
  | false =>
    rw [response_of_not_movesLinks _ _ _ _ _ hmoves, if_neg Bool.false_ne_true,
      valuesOf_headers _ _ _ _ _ (by decide) (by decide),
      valuesOf_secured_withReport _ _ (by decide +kernel)]

theorem valuesOf_response_other (h : name ∉ governed) :
    (response visit current target followed reply).headers.valuesOf name =
      reply.headers.valuesOf name := by
  have hsub : altered ++ ["location".toList, "set-cookie", "content-length"] ⊆ governed := by
    decide +kernel
  have hother : name ∉ altered ++ ["location".toList, "set-cookie", "content-length"] :=
    fun hmem => h (hsub hmem)
  simp only [List.mem_append, List.mem_cons, List.not_mem_nil, or_false, not_or] at hother
  obtain ⟨haltered, hlocation, hcookie, hlength⟩ := hother
  rw [valuesOf_response _ _ _ _ _ hlength, valuesOf_headers _ _ _ _ _ hlocation hcookie,
    valuesOf_secured_withReport _ _ haltered]

end Values

/-- The values of every name in a response but its location: none of what is withheld, one
of what the gateway says itself, and the reply's own of every name that is not governed. -/
structure HasFields (mount : Option Text) (followed : Nat) (reply : Reply) (response : Response) :
    Prop where
  none_withheld : ∀ name ∈ withheld, response.headers.valuesOf name = []
  security : response.headers.valuesOf "strict-transport-security" =
    [Utf8.encode "max-age=63072000; includeSubDomains"]
  status : response.headers.valuesOf "x-upstream-status" = [Utf8.encode (Text.ofNat reply.status)]
  location : response.headers.valuesOf "x-upstream-location" =
    [((location? reply.headers).bind HeaderValue.ofText?).getD []]
  followed : response.headers.valuesOf "x-proxy-redirects-followed" =
    [Utf8.encode (Text.ofNat followed)]
  cookies : response.headers.valuesOf "set-cookie" =
    (reply.headers.valuesOf "set-cookie").filterMap cookie?
  cookies_kept : ∀ value ∈ reply.headers.valuesOf "set-cookie", HeaderValue.isAllowed value →
    cookie? value = some (Utf8.encode (Cookie.withoutDomain (Utf8.decodeLossy value)))
  length : response.headers.valuesOf "content-length" =
    if movesLinks mount reply then [] else reply.headers.valuesOf "content-length"
  other : ∀ name ∉ governed, response.headers.valuesOf name = reply.headers.valuesOf name

theorem hasFields_response (visit : Location.Visit) (current target : Url) (followed : Nat)
    (reply : Reply) :
    HasFields visit.mount followed reply (response visit current target followed reply) where
  none_withheld _ h := valuesOf_response_withheld _ _ _ _ _ h
  security := valuesOf_response_security ..
  status := valuesOf_response_status ..
  location := valuesOf_response_reported_location ..
  followed := valuesOf_response_followed ..
  cookies := valuesOf_response_cookies ..
  cookies_kept _ _ h := cookie?_of_isAllowed h
  length := valuesOf_response_length ..
  other _ h := valuesOf_response_other _ _ _ _ _ h

/-- The only location of a response is the rewritten one; a response has none if there is
nothing to rewrite, or if the rewritten address cannot be written. -/
def HasRewrittenLocation (visit : Location.Visit) (current target : Url) (reply : Reply)
    (response : Response) : Prop :=
  response.headers.valuesOf "location" =
    ((address? visit current target reply).bind Location.value?).toList

theorem hasRewrittenLocation_iff (visit : Location.Visit) (current target : Url) (followed : Nat)
    (reply : Reply) :
    HasRewrittenLocation visit current target reply
        (response visit current target followed reply) ↔
      ∀ address, address? visit current target reply = some address →
        Text.isAscii address = false ∨ HeaderValue.IsWritable address := by
  rw [HasRewrittenLocation, valuesOf_response_location]
  cases haddress : address? visit current target reply with
  | none =>
    refine iff_of_true ?_ fun address h => by cases h
    exact valuesOf_eq_nil_of_address? haddress
  | some address =>
    have hwritable : (∀ other, some address = some other →
        Text.isAscii other = false ∨ HeaderValue.IsWritable other) ↔
        (Location.value? address).isSome := by
      rw [Location.isSome_value?_iff]
      exact ⟨fun h => h address rfl, fun h other hother => Option.some.inj hother ▸ h⟩
    rw [hwritable, Option.bind_some]
    cases hvalue : Location.value? address with
    | none =>
      obtain ⟨first, hfirst, -⟩ := exists_of_address? haddress
      simpa using List.ne_nil_of_mem hfirst
    | some value => simp

/-- A location that could not be rewritten is the reply's own. -/
theorem valuesOf_of_not_hasRewrittenLocation {visit : Location.Visit} {current target : Url}
    {followed : Nat} {reply : Reply}
    (h : ¬ HasRewrittenLocation visit current target reply
      (response visit current target followed reply)) :
    (response visit current target followed reply).headers.valuesOf "location" =
      reply.headers.valuesOf "location" := by
  rw [HasRewrittenLocation, valuesOf_response_location] at h
  rw [valuesOf_response_location]
  cases hvalue : (address? visit current target reply).bind Location.value? with
  | none => rfl
  | some value =>
    rw [hvalue] at h
    exact absurd rfl h

end Delivery

namespace Inbound

variable {σ : Type} {inbound : Inbound} {network : Network σ} {limits : BackendLimits}
variable {target : Text} {state : σ} {url current : Url} {followed : Nat} {reply : Reply}

/-- The fields of the response for a reply, and of these its location unless the rewritten
address cannot be written. -/
theorem forward_fields
    (h : inbound.IsAnswered network limits target state url current followed reply) :
    ∃ response, (inbound.forward network limits target state).1.response = some response ∧
      response.status = reply.status ∧
      Delivery.HasFields inbound.visit.mount followed reply response ∧
      (Delivery.HasRewrittenLocation inbound.visit current url reply response ↔
        ∀ address, Delivery.address? inbound.visit current url reply = some address →
          Text.isAscii address = false ∨ HeaderValue.IsWritable address) ∧
      (¬ Delivery.HasRewrittenLocation inbound.visit current url reply response →
        response.headers.valuesOf "location" = reply.headers.valuesOf "location") :=
  ⟨_, h.response_eq, Delivery.response_status .., Delivery.hasFields_response ..,
    Delivery.hasRewrittenLocation_iff .., Delivery.valuesOf_of_not_hasRewrittenLocation⟩

theorem parse_homePage : Url.parse "https://[::1]/" = .ok homePage :=
  Url.parse_of_parse? (by decide +kernel)

/-- A reply with values of its own for what the gateway says, and with repeated names. -/
def boastfulReply : Reply where
  status := 302
  headers :=
    [("x-upstream-status", Utf8.encode "999"), ("set-cookie", Utf8.encode "a=1; Domain=x.example"),
      ("via", Utf8.encode "one"), ("x-proxy-redirects-followed", Utf8.encode "77"),
      ("te", Utf8.encode "trailers"), ("set-cookie", Utf8.encode "b=2"),
      ("x-frame-options", Utf8.encode "DENY"), ("location", Utf8.encode "/login"),
      ("location", Utf8.encode "/other"), ("via", Utf8.encode "two"),
      ("x-upstream-status", Utf8.encode "998")]

theorem plain_forward_fields :
    plain.IsAnswered (.always boastfulReply) { maxRedirects := 0 } "https://[::1]/" () homePage
        homePage 0 boastfulReply ∧
      ∃ response,
        (plain.forward (.always boastfulReply) { maxRedirects := 0 } "https://[::1]/"
          ()).1.response = some response ∧
        Delivery.HasFields plain.visit.mount 0 boastfulReply response ∧
        response.headers.valuesOf "location" =
          [Utf8.encode "https://site.example/docs/login"] := by
  have hanswered : plain.IsAnswered (.always boastfulReply) { maxRedirects := 0 } "https://[::1]/"
      () homePage homePage 0 boastfulReply := isAnswered_always parse_homePage (.inl rfl)
  obtain ⟨response, hresponse, -, hfields, hlocation, -⟩ := forward_fields hanswered
  have haddress : Delivery.address? plain.visit homePage homePage boastfulReply =
      some "https://site.example/docs/login".toList := by decide +kernel
  have hrewritten := hlocation.2 fun address h => by
    rw [haddress] at h
    cases h
    exact .inr (HeaderValue.isSome_ofText?_iff.1 (by decide))
  refine ⟨hanswered, response, hresponse, hfields, ?_⟩
  rw [hrewritten, haddress]
  decide +kernel

/-- Below a mount with a control character the client gets both locations of the backend. -/
theorem oddlyMounted_keeps_locations :
    oddlyMounted.IsAnswered (.always boastfulReply) { maxRedirects := 0 } "https://[::1]/" ()
        homePage homePage 0 boastfulReply ∧
      ∃ response,
        (oddlyMounted.forward (.always boastfulReply) { maxRedirects := 0 } "https://[::1]/"
          ()).1.response = some response ∧
        response.headers.valuesOf "location" = [Utf8.encode "/login", Utf8.encode "/other"] ∧
        ¬ Delivery.HasRewrittenLocation oddlyMounted.visit homePage homePage boastfulReply
          response := by
  refine ⟨isAnswered_always parse_homePage (.inl rfl), ?_⟩
  have hforward : (oddlyMounted.forward (.always boastfulReply) { maxRedirects := 0 }
      "https://[::1]/" ()).1.response.map (·.headers.valuesOf "location") =
        some [Utf8.encode "/login", Utf8.encode "/other"] := by decide +kernel
  obtain ⟨response, hresponse, hlocations⟩ := Option.map_eq_some_iff.1 hforward
  refine ⟨response, hresponse, hlocations, fun hrewritten => ?_⟩
  have hnone : (Delivery.address? oddlyMounted.visit homePage homePage boastfulReply).bind
      Location.value? = none := by decide +kernel
  rw [Delivery.HasRewrittenLocation, hlocations, hnone] at hrewritten
  cases hrewritten

/-- The names that no request to a backend has because they concern the client's
connection. -/
def connectionFields : List Text :=
  ["connection", "keep-alive", "transfer-encoding", "upgrade", "proxy-authenticate",
    "proxy-authorization", "te", "trailer"]

/-- No backend gets a field of the client's connection, and of those of the backend's own
the client gets just `keep-alive`. -/
theorem forward_connectionFields
    (h : inbound.IsAnswered network limits target state url current followed reply) :
    (∀ sent ∈ inbound.transcript network limits target state, ∀ name ∈ connectionFields,
      sent.1.headers.valuesOf name = []) ∧
      ∃ response, (inbound.forward network limits target state).1.response = some response ∧
        (∀ name ∈ connectionFields, name ≠ "keep-alive".toList →
          response.headers.valuesOf name = []) ∧
        response.headers.valuesOf "keep-alive" = reply.headers.valuesOf "keep-alive" ∧
        ((∀ name ∈ connectionFields, response.headers.valuesOf name = []) ↔
          reply.headers.valuesOf "keep-alive" = []) := by
  have hdropped : connectionFields ⊆ droppedFields := by decide +kernel
  have hwithheld : ∀ name ∈ connectionFields, name ≠ "keep-alive".toList →
      name ∈ Delivery.withheld := by decide +kernel
  have hfields := Delivery.hasFields_response inbound.visit current url followed reply
  have hcleared (name : Text) (hname : name ∈ connectionFields)
      (hother : name ≠ "keep-alive".toList) :=
    hfields.none_withheld name (hwithheld name hname hother)
  have hkept := hfields.other "keep-alive" (by decide +kernel)
  refine ⟨fun sent hsent name hname => ?_, _, h.response_eq, hcleared, hkept, ?_⟩
  · obtain ⟨page, hshielded⟩ := exists_isShielded hsent
    exact hshielded.none_dropped name (hdropped hname)
  · refine ⟨fun hnone => hkept ▸ hnone "keep-alive" (by decide), fun hnone name hname => ?_⟩
    by_cases halive : name = "keep-alive".toList
    · rw [halive]
      exact hkept.trans hnone
    · exact hcleared name hname halive

/-- A reply that says how long its connection may stay open. -/
def patientReply : Reply where
  status := 200
  headers :=
    [("connection", Utf8.encode "keep-alive"), ("keep-alive", Utf8.encode "timeout=5")]

theorem spoofed_forward_connectionFields :
    spoofed.IsAnswered (.always patientReply) {} "https://[::1]/" () homePage homePage 0
        patientReply ∧
      ∃ response,
        (spoofed.forward (.always patientReply) {} "https://[::1]/" ()).1.response =
          some response ∧
        response.headers.valuesOf "connection" = [] ∧
        ¬ ∀ name ∈ connectionFields, response.headers.valuesOf name = [] := by
  have hanswered : spoofed.IsAnswered (.always patientReply) {} "https://[::1]/" () homePage
      homePage 0 patientReply := isAnswered_always parse_homePage (.inr (by decide +kernel))
  obtain ⟨-, response, hresponse, hcleared, -, hall⟩ := forward_connectionFields hanswered
  exact ⟨hanswered, response, hresponse, hcleared "connection" (by decide) (by decide),
    fun hnone => absurd (hall.1 hnone) (by decide)⟩

/-- The client is told how long a connection stays open that is not its own. -/
theorem keepAlive_reaches_client :
    ∃ response,
      (spoofed.forward (.always patientReply) {} "https://[::1]/" ()).1.response = some response ∧
      "keep-alive".toList ∈ connectionFields ∧
      response.headers.valuesOf "keep-alive" = [Utf8.encode "timeout=5"] := by
  have hforward : (spoofed.forward (.always patientReply) {} "https://[::1]/" ()).1.response.map
      (·.headers.valuesOf "keep-alive") = some [Utf8.encode "timeout=5"] := by decide +kernel
  obtain ⟨response, hresponse, hvalues⟩ := Option.map_eq_some_iff.1 hforward
  exact ⟨response, hresponse, by decide, hvalues⟩

end Inbound

end RuleGateway
