import RuleGateway.Proofs.Gateway.Policy
import RuleGateway.Proofs.Http.Location
import RuleGateway.Proofs.Router.Nesting
import RuleGateway.Proofs.Url.Carrying

/-!
# Redirects that carry the path

A redirect of a literal subtree rule sends the client to the target of the rule
with the rest of the request path behind it, and with the query. The path is
decoded by then, and the address has to say the same when a client reads it.
`handle_carries` says for which requests it does.
-/

namespace RuleGateway

namespace Matcher

theorem remainder?_self (base : Text) : remainder? base base = some [] := by
  rw [remainder?]
  split
  · simp
  · simp

/-- What a literal subtree rule resolves a path below its base path to. -/
theorem resolve?_below {matcher : Matcher} {path rest target : Text} {query : Option Text}
    (hbase : matcher.base.head? = some '/') (hliteral : matcher.pattern.isDynamic = false)
    (happend : matcher.rule.appendPath = true)
    (hrest : remainder? matcher.base path = some rest) (hslash : rest.head? = some '/')
    (hresolve : matcher.resolve? path query = some target) :
    target = withQuery (Text.dropFinalSlash matcher.rule.target ++ rest) query := by
  obtain ⟨found, hfound, rfl⟩ := Option.map_eq_some_iff.1 hresolve
  rcases target?_eq_some hfound with ⟨captures, hcaptures, -⟩ | ⟨-, -, -, hbelow⟩
  · rw [pattern, Pattern.captures?_of_not_isDynamic hbase hliteral] at hcaptures
    obtain ⟨hpath, -⟩ := Option.ite_none_right_eq_some.1 hcaptures
    rw [hpath, remainder?_self, Option.some_inj] at hrest
    rw [← hrest] at hslash
    cases hslash
  · rw [resolveBelow?, hrest, Option.map_some, happend, if_pos rfl] at hbelow
    rw [Option.some_inj.1 hbelow]

theorem withQuery_eq {target : Text} (h : '?' ∉ target) (query : Option Text) :
    withQuery target query = target ++ Url.asked (query.bind Text.nonempty?) := by
  cases query with
  | none => simp [withQuery, Url.asked]
  | some query =>
    by_cases hempty : query.isEmpty
    · simp [withQuery, Url.asked, Text.nonempty?, hempty]
    · simp [withQuery, Url.asked, Text.nonempty?, hempty, h]

end Matcher

namespace Gateway

variable {σ : Type} {gateway : Gateway} {platform : Platform σ} {request : Request}
variable {running : Running σ} {document : RuleDocument} {source : Provenance} {kept : Memory}
variable {after : σ} {router : Router} {inbound : Inbound} {i : Nat} {attempt : Attempt}

theorem pathOf_of_not_asset {path : Text}
    (hdecode : Path.decode (Path.normalize request.target.path) = path)
    (hasset : Path.isRootAsset path = false) : pathOf router request = path := by
  rw [pathOf, hdecode, Router.effectivePath, hasset]
  rfl

/-- A request is answered by the first candidate that settles it. -/
theorem handle_response_of_first (hcanonical : gateway.canonical.redirect? request = none)
    (hpath : Path.normalize request.target.path ∉ builtinPaths)
    (hload : gateway.loader.load platform gateway.documentUrl running.memory running.platform =
      (.served document source, kept, after))
    (hrouter : Router.ofDocument? document gateway.compiles = some router)
    (hinbound : Gateway.inbound request = .ok inbound)
    (hattempt : (gateway.attempts platform.network inbound (candidatesOf router request)
      after)[i]? = some attempt)
    (hsettles : attempt.settles)
    (hearlier : ∀ j < i, ∀ earlier, (gateway.attempts platform.network inbound
      (candidatesOf router request) after)[j]? = some earlier → earlier.settles = false) :
    (gateway.handle platform request running).1.response = attempt.response := by
  have hdispatch := handle_eq_dispatch platform running hcanonical hpath hload hrouter hinbound
  have hlast := (gateway.dispatch_attempts platform.network (pathOf router request) inbound
    (candidatesOf router request) none after []).2
  rw [hdispatch]
  exact hlast.trans ((gateway.decides_lastResponse platform.network inbound
    (candidatesOf router request) after).first i attempt hattempt hsettles hearlier).1

/-- The matcher of an attempt is one of the router, and resolves the request to the
target of the attempt. -/
theorem resolve?_of_attempt
    (hattempt : attempt ∈ gateway.attempts platform.network inbound (candidatesOf router request)
      after) :
    attempt.matcher ∈ router.matchers ∧
      attempt.matcher.resolve? (pathOf router request) request.target.query =
        some attempt.target := by
  have hmem : (attempt.matcher, attempt.target) ∈ candidatesOf router request := by
    rw [← gateway.map_attempts platform.network inbound (candidatesOf router request) after]
    exact List.mem_map_of_mem hattempt
  exact Router.mem_candidates_iff.1 hmem

/-- The response of a rule that is no proxy rule and whose target may be a value. -/
theorem response_of_redirect
    (hattempt : attempt ∈ gateway.attempts platform.network inbound (candidatesOf router request)
      after)
    (hkind : attempt.matcher.rule.kind ≠ .proxy) {value : Bytes}
    (hvalue : Location.value? attempt.target = some value) :
    attempt.settles ∧ attempt.response.headers.valuesOf "location" = [value] := by
  rcases attempt_cases hattempt with ⟨-, hforwarded, -⟩ | ⟨hproxy, -⟩
  · refine ⟨by simp [Attempt.settles, hforwarded], ?_⟩
    rw [Attempt.response, hforwarded]
    simp only [redirectTo, hvalue]
    rw [Headers.valuesOf_secured (by decide) (by decide)]
    rfl
  · exact absurd hproxy hkind

theorem base_head?_of_mem (hrouter : Router.ofDocument? document gateway.compiles = some router)
    {matcher : Matcher} (h : matcher ∈ router.matchers) : matcher.base.head? = some '/' := by
  obtain ⟨tree, -, rfl⟩ := Option.map_eq_some_iff.1 hrouter
  obtain ⟨key, -, -, hbase, -⟩ := Router.exists_declared_of_mem h
  rw [hbase]
  exact baseOfKey_head? key

/-- A request below the literal base path of a subtree rule is sent to an address
that leads where the target does, with the rest of the path behind its path and
with the query. -/
theorem handle_carries {scheme zone tail rest : Text} {link : Url}
    (hcanonical : gateway.canonical.redirect? request = none)
    (hpath : Path.normalize request.target.path ∉ builtinPaths)
    (hload : gateway.loader.load platform gateway.documentUrl running.memory running.platform =
      (.served document source, kept, after))
    (hrouter : Router.ofDocument? document gateway.compiles = some router)
    (hinbound : Gateway.inbound request = .ok inbound)
    (hattempt : (gateway.attempts platform.network inbound (candidatesOf router request)
      after)[i]? = some attempt)
    (hearlier : ∀ j < i, ∀ earlier, (gateway.attempts platform.network inbound
      (candidatesOf router request) after)[j]? = some earlier → earlier.settles = false)
    (hkind : attempt.matcher.rule.kind = .subtree)
    (hliteral : attempt.matcher.pattern.isDynamic = false)
    (happend : attempt.matcher.rule.appendPath = true)
    (htarget : attempt.matcher.rule.target = Url.lead scheme zone ++ tail)
    (hform : Url.IsLink scheme zone tail)
    (hlink : Url.parse attempt.matcher.rule.target = .ok link)
    (hname : Text.isAscii attempt.target = false → ∀ name,
      link.authority.bind (·.host) = some (.domain name) → Domain.toAscii? name = some name)
    (hrest : Matcher.remainder? attempt.matcher.base (pathOf router request) = some rest)
    (hcarried : Url.IsCarried rest (request.target.query.bind Text.nonempty?)) :
    ∃ location,
      (gateway.handle platform request running).1.response.headers.valuesOf "location" =
        [Utf8.encode location] ∧
      Url.Reads location link
        (Percent.decodeLoose (Text.dropFinalSlash link.pathText) ++ Utf8.encode rest)
        ((request.target.query.bind Text.nonempty?).map
          (Percent.encode (Url.inQuerySet .web))) := by
  have hmem := List.mem_of_getElem? hattempt
  obtain ⟨hmatcher, hresolve⟩ := resolve?_of_attempt hmem
  have hbelow := Matcher.resolve?_below (base_head?_of_mem hrouter hmatcher) hliteral happend hrest
    hcarried.slash hresolve
  rw [htarget] at hbelow hlink
  rw [Matcher.withQuery_eq (Url.not_mem_carried hform hcarried)] at hbelow
  obtain ⟨hreads, hprintable⟩ := Url.reads_ascii hform hcarried hlink hbelow hname
  have hvalue : Location.value? attempt.target =
      some (Utf8.encode (Location.ascii attempt.target)) :=
    HeaderValue.ofText?_of_isPrintable hprintable
  obtain ⟨hsettles, hlocation⟩ := response_of_redirect hmem (by simp [hkind]) hvalue
  refine ⟨Location.ascii attempt.target, ?_, hreads⟩
  rw [handle_response_of_first hcanonical hpath hload hrouter hinbound hattempt hsettles hearlier,
    hlocation]

/-- The text of a document with one rule. -/
def movedText (target : Text) : Text :=
  "\x7b\"slots\":\x7b\"/old\":\"".toList ++ target ++ "\"\x7d\x7d".toList

/-- The matcher of the rule. -/
def movedMatcher (target : Text) : Matcher :=
  { base := "/old", rule := Rule.ofTarget target 1, sequence := 0 }

/-- A platform that has the document. -/
def moved (target : Text) : Platform Unit where
  now _ := 0
  network _ _ :=
    ({ result := .reply { status := 200, body := Utf8.encode (movedText target) } }, ())

/-- A gateway for the document. -/
def movedGateway : Gateway where
  source := { url := some "http://rules/".toList }
  bindings := {}
  backend := {}
  canonical := {}

/-- The slot tree of the document. -/
def movedTree (target : Text) : Json.Members := [("/old", .text target)]

/-- The document. -/
def movedDocument (target : Text) : RuleDocument :=
  { members := [("slots", .object (movedTree target))] }

/-- The router of the document. -/
def movedRouter (target : Text) : Router := { matchers := [movedMatcher target] }

theorem ofDocument?_moved (target : Text) :
    Router.ofDocument? (movedDocument target) = some (movedRouter target) := by
  have hstream : Slots.stream (movedTree target) = [("/old".toList, [.target target])] := by
    simp only [movedTree, Slots.stream]
    rfl
  have hslots : Slots.ofTree (movedTree target) = [("/old".toList, [.target target])] := by
    rw [Slots.ofTree, hstream]
    rfl
  exact Router.ofDocument?_of_lone _ rfl hslots rfl

theorem attempts_moved {target address : Text} {request : Request}
    (h : candidatesOf (movedRouter target) request = [(movedMatcher target, address)]) :
    (movedGateway.attempts (moved target).network inbound
      (candidatesOf (movedRouter target) request) ())[0]? =
      some { matcher := movedMatcher target, target := address, forwarded := none,
             transcript := [] } := by
  rw [h]
  rfl

/-- A host that rules lead to. -/
def newExample : Authority := { host := some (.domain "new.example") }

theorem isPlain_newExample : Domain.IsPlain "new.example" :=
  ⟨Text.forall_mem (by decide), Text.forall_mem (by decide), Text.forall_mem (by decide), by decide⟩

theorem isLead_newExample : Url.IsLead "https" "new.example" :=
  ⟨by decide, by decide, Text.forall_mem (by decide), Text.forall_mem (by decide)⟩

theorem parseAuthority_newExample :
    Url.parseAuthority "https" "new.example" = .ok (newExample, []) :=
  Url.parseAuthority_named (by decide) isPlain_newExample (by decide) (by decide)

theorem parse_newExample {path : Text} {query : Option Text} (h : Url.IsRoute path query) :
    Url.parse (Url.lead "https" "new.example" ++ (path ++ Url.asked query)) =
      .ok { scheme := "https", authority := some newExample,
            path := .rooted (Url.addSegments [] (Path.segments path)),
            query := query.map (Percent.encode (Url.inQuerySet .web)) } := by
  rw [Url.parse_route isLead_newExample h]
  change (Url.parseAuthority "https" "new.example").map _ = _
  rw [parseAuthority_newExample]
  rfl

/-- A link to a path of the host. -/
def docsLink : Url where
  scheme := "https"
  authority := some newExample
  path := .rooted ["docs".toList, []]

theorem parse_docsLink : Url.parse "https://new.example/docs/" = .ok docsLink := by
  have hroute : Url.IsRoute "/docs/" none :=
    ⟨rfl, Text.forall_mem (by decide), (fun text htext => by cases htext), by decide⟩
  exact (parse_newExample hroute).trans rfl

/-- A request below the base path of the rule for a name outside ASCII. -/
def namedRequest : Request := { target := .ofText "/old/gr%C3%BCn?q=1" }

theorem namedRequest_carried : ∃ location,
    (movedGateway.handle (moved "https://new.example/docs/") namedRequest
      { platform := () }).1.response.headers.valuesOf "location" = [Utf8.encode location] ∧
    Url.Reads location docsLink (Utf8.encode "/docs" ++ Utf8.encode "/grün")
      (some "q=1".toList) := by
  have hpath : pathOf (movedRouter "https://new.example/docs/") namedRequest = "/old/grün" :=
    pathOf_of_not_asset (by decide) (by decide)
  have hcandidates : candidatesOf (movedRouter "https://new.example/docs/") namedRequest =
      [(movedMatcher "https://new.example/docs/",
        "https://new.example/docs/grün?q=1".toList)] := by
    rw [candidatesOf, hpath]
    decide
  obtain ⟨inbound, hinbound, -⟩ :=
    exists_inbound (show namedRequest.bodyFailure = none from rfl)
  have hload : movedGateway.loader.load (moved "https://new.example/docs/")
      movedGateway.documentUrl [] () =
        (.served (movedDocument "https://new.example/docs/") .network,
          [("http://rules/".toList,
            { text := movedText "https://new.example/docs/", expiresAt := 3600000 })], ()) := rfl
  have hform : Url.IsLink "https" "new.example" "/docs/" :=
    ⟨isLead_newExample, .inr rfl, Text.forall_mem (by decide), Text.forall_mem (by decide)⟩
  have hrest : Matcher.remainder? "/old"
      (pathOf (movedRouter "https://new.example/docs/") namedRequest) = some "/grün".toList := by
    rw [hpath]
    decide
  have hcarried : Url.IsCarried "/grün" (some "q=1".toList) :=
    ⟨rfl, Text.forall_mem (by decide), Percent.escapeless_of_not_mem (by decide), by decide,
      by decide, fun text htext => by
        cases htext
        exact Text.forall_mem (by decide)⟩
  exact handle_carries (by decide) (by decide) hload (ofDocument?_moved _) hinbound
    (attempts_moved hcandidates) (by simp) rfl (by decide) rfl rfl hform parse_docsLink
    (by
      rintro - name ⟨⟩
      exact Domain.toAscii?_of_plain isPlain_newExample)
    hrest hcarried

/-- A request below the base path of the rule for a name with a question mark. -/
def markedRequest : Request := { target := .ofText "/old/a%3Fb?x=1" }

/-- The question mark of the name starts the query of the address, and the query
of the request is lost. -/
theorem markedRequest_loses_query :
    (movedGateway.handle (moved "https://new.example") markedRequest
      { platform := () }).1.response.headers.valuesOf "location" =
        [Utf8.encode "https://new.example/a?b"] ∧
    Url.parse "https://new.example/a?b" =
      .ok { scheme := "https", authority := some newExample, path := .rooted ["a".toList],
            query := some "b".toList } := by
  constructor
  · have hpath : pathOf (movedRouter "https://new.example") markedRequest = "/old/a?b" :=
      pathOf_of_not_asset (by decide) (by decide)
    have hcandidates : candidatesOf (movedRouter "https://new.example") markedRequest =
        [(movedMatcher "https://new.example", "https://new.example/a?b".toList)] := by
      rw [candidatesOf, hpath]
      decide
    obtain ⟨inbound, hinbound, -⟩ :=
      exists_inbound (show markedRequest.bodyFailure = none from rfl)
    have hload : movedGateway.loader.load (moved "https://new.example") movedGateway.documentUrl []
        () = (.served (movedDocument "https://new.example") .network,
          [("http://rules/".toList,
            { text := movedText "https://new.example", expiresAt := 3600000 })], ()) := rfl
    have hattempt : (movedGateway.attempts (moved "https://new.example").network inbound _ ())[0]? =
        some _ := attempts_moved hcandidates
    have hvalue : Location.value? "https://new.example/a?b" =
        some (Utf8.encode "https://new.example/a?b") := by decide
    obtain ⟨hsettles, hlocation⟩ :=
      response_of_redirect (List.mem_of_getElem? hattempt) (by decide) hvalue
    rw [handle_response_of_first (by decide) (by decide) hload (ofDocument?_moved _) hinbound
      hattempt hsettles (by simp), hlocation]
  · have hroute : Url.IsRoute "/a" (some "b".toList) :=
      ⟨rfl, Text.forall_mem (by decide), by decide, by decide⟩
    exact (parse_newExample hroute).trans rfl

end Gateway

end RuleGateway
