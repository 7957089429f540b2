import RuleGateway.Proofs.Gateway.Carrying
import RuleGateway.Proofs.Pattern.SelfTarget
import RuleGateway.Proofs.Router.Mount
import RuleGateway.Proofs.Url.Containment

/-!
# What a proxy rule lays open

A proxy rule for everything below a literal path, whose target is a directory with
what was taken behind it, lays the directory open. What is taken is a decoded text of
the client, and it is read as a page of the directory would read a link: steps up are
taken, however they are spelled, and nothing on the way to the backend takes them
before. `handle_leadsTo` says where the first request for the rule goes then. It stays
in the directory if the steps up never outnumber the segments that were gone down
before, and `appRequest_leaves` is about a request that leaves it.
-/

namespace RuleGateway

namespace Matcher

section Below

variable {matcher : Matcher} {mount front path target : Text} {query : Option Text}

theorem withQuery_append (h : '?' ∉ front) (rest : Text) :
    withQuery (front ++ rest) query = front ++ withQuery rest query := by
  have hcontains : (front ++ rest).contains '?' = rest.contains '?' := by
    simp [h]
  cases query with
  | none => rfl
  | some query =>
    rw [withQuery, withQuery, hcontains]
    split
    · rfl
    · rw [List.append_assoc]

/-- What follows the literal path is filled in behind a plain text. -/
theorem resolve?_below_reference (hbase : matcher.base = mount ++ "/*".toList)
    (hrooted : matcher.base.head? = some '/')
    (hliteral : ∀ segment ∈ Path.segments mount, Path.isDynamic segment = false)
    (hkind : matcher.rule.kind ≠ .subtree) (htarget : matcher.rule.target = front ++ "$1".toList)
    (hplain : Template.IsPlain front) (hquery : '?' ∉ front)
    (hresolve : matcher.resolve? path query = some target) :
    ∃ taken, path = mount ++ '/' :: taken ∧ target = front ++ withQuery taken query := by
  have hmount : Path.ofSegments (Path.segments mount) = mount := by
    cases mount with
    | nil => rfl
    | cons c rest =>
      rw [hbase] at hrooted
      exact Path.ofSegments_segments hrooted
  obtain ⟨found, hfound, rfl⟩ := Option.map_eq_some_iff.1 hresolve
  rcases target?_eq_some hfound with ⟨captures, hcaptures, rfl⟩ | ⟨-, hsubtree, -⟩
  · rw [pattern, hbase, Pattern.ofBase] at hcaptures
    obtain ⟨taken, rfl, hpath, -⟩ :=
      (assigns_below hmount hliteral).1 (Pattern.isGreediest_of_captures? hcaptures).assigns
    refine ⟨taken, hpath, ?_⟩
    have hstops : Text.Stops Template.isWord "$1".toList := Text.stops_cons (by decide) _
    have hone : Template.fill matcher.pattern "$1".toList [taken] = taken :=
      Template.fill_position 1
    rw [htarget, Template.fill_append hstops, Template.fill_of_isPlain hplain, hone,
      withQuery_append hquery]
  · exact absurd hsubtree hkind

end Below

end Matcher

namespace Gateway

variable {σ : Type} {gateway : Gateway} {platform : Platform σ} {request : Request}
variable {memory : Memory} {state : σ} {document : RuleDocument} {source : Provenance}
variable {kept : Memory} {after : σ} {router : Router} {inbound : Inbound} {attempt : Attempt}

/-- An attempt of a proxy rule asks for the page at its target first. -/
theorem exists_transcript_of_proxy {candidates : List (Matcher × Text)} {url : Url}
    (hattempt : attempt ∈ gateway.attempts platform.network inbound candidates after)
    (hkind : attempt.matcher.rule.kind = .proxy) (hparse : Url.parse attempt.target = .ok url) :
    ∃ sent answer rest, attempt.transcript = (sent, answer) :: rest ∧ sent.url = url.render := by
  rcases attempt_cases hattempt with ⟨hother, -⟩ | ⟨-, before, -, htranscript⟩
  · exact absurd hkind hother
  · obtain ⟨answer, rest, hcons⟩ := (under attempt.matcher inbound).exists_transcript_eq_cons
      platform.network gateway.backend hparse before
    exact ⟨_, answer, rest, htranscript.trans hcons, rfl⟩

/-- The first request that is made for a proxy rule below a literal path, whose target
is a directory with the reference to what is taken behind it, goes to where that leads
in the directory, and the query of the client goes with it. -/
theorem handle_leadsTo {mount front : Text} {root : Url}
    (hcanonical : gateway.canonical.redirect? request = none)
    (hpath : Path.normalize request.target.path ∉ builtinPaths)
    (hload : gateway.loader.load platform gateway.documentUrl memory state =
      (.served document source, kept, after))
    (hrouter : Router.ofDocument? document gateway.compiles = some router)
    (hinbound : Gateway.inbound request = .ok inbound)
    (htried : attempt ∈ Attempt.tried (gateway.attempts platform.network inbound
      (candidatesOf router request) after))
    (hkind : attempt.matcher.rule.kind = .proxy)
    (hbase : attempt.matcher.base = mount ++ "/*".toList)
    (hliteral : ∀ segment ∈ Path.segments mount, Path.isDynamic segment = false)
    (htarget : attempt.matcher.rule.target = front ++ "/$1".toList)
    (hplain : Template.IsPlain (front ++ ['/'])) (hquery : '?' ∉ front) (hfragment : '#' ∉ front)
    (hparse : Url.parse (front ++ ['/']) = .ok root)
    (hweb : SchemeKind.of root.scheme = .web) :
    (gateway.handle platform.logged request { memory, platform := (state, []) }).2.platform.2 =
        Loader.transcript platform gateway.documentUrl memory state ++
          (Attempt.tried (gateway.attempts platform.network inbound
            (candidatesOf router request) after)).flatMap (·.transcript) ∧
      ∃ taken url sent answer rest, pathOf router request = mount ++ '/' :: taken ∧
        attempt.transcript = (sent, answer) :: rest ∧ sent.url = url.render ∧
        Url.parse (front ++ '/' :: Matcher.withQuery taken request.target.query) = .ok url ∧
        Url.LeadsTo root (Url.cleanEnd (Matcher.withQuery taken request.target.query)) url := by
  have hattempt := List.mem_of_mem_take htried
  obtain ⟨hmatcher, hresolve⟩ := resolve?_of_attempt hattempt
  have hfront : '?' ∉ front ++ ['/'] := by simp [hquery]
  have htarget' : attempt.matcher.rule.target = (front ++ ['/']) ++ "$1".toList := by
    rw [htarget, List.append_assoc]
    rfl
  obtain ⟨taken, htaken, hsent⟩ := Matcher.resolve?_below_reference hbase
    (base_head?_of_mem hrouter hmatcher) hliteral (by simp [hkind]) htarget' hplain hfront hresolve
  obtain ⟨hdirectory, hread⟩ := Url.parse_append hquery hfragment hweb hparse
  have haddress := hread (Matcher.withQuery taken request.target.query)
  rw [List.append_assoc, List.singleton_append] at hsent
  obtain ⟨sent, answer, rest, htranscript, hurl⟩ :=
    exists_transcript_of_proxy hattempt hkind (hsent ▸ haddress)
  refine ⟨?_, taken, _, sent, answer, rest, htaken, htranscript, hurl, haddress,
    hdirectory.leadsTo _⟩
  rw [handle_logged hcanonical hpath hload hrouter hinbound]

/-- A request with one candidate makes one attempt. -/
theorem exists_tried_of_lone (gateway : Gateway) (network : Network σ) (inbound : Inbound)
    (after : σ) {candidates : List (Matcher × Text)} {matcher : Matcher} {target : Text}
    (h : candidates = [(matcher, target)]) :
    ∃ attempt, Attempt.tried (gateway.attempts network inbound candidates after) = [attempt] ∧
      attempt.matcher = matcher ∧ attempt.target = target := by
  have hmap := gateway.map_attempts network inbound candidates after
  rw [h] at hmap ⊢
  obtain ⟨attempt, hattempts, hpair⟩ := List.map_eq_singleton_iff.1 hmap
  refine ⟨attempt, ?_, congrArg Prod.fst hpair, congrArg Prod.snd hpair⟩
  rw [hattempts]
  simp [Attempt.tried]

/-- The text of a document with a proxy rule for a directory. -/
def exposedText : Text :=
  "\x7b\"slots\":\x7b\"/app/*\":\x7b\"type\":\"proxy\",".toList ++
    "\"to\":\"https://new.example/docs/$1\"\x7d\x7d\x7d".toList

/-- The slot tree of that document. -/
def exposedTree : Json.Members :=
  [("/app/*", .object
    [("type", .text "proxy".toList), ("to", .text "https://new.example/docs/$1".toList)])]

/-- That document. -/
def exposedDocument : RuleDocument := { members := [("slots", .object exposedTree)] }

/-- The matcher of the rule. -/
def exposedMatcher : Matcher where
  base := "/app/*"
  rule :=
    { kind := .proxy, target := "https://new.example/docs/$1".toList, appendPath := true,
      status := 302, priority := Rule.priorityOf 1 }
  sequence := 0

/-- The router of the document. -/
def exposedRouter : Router := { matchers := [exposedMatcher] }

/-- A platform that has the document, and whose backends have every page. -/
def exposed : Platform Unit where
  now _ := 0
  network request _ :=
    if request.url = "http://rules/".toList then
      ({ result := .reply { status := 200, body := Utf8.encode exposedText } }, ())
    else ({ result := .reply { status := 200 } }, ())

theorem load_exposed : movedGateway.loader.load exposed movedGateway.documentUrl [] () =
    (.served exposedDocument .network,
      [("http://rules/".toList, { text := exposedText, expiresAt := 3600000 })], ()) := by
  rfl

theorem ofDocument?_exposed : Router.ofDocument? exposedDocument = some exposedRouter := by
  have hslots : Slots.ofTree exposedTree =
      [("/app/*".toList, [.fields
        [("type", .text "proxy".toList), ("to", .text "https://new.example/docs/$1".toList)]])] := by
    simp only [Slots.ofTree, exposedTree, Slots.stream]
    rfl
  exact Router.ofDocument?_of_lone _ rfl hslots rfl

/-- A request below the base path of the rule. -/
def appRequest (rest : Text) : Request := { target := { rest := "/app/".toList ++ rest } }

theorem isPlain_docs : Template.IsPlain "https://new.example/docs/" := by
  have hscheme : Template.IsPlain "https" :=
    Template.isPlain_of_unmarked (Text.forall_mem (by decide))
  have hcolon : Template.IsPlain "://new.example/docs/" :=
    (Template.isPlain_cons_of_literal (by decide)).2
      (Template.isPlain_of_unmarked (Text.forall_mem (by decide)))
  have hstops : Text.Stops Template.isWord "://new.example/docs/" := Text.stops_cons (by decide) _
  exact (Template.isPlain_append hstops).2 ⟨hscheme, hcolon⟩

/-- A step up behind a step down. -/
theorem appRequest_stays :
    ∃ sent answer rest,
      (movedGateway.handle exposed.logged (appRequest "a/..%2Fb")
        { platform := ((), []) }).2.platform.2 =
          Loader.transcript exposed movedGateway.documentUrl [] () ++ (sent, answer) :: rest ∧
      docsLink.render <+: sent.url := by
  have hpath : pathOf exposedRouter (appRequest "a/..%2Fb") = "/app/a/../b" :=
    pathOf_of_not_asset (by decide) (by decide)
  have hcandidates : candidatesOf exposedRouter (appRequest "a/..%2Fb") =
      [(exposedMatcher, "https://new.example/docs/a/../b".toList)] := by
    rw [candidatesOf, hpath]
    decide +kernel
  obtain ⟨inbound, hinbound, -⟩ :=
    exists_inbound (show (appRequest "a/..%2Fb").bodyFailure = none from rfl)
  obtain ⟨attempt, htried, hmatcher, -⟩ :=
    exists_tried_of_lone movedGateway exposed.network inbound () hcandidates
  have hbase : attempt.matcher.base = "/app".toList ++ "/*".toList := by
    rw [hmatcher]
    rfl
  have htarget : attempt.matcher.rule.target =
      "https://new.example/docs".toList ++ "/$1".toList := by
    rw [hmatcher]
    rfl
  obtain ⟨hlog, taken, url, sent, answer, rest, htaken, htranscript, hurl, -, hleads⟩ :=
    handle_leadsTo (by decide) (by decide) load_exposed ofDocument?_exposed hinbound
      (by rw [htried, List.mem_singleton]) (by rw [hmatcher]; rfl) hbase (by decide) htarget
      isPlain_docs (by decide) (by decide) parse_docsLink (by decide)
  refine ⟨sent, answer, rest, ?_, ?_⟩
  · rw [hlog, htried, List.flatMap_singleton, htranscript]
  · rw [hpath] at htaken
    have hsame : "/app/".toList ++ "a/../b".toList = "/app/".toList ++ taken := htaken
    rw [hurl]
    refine hleads.inside_of_staysWithin ?_
    rw [← List.append_cancel_left hsame]
    decide

/-- A step up from where the client begins. The slash behind it is escaped, so that the
step is no segment of the path before it is decoded. -/
theorem appRequest_leaves :
    Url.parse "https://new.example/docs/" = .ok docsLink ∧
    candidatesOf exposedRouter (appRequest "..%2Fsecret") =
      [(exposedMatcher, "https://new.example/docs/../secret".toList)] ∧
    ∃ sent answer rest,
      (movedGateway.handle exposed.logged (appRequest "..%2Fsecret")
        { platform := ((), []) }).2.platform.2 =
          Loader.transcript exposed movedGateway.documentUrl [] () ++ (sent, answer) :: rest ∧
      sent.url = "https://new.example/secret".toList ∧ ¬ docsLink.render <+: sent.url := by
  have hcandidates : candidatesOf exposedRouter (appRequest "..%2Fsecret") =
      [(exposedMatcher, "https://new.example/docs/../secret".toList)] := by
    have hpath : pathOf exposedRouter (appRequest "..%2Fsecret") = "/app/../secret" :=
      pathOf_of_not_asset (by decide) (by decide)
    rw [candidatesOf, hpath]
    decide +kernel
  obtain ⟨inbound, hinbound, -⟩ :=
    exists_inbound (show (appRequest "..%2Fsecret").bodyFailure = none from rfl)
  obtain ⟨attempt, htried, hmatcher, htarget⟩ :=
    exists_tried_of_lone movedGateway exposed.network inbound () hcandidates
  have hattempt : attempt ∈ Attempt.tried (movedGateway.attempts exposed.network inbound
      (candidatesOf exposedRouter (appRequest "..%2Fsecret")) ()) := by
    rw [htried, List.mem_singleton]
  have hdocs : Url.parse ("https://new.example/docs".toList ++ ['/']) = .ok docsLink :=
    parse_docsLink
  have hparse : Url.parse attempt.target =
      .ok (Url.parseInDirectory docsLink (Url.cleanEnd "../secret")) := by
    rw [htarget]
    exact (Url.parse_append (by decide) (by decide) (by decide) hdocs).2 "../secret"
  obtain ⟨sent, answer, rest, htranscript, hurl⟩ :=
    exists_transcript_of_proxy (List.mem_of_mem_take hattempt) (by rw [hmatcher]; rfl) hparse
  have haddress : sent.url = "https://new.example/secret".toList := hurl.trans (by decide)
  refine ⟨parse_docsLink, hcandidates, sent, answer, rest, ?_, haddress, ?_⟩
  · rw [handle_logged (by decide) (by decide) load_exposed ofDocument?_exposed hinbound, htried,
      List.flatMap_singleton, htranscript]
  · rw [haddress]
    decide

end Gateway

end RuleGateway
