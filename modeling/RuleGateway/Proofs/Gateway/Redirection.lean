import RuleGateway.Proofs.Gateway.Carrying
import RuleGateway.Proofs.Pattern.Assignment
import RuleGateway.Proofs.Pattern.Template

/-!
# Redirects and the characters of the path

What a client escapes in a path is decoded before it becomes part of a target. The
target is then written as a `Location` as it is, if it is ASCII, and escaped again
only if it is not. So the control characters of an ASCII target are left, no field can
hold them, and the redirect fails. The main statement, `handle_redirects_iff`, says
that a redirect rule that comes first is carried out in all other cases and that
nothing but a control character of the request makes it fail.
-/

namespace RuleGateway

section Material

variable {p : Char → Prop} {path : Text}

/-- Texts for dynamic segments are made of the characters of the path. -/
theorem Path.forall_mem_of_assigns {segments texts : List Text}
    (h : Assigns segments texts path) (hpath : ∀ c ∈ path, p c) :
    ∀ text ∈ texts, ∀ c ∈ text, p c := by
  induction segments generalizing texts path with
  | nil =>
    obtain ⟨rfl, -⟩ := assigns_nil.1 h
    exact List.forall_mem_nil _
  | cons segment segments ih =>
    by_cases hdynamic : isDynamic segment
    · obtain ⟨text, rest, left, rfl, -, rfl, hrest⟩ := (assigns_dynamic hdynamic).1 h
      rw [List.forall_mem_cons, List.forall_mem_append] at hpath
      exact List.forall_mem_cons.2 ⟨hpath.2.1, ih hrest hpath.2.2⟩
    · rw [Bool.not_eq_true] at hdynamic
      obtain ⟨left, rfl, hrest⟩ := (assigns_literal hdynamic).1 h
      rw [List.forall_mem_cons, List.forall_mem_append] at hpath
      exact ih hrest hpath.2.2

/-- A filled template is made of its own characters and of those of the captured texts. -/
theorem Template.forall_mem_fill {pattern : Pattern} {template : Text} {captures : List Text}
    (htemplate : ∀ c ∈ template, p c) (hcaptures : ∀ text ∈ captures, ∀ c ∈ text, p c) :
    ∀ c ∈ fill pattern template captures, p c := by
  induction template using parts.induct with
  | case1 =>
    rw [fill, parts]
    exact List.forall_mem_nil _
  | case2 c rest part left hfound ih =>
    rw [List.forall_mem_cons] at htemplate
    rw [fill, parts_of_reference hfound, List.flatMap_cons, List.forall_mem_append]
    refine ⟨?_, ih fun d hd => htemplate.2 d ((reference?_eq_some hfound).1.subset hd)⟩
    rcases (reference?_eq_some hfound).2 with ⟨-, digits, rfl⟩ | ⟨-, word, rfl⟩
    · rw [value]
      cases hat : (Text.decimal? digits).bind (atPosition? captures) with
      | none => exact List.forall_mem_nil _
      | some text =>
        obtain ⟨n, -, hn⟩ := Option.bind_eq_some_iff.1 hat
        rw [atPosition?, Option.ite_none_left_eq_some] at hn
        exact hcaptures text (List.mem_of_getElem? hn.2)
    · rw [value]
      cases hat : atName? pattern captures word with
      | none => exact List.forall_mem_nil _
      | some text =>
        obtain ⟨⟨label, captured⟩, hpair, rfl⟩ := Option.map_eq_some_iff.1 hat
        exact hcaptures captured (List.of_mem_zip (List.mem_of_find?_eq_some hpair)).2
  | case3 c rest hnone ih =>
    rw [List.forall_mem_cons] at htemplate
    rw [fill_cons_of_literal hnone]
    exact List.forall_mem_cons.2 ⟨htemplate.1, ih htemplate.2⟩

/-- A target is made of the characters of the rule, of the path and of the query. -/
theorem Matcher.forall_mem_of_resolve? {matcher : Matcher} {target : Text} {query : Option Text}
    (h : matcher.resolve? path query = some target) (hmark : p '?')
    (hrule : ∀ c ∈ matcher.rule.target, p c) (hpath : ∀ c ∈ path, p c)
    (hquery : ∀ text ∈ query, ∀ c ∈ text, p c) : ∀ c ∈ target, p c := by
  obtain ⟨found, hfound, rfl⟩ := Option.map_eq_some_iff.1 h
  have htarget : ∀ c ∈ found, p c := by
    rcases target?_eq_some hfound with ⟨captures, hcaptures, rfl⟩ | ⟨-, -, -, hbelow⟩
    · have hassigns := (Pattern.isGreediest_of_captures? hcaptures).assigns
      exact Template.forall_mem_fill hrule (Path.forall_mem_of_assigns hassigns hpath)
    · obtain ⟨rest, hrest, rfl⟩ := Option.map_eq_some_iff.1 hbelow
      have hdropped : ∀ c ∈ Text.dropFinalSlash matcher.rule.target, p c := fun c hc =>
        hrule c (Text.dropFinalSlash_subset _ hc)
      have hcarried : ∀ c ∈ rest, p c := by
        rcases remainder?_eq_some hrest with ⟨-, rfl | ⟨-, rfl⟩⟩ | ⟨-, rfl, -⟩
        · exact hpath
        · exact List.forall_mem_nil _
        · exact (List.forall_mem_append.1 hpath).2
      dsimp only
      split
      · exact List.forall_mem_append.2 ⟨hdropped, hcarried⟩
      · exact hdropped
  cases query with
  | none => exact htarget
  | some text =>
    rw [withQuery]
    split
    · exact htarget
    · rw [List.forall_mem_append, List.forall_mem_cons]
      exact ⟨htarget, hmark, hquery text rfl⟩

end Material

/-- What a client gets that a redirect rule sends to a target: the status of the rule
and the target as the one `Location`. -/
structure Response.Redirects (response : Response) (rule : Rule) (target : Text) : Prop where
  status : response.status = rule.status
  location : response.headers.valuesOf "location" = [Utf8.encode (Location.ascii target)]

namespace Gateway

variable {σ : Type} {gateway : Gateway} {platform : Platform σ} {request : Request}
variable {running : Running σ} {document : RuleDocument} {source : Provenance} {kept : Memory}
variable {after : σ} {router : Router} {matcher : Matcher} {target : Text}

/-- Whether the body of a request is read without failure where a candidate needs it. -/
def IsRead (router : Router) (request : Request) : Prop :=
  (candidatesOf router request).any (·.1.rule.kind = .proxy) →
    Method.carriesBody request.method → request.bodyFailure = none

/-- Whether an address can be written as a `Location`: it is escaped, or it has no
character that would have to be. -/
def IsSendable (address : Text) : Prop :=
  Text.isAscii address = false ∨ HeaderValue.IsWritable address

theorem redirects_redirect {rule : Rule} (hstatus : 100 ≤ rule.status ∧ rule.status ≤ 599)
    (h : IsSendable target) : (redirect rule target).response.Redirects rule target := by
  obtain ⟨value, hvalue⟩ := Option.isSome_iff_exists.1 (Location.isSome_value?_iff.2 h)
  have hencoded : Utf8.encode (Location.ascii target) = value :=
    Option.some_inj.1 (Option.ite_none_right_eq_some.1 hvalue).2
  have hvalid : 100 ≤ rule.status ∧ rule.status ≤ 999 := by omega
  rw [redirect_response]
  simp only [redirectTo, hvalue]
  refine ⟨if_pos hvalid, ?_⟩
  rw [Headers.valuesOf_secured (by decide) (by decide), hencoded]
  rfl

theorem redirect_of_not_isSendable {rule : Rule} (h : ¬ IsSendable target) :
    (redirect rule target).response = .plain 500 "Internal Server Error" := by
  have hnone : Location.value? target = none := by
    rwa [← Option.not_isSome_iff_eq_none, Location.isSome_value?_iff]
  rw [redirect_response]
  simp only [redirectTo, hnone]

theorem inbound_of_unread (hcarries : Method.carriesBody request.method)
    (hfailure : request.bodyFailure ≠ none) :
    ∃ detail, Gateway.inbound request = .error (.internal detail) := by
  obtain ⟨reason, hreason⟩ := Option.ne_none_iff_exists'.1 hfailure
  rw [Gateway.inbound]
  simp only [hcarries, if_true, hreason]
  exact ⟨_, rfl⟩

theorem exists_inbound_of_read
    (h : Method.carriesBody request.method → request.bodyFailure = none) :
    ∃ inbound, Gateway.inbound request = .ok inbound := by
  rw [Gateway.inbound]
  by_cases hcarries : Method.carriesBody request.method
  · simp only [hcarries, if_true, h hcarries]
    exact ⟨_, rfl⟩
  · simp only [hcarries]
    exact ⟨_, rfl⟩

theorem route_eq (network : Network σ) (state : σ) :
    gateway.route network router request (Path.normalize request.target.path) state =
      if (candidatesOf router request).any (·.1.rule.kind = .proxy) then
        match Gateway.inbound request with
        | .error failure => (.failed failure, state)
        | .ok inbound =>
          gateway.dispatch network (pathOf router request) inbound none
            (candidatesOf router request) state
      else
        gateway.dispatch network (pathOf router request) {} none (candidatesOf router request)
          state := rfl

theorem route_of_read {rest : List (Matcher × Text)}
    (hcandidates : candidatesOf router request = (matcher, target) :: rest)
    (hkind : matcher.rule.kind ≠ .proxy) (hread : IsRead router request) (network : Network σ)
    (state : σ) :
    gateway.route network router request (Path.normalize request.target.path) state =
      (redirect matcher.rule target, state) := by
  by_cases hproxy : (candidatesOf router request).any (·.1.rule.kind = .proxy)
  · obtain ⟨inbound, hinbound⟩ := exists_inbound_of_read (hread hproxy)
    rw [route_eq_dispatch hinbound, hcandidates, dispatch_of_redirect hkind]
  · rw [route_eq, if_neg hproxy, hcandidates, dispatch_of_redirect hkind]

theorem route_of_unread (hunread : ¬ IsRead router request) (network : Network σ) (state : σ) :
    (gateway.route network router request (Path.normalize request.target.path) state).1.response =
      .plain 500 "Internal Server Error" := by
  rw [IsRead, Classical.not_imp, Classical.not_imp] at hunread
  obtain ⟨hproxy, hcarries, hfailure⟩ := hunread
  obtain ⟨detail, hinbound⟩ := inbound_of_unread hcarries hfailure
  rw [route_eq, if_pos hproxy, hinbound]
  rfl

/-- A redirect rule that comes first is carried out if the body is read and the target
can be written; otherwise the request fails. The target can be written if neither the
path nor the query has a control character other than the tab. -/
theorem handle_redirects_iff (hcanonical : gateway.canonical.redirect? request = none)
    (hpath : Path.normalize request.target.path ∉ builtinPaths)
    (hload : gateway.loader.load platform gateway.documentUrl running.memory running.platform =
      (.served document source, kept, after))
    (hrouter : Router.ofDocument? document gateway.compiles = some router)
    (hfirst : (candidatesOf router request).head? = some (matcher, target))
    (hkind : matcher.rule.kind ≠ .proxy)
    (htarget : Url.IsPrintable matcher.rule.target) :
    ((gateway.handle platform request running).1.response.Redirects matcher.rule target ↔
      IsRead router request ∧ IsSendable target) ∧
    (¬ (IsRead router request ∧ IsSendable target) →
      (gateway.handle platform request running).1.response =
        .plain 500 "Internal Server Error") ∧
    (HeaderValue.IsWritable (pathOf router request) →
      (∀ query ∈ request.target.query, HeaderValue.IsWritable query) → IsSendable target) := by
  have hroute := handle_eq_route platform running hcanonical hpath hload hrouter
  obtain ⟨rest, hcandidates⟩ := List.head?_eq_some_iff.1 hfirst
  have hfound : (matcher, target) ∈ candidatesOf router request := List.mem_of_head? hfirst
  obtain ⟨hmatcher, hresolve⟩ := Router.mem_candidates_iff.1 hfound
  have hstatus : 100 ≤ matcher.rule.status ∧ matcher.rule.status ≤ 599 := by
    obtain ⟨tree, -, rfl⟩ := Option.map_eq_some_iff.1 hrouter
    obtain ⟨-, rule, position, -, hrule⟩ := Router.exists_declared_of_mem hmatcher
    rw [hrule]
    exact Rule.status_ofDeclared_bounds rule position
  have hfailed (h : ¬ (IsRead router request ∧ IsSendable target)) :
      (gateway.handle platform request running).1.response =
        .plain 500 "Internal Server Error" := by
    rw [hroute]
    by_cases hread : IsRead router request
    · rw [route_of_read hcandidates hkind hread]
      exact redirect_of_not_isSendable fun hsendable => h ⟨hread, hsendable⟩
    · exact route_of_unread hread platform.network after
  refine ⟨⟨?_, ?_⟩, hfailed, ?_⟩
  · intro hredirects
    by_contra h
    have hlocation := hredirects.location
    rw [hfailed h] at hlocation
    cases hlocation
  · rintro ⟨hread, hsendable⟩
    rw [hroute, route_of_read hcandidates hkind hread]
    exact redirects_redirect hstatus hsendable
  · intro hplain hquery
    have hwritable := HeaderValue.isWritable_of_isPrintable htarget
    exact .inr (Matcher.forall_mem_of_resolve? hresolve (by decide) hwritable hplain hquery)

/-- A request for a name below the base path of the rule that `moved` has. -/
def movedRequest (name : Text) : Request := { target := { rest := "/old/".toList ++ name } }

theorem load_moved : movedGateway.loader.load (moved "https://new.example")
    movedGateway.documentUrl [] () =
      (.served (movedDocument "https://new.example") .network,
        [("http://rules/".toList,
          { text := movedText "https://new.example", expiresAt := 3600000 })], ()) := rfl

theorem movedRequest_redirects :
    (movedGateway.handle (moved "https://new.example") (movedRequest "page")
      { platform := () }).1.response.Redirects (movedMatcher "https://new.example").rule
        "https://new.example/page" := by
  have hpath : pathOf (movedRouter "https://new.example") (movedRequest "page") = "/old/page" :=
    pathOf_of_not_asset (by decide) (by decide)
  have hfirst : (candidatesOf (movedRouter "https://new.example") (movedRequest "page")).head? =
      some (movedMatcher "https://new.example", "https://new.example/page".toList) := by
    rw [candidatesOf, hpath]
    decide
  have hread : IsRead (movedRouter "https://new.example") (movedRequest "page") := fun _ _ => rfl
  refine (handle_redirects_iff (by decide) (by decide) load_moved (ofDocument?_moved _) hfirst
    (by decide) (Text.forall_mem (by decide))).1.2 ⟨hread, ?_⟩
  exact .inr (Text.forall_mem (by decide))

/-- A delete character that the client escapes makes the redirect fail. -/
theorem movedRequest_fails :
    candidatesOf (movedRouter "https://new.example") (movedRequest "%7F") =
        [(movedMatcher "https://new.example", "https://new.example/\x7f".toList)] ∧
      (movedGateway.handle (moved "https://new.example") (movedRequest "%7F")
        { platform := () }).1.response = .plain 500 "Internal Server Error" := by
  have hcandidates : candidatesOf (movedRouter "https://new.example") (movedRequest "%7F") =
      [(movedMatcher "https://new.example", "https://new.example/\x7f".toList)] := by
    have hpath : pathOf (movedRouter "https://new.example") (movedRequest "%7F") = "/old/\x7f" :=
      pathOf_of_not_asset (by decide) (by decide)
    rw [candidatesOf, hpath]
    decide
  have hsendable : ¬ IsSendable "https://new.example/\x7f" := by
    rintro (hascii | hwritable)
    · cases hascii
    · exact absurd (hwritable '\x7f' (by decide)) (by decide)
  refine ⟨hcandidates, ?_⟩
  rw [handle_eq_route _ _ (by decide) (by decide) load_moved (ofDocument?_moved _),
    route_of_read hcandidates (by decide) fun _ _ => rfl]
  exact redirect_of_not_isSendable hsendable

end Gateway

end RuleGateway
