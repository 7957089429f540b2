import RuleGateway.Proofs.Pattern.Template
import RuleGateway.Proofs.Router.Nesting
import RuleGateway.Proofs.Url.Authority

/-!
# The origin of a target

A rule whose target is an address names an origin, and requests that the rule
answers should go there. A path below the base path leaves the origin as it is
written. A path that the pattern takes has the target filled as a template, and
there a colon before a word is a reference, also before the port of an origin.
`extends_lead_iff` says when the origin is kept.
-/

namespace RuleGateway

namespace Url

/-- The scheme and the authority of an address. -/
def place (url : Url) : Text × Option Authority := (url.scheme, url.authority)

/-- Whether a text is the start of an address, complete, with what follows it. -/
def Extends (front text : Text) : Prop := ∃ rest, text = front ++ rest ∧ Ended rest

variable {scheme zone : Text}

/-- Whom an address names does not depend on what follows. -/
theorem map_place_parse (h : IsLead scheme zone) {text : Text}
    (htext : Extends (lead scheme zone) text) :
    (parse text).map place =
      (parseAuthority (Text.lower scheme) zone).map fun found =>
        (Text.lower scheme, some found.1) := by
  obtain ⟨rest, rfl, hrest⟩ := htext
  rw [parse_lead h hrest]
  cases parseAuthority (Text.lower scheme) zone <;> rfl

/-- Two starts of addresses that a text extends are the same. -/
theorem extends_lead_iff_eq {filled rest : Text} (hzone : ∀ c ∈ zone, endsAuthority .web c = false)
    (hfilled : ∀ c ∈ filled, endsAuthority .web c = false) (hrest : Ended rest) :
    Extends (lead scheme zone) (lead scheme filled ++ rest) ↔ filled = zone := by
  constructor
  · rintro ⟨rest', hsame, hrest'⟩
    have hzones : filled ++ rest = zone ++ rest' := by
      simpa [lead, List.append_assoc] using hsame
    have htake (zone : Text) (h : ∀ c ∈ zone, endsAuthority .web c = false) (rest : Text)
        (hrest : Ended rest) :
        (zone ++ rest).takeWhile (fun c => !endsAuthority .web c) = zone :=
      Text.takeWhile_append_of_all (fun c hc => by simp [h c hc]) hrest
    rw [← htake filled hfilled rest hrest, hzones, htake zone hzone rest' hrest']
  · rintro rfl
    exact ⟨rest, rfl, hrest⟩

end Url

namespace Template

open Url

variable {pattern : Pattern} {captures : List Text} {scheme zone tail : Text}

/-- Filling a target reaches its origin and what follows one by one. -/
theorem fill_lead (h : IsLead scheme zone) (htail : IsTail tail) :
    fill pattern (lead scheme zone ++ tail) captures =
      lead scheme (fill pattern zone captures) ++ fill pattern tail captures := by
  have hscheme : IsPlain scheme := isPlain_of_unmarked fun c hc => by
    have halpha := h.isAlpha hc
    constructor <;> rintro rfl <;> cases halpha
  have hstops : Text.Stops isWord tail := by
    rcases htail with rfl | htail
    · exact Text.stops_nil _
    · intro c hc
      rw [htail] at hc
      cases hc
      rfl
  rw [fill_append hstops, lead, fill_append (Text.stops_cons rfl _), fill_of_isPlain hscheme,
    fill_cons_of_literal rfl, fill_cons_of_literal rfl, fill_cons_of_literal rfl, lead]

theorem ended_fill (htail : IsTail tail) :
    Ended (fill pattern tail captures) := by
  rcases htail with rfl | htail
  · rw [fill, parts, List.flatMap_nil]
    exact Text.stops_nil _
  · obtain ⟨rest, rfl⟩ := List.head?_eq_some_iff.1 htail
    rw [fill_cons_of_literal rfl]
    exact Text.stops_cons rfl _

end Template

namespace Matcher

open Url

variable {scheme zone tail : Text}

theorem exists_withQuery_append {rest : Text} (front : Text) (hrest : Ended rest)
    (query : Option Text) :
    ∃ rest', withQuery (front ++ rest) query = front ++ rest' ∧ Ended rest' := by
  cases query with
  | none => exact ⟨rest, rfl, hrest⟩
  | some query =>
    rw [withQuery]
    split
    · exact ⟨rest, rfl, hrest⟩
    · refine ⟨rest ++ '?' :: query, List.append_assoc .., ?_⟩
      cases rest with
      | nil => exact Text.stops_cons rfl _
      | cons c rest => exact Text.stops_cons (hrest c rfl) _

/-- What follows the base path in a path from the root. -/
theorem isTail_of_remainder? {base path rest : Text} (hpath : path.head? = some '/')
    (h : remainder? base path = some rest) : IsTail rest := by
  rcases remainder?_eq_some h with ⟨-, rfl | ⟨-, rfl⟩⟩ | ⟨-, -, hrest⟩
  · exact .inr hpath
  · exact .inl rfl
  · exact hrest

/-- A target comes to its origin, filled if the pattern of the base path takes
the path, with what follows it. -/
theorem exists_target?_eq_lead {matcher : Matcher} {path found : Text} (h : IsLead scheme zone)
    (htail : IsTail tail) (htarget : matcher.rule.target = lead scheme zone ++ tail)
    (hpath : path.head? = some '/') (hfound : matcher.target? path = some found) :
    ∃ rest, Ended rest ∧
      ((∃ captures, matcher.pattern.captures? path = some captures ∧
          found = lead scheme (Template.fill matcher.pattern zone captures) ++ rest) ∨
        matcher.pattern.captures? path = none ∧ found = lead scheme zone ++ rest) := by
  rcases target?_eq_some hfound with ⟨captures, hcaptures, hfill⟩ | ⟨hnone, -, -, hbelow⟩
  · rw [htarget, Template.fill_lead h htail] at hfill
    exact ⟨_, Template.ended_fill htail, .inl ⟨captures, hcaptures, hfill⟩⟩
  · obtain ⟨rest, hrest, hcarried⟩ := Option.map_eq_some_iff.1 hbelow
    rw [htarget, dropFinalSlash_lead h] at hcarried
    dsimp only at hcarried
    split at hcarried
    · refine ⟨Text.dropFinalSlash tail ++ rest,
        (htail.dropFinalSlash.append (isTail_of_remainder? hpath hrest)).ended, .inr ⟨hnone, ?_⟩⟩
      rw [← hcarried, List.append_assoc]
    · exact ⟨Text.dropFinalSlash tail, htail.dropFinalSlash.ended, .inr ⟨hnone, hcarried.symm⟩⟩

/-- A rule with a target in the web, whose origin binds no capture, keeps that
origin for a request if the path lies below the base path, or if no colon of the
origin starts a reference. Where it keeps the origin, the address names whom the
target does. -/
theorem extends_lead_iff (matcher : Matcher) {path resolved : Text} {query : Option Text}
    (h : IsLead scheme zone) (hunbound : Template.Unbound matcher.pattern zone)
    (htail : IsTail tail) (htarget : matcher.rule.target = lead scheme zone ++ tail)
    (hpath : path.head? = some '/') (hresolve : matcher.resolve? path query = some resolved) :
    (Extends (lead scheme zone) resolved ↔
      matcher.pattern.captures? path = none ∨ Template.IsPlain zone) ∧
    (Extends (lead scheme zone) resolved →
      (Url.parse resolved).map place = (Url.parse matcher.rule.target).map place) := by
  constructor
  · obtain ⟨found, hfound, rfl⟩ := Option.map_eq_some_iff.1 hresolve
    obtain ⟨rest, hrest, ⟨captures, hcaptures, rfl⟩ | ⟨hnone, rfl⟩⟩ :=
      exists_target?_eq_lead h htail htarget hpath hfound
    · obtain ⟨rest', hresolved, hrest'⟩ := exists_withQuery_append
        (lead scheme (Template.fill matcher.pattern zone captures)) hrest query
      have hfilled : ∀ c ∈ Template.fill matcher.pattern zone captures,
          endsAuthority .web c = false := fun c hc =>
        h.within c ((Template.fill_sublist hunbound).subset hc)
      rw [hresolved, extends_lead_iff_eq h.within hfilled hrest',
        Template.fill_eq_iff_isPlain hunbound]
      simp [hcaptures]
    · obtain ⟨rest', hresolved, hrest'⟩ := exists_withQuery_append (lead scheme zone) hrest query
      exact iff_of_true ⟨rest', hresolved, hrest'⟩ (.inl hnone)
  · intro hextends
    rw [map_place_parse h hextends, map_place_parse h ⟨tail, htarget, htail.ended⟩]

/-- A rule that leads to a host at a port. -/
def portMatcher : Matcher where
  base := "/app"
  rule :=
    { kind := .subtree, target := "https://host:8080".toList, appendPath := true, status := 302,
      priority := Rule.priorityOf 1 }
  sequence := 0

theorem isLead_portMatcher : IsLead "https" "host:8080" :=
  ⟨by decide, by decide, Text.forall_mem (by decide), Text.forall_mem (by decide)⟩

theorem unbound_portMatcher : Template.Unbound portMatcher.pattern "host:8080" :=
  ⟨by decide, by decide⟩

theorem portMatcher_extends_lead :
    Extends (lead "https" "host:8080") "https://host:8080/x".toList ∧
      (Url.parse "https://host:8080/x".toList).map place =
        (Url.parse portMatcher.rule.target).map place := by
  have hresolve : portMatcher.resolve? "/app/x".toList none =
      some "https://host:8080/x".toList := by decide
  have hkept := extends_lead_iff portMatcher isLead_portMatcher unbound_portMatcher (.inl rfl) rfl
    (by decide) hresolve
  have hbelow := hkept.1.2 (.inl (by decide))
  exact ⟨hbelow, hkept.2 hbelow⟩

/-- The port is lost where the path is the base path itself. -/
theorem portMatcher_loses_port :
    portMatcher.resolve? "/app" none = some "https://host".toList ∧
      ¬ Extends (lead "https" "host:8080") "https://host" := by
  have hfilled : Template.fill portMatcher.pattern "host:8080" [] = "host" := by
    have hhost : Template.IsPlain "host" :=
      Template.isPlain_of_unmarked (Text.forall_mem (by decide))
    have hport : Template.Unbound portMatcher.pattern (':' :: "8080".toList) :=
      ⟨by decide, by decide⟩
    have hreference : Template.reference? ':' "8080" = some (.name "8080", []) := by decide
    have hsplit : "host:8080".toList = "host".toList ++ ':' :: "8080".toList := by decide
    rw [hsplit, Template.fill_append (Text.stops_cons rfl _), Template.fill_of_isPlain hhost,
      hport.fill_cons hreference, Template.fill, Template.parts]
    rfl
  have htarget : Template.fill portMatcher.pattern portMatcher.rule.target [] = "https://host" := by
    have hlead : portMatcher.rule.target = lead "https" "host:8080" ++ [] := rfl
    rw [hlead, Template.fill_lead isLead_portMatcher (.inl rfl), hfilled, Template.fill,
      Template.parts]
    rfl
  constructor
  · have hcaptures : portMatcher.pattern.scan? "/app" = some [] := by decide
    have hinert : portMatcher.rule.isInert = false := by decide
    rw [resolve?, target?, hinert, hcaptures, ← htarget]
    rfl
  · have hhost : ∀ c ∈ "host".toList, endsAuthority .web c = false :=
      Text.forall_mem (by decide)
    have hsame : Extends (lead "https" "host:8080") (lead "https" "host" ++ []) ↔ _ :=
      extends_lead_iff_eq isLead_portMatcher.within hhost (Text.stops_nil _)
    exact fun hextends => absurd (hsame.1 hextends) (by decide)

end Matcher

end RuleGateway
