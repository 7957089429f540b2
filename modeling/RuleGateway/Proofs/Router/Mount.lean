import RuleGateway.Proofs.Page.Links
import RuleGateway.Proofs.Path
import RuleGateway.Proofs.Pattern.Assignment
import RuleGateway.Proofs.Router.Nesting

/-!
# Links of a mounted page that come back

A rule for everything below a literal path is mounted there, and the links of its
pages get the mount in front. A request for such a link is brought into normal form
and decoded before it is matched. It comes back to the rule if the mount comes out as
itself and the link goes below it (`mountedLink_resolves_iff`). The link to the root
of the page does not: its final slash is lost, and the rule takes nothing without it.
-/

namespace RuleGateway

namespace Matcher

section Below

variable {matcher : Matcher} {mount path : Text}

theorem segments_below (mount : Text) :
    Path.segments (mount ++ "/*".toList) = Path.segments mount ++ [['*']] :=
  Path.segments_append_cons mount ['*']

/-- A rule for everything below a literal path is mounted at the path. -/
theorem mount?_below (hbase : matcher.base = mount ++ "/*".toList)
    (hslash : mount.head? = some '/') (hroot : mount ≠ ['/'])
    (hliteral : ∀ segment ∈ Path.segments mount, Path.isDynamic segment = false) :
    matcher.mount? = some mount := by
  have hliterals : (Path.segments matcher.base).takeWhile (!Path.isDynamic ·) =
      Path.segments mount := by
    have hstops : Path.isDynamic ['*'] := by decide
    rw [hbase, segments_below, List.takeWhile_append_of_pos]
    · simp [hstops]
    · intro segment hsegment
      rw [hliteral segment hsegment]
      rfl
  have hne : mount.isEmpty = false := by
    cases mount with
    | nil => cases hslash
    | cons c rest => rfl
  have hmount : matcher.mountBase = mount := by
    rw [mountBase, Path.literalPrefix?, hliterals, Path.ofSegments_segments hslash]
    rw [hne, hbase, if_neg Bool.false_ne_true, Text.takeBytes?_append]
    rfl
  rw [mount?, hmount, if_neg hroot]

/-- What goes on behind the path with a slash is all that its wildcard takes. -/
theorem assigns_below {texts : List Text} (hmount : Path.ofSegments (Path.segments mount) = mount)
    (hliteral : ∀ segment ∈ Path.segments mount, Path.isDynamic segment = false) :
    Path.Assigns (Path.segments (mount ++ "/*".toList)) texts path ↔
      ∃ taken, texts = [taken] ∧ path = mount ++ '/' :: taken ∧ '\n' ∉ taken := by
  have hstar : Path.isDynamic ['*'] := by decide
  rw [segments_below, Path.assigns_literals hliteral, hmount]
  constructor
  · rintro ⟨left, rfl, hleft⟩
    obtain ⟨taken, rest, final, rfl, htake, rfl, hfinal⟩ := (Path.assigns_dynamic hstar).1 hleft
    obtain ⟨rfl, rfl⟩ := Path.assigns_nil.1 hfinal
    rw [Path.MayTake, if_pos rfl] at htake
    exact ⟨taken, rfl, by rw [List.append_nil], htake⟩
  · rintro ⟨taken, rfl, rfl, htake⟩
    refine ⟨'/' :: taken, rfl, (Path.assigns_dynamic hstar).2
      ⟨taken, [], [], rfl, ?_, ?_, Path.assigns_nil.2 ⟨rfl, rfl⟩⟩⟩
    · rw [Path.MayTake, if_pos rfl]
      exact htake
    · rw [List.append_nil]

/-- It takes the paths that go on behind the path with a slash. -/
theorem isSome_scan?_below (hbase : matcher.base = mount ++ "/*".toList)
    (hslash : mount.head? = some '/')
    (hliteral : ∀ segment ∈ Path.segments mount, Path.isDynamic segment = false) :
    (matcher.pattern.scan? path).isSome ↔ ∃ taken, path = mount ++ '/' :: taken ∧ '\n' ∉ taken := by
  rw [pattern, hbase, Pattern.isSome_scan?_iff]
  simp only [assigns_below (Path.ofSegments_segments hslash) hliteral]
  rw [exists_comm]
  simp only [exists_eq_left]

/-- A rule for a base path that is not literal resolves what its pattern takes. -/
theorem isSome_resolve?_iff (hdynamic : matcher.pattern.isDynamic) (path : Text)
    (query : Option Text) :
    (matcher.resolve? path query).isSome ↔
      matcher.rule.isInert = false ∧ (matcher.pattern.scan? path).isSome := by
  rw [resolve?, Option.isSome_map, target?]
  cases matcher.rule.isInert with
  | true => simp
  | false =>
    rw [if_neg Bool.false_ne_true]
    cases matcher.pattern.scan? path with
    | none => simp [hdynamic]
    | some captures => simp

end Below

/-- The path that matchers see of a request for a path. -/
def requested (path : Text) : Text := Path.decode (Path.normalize path)

/-- The links of a page that get the mount in front lead back to the rule of the page
where the mount is left alone on the way to a matcher and the link is not empty.
A line break is the one thing that a link must not have. A rule without a target takes
the link and does nothing with it. -/
theorem mountedLink_resolves_iff {matcher : Matcher} {mount page : Text} {link : Links.RootLink}
    (hbase : matcher.base = mount ++ "/*".toList) (hslash : mount.head? = some '/')
    (hroot : mount ≠ ['/'])
    (hliteral : ∀ segment ∈ Path.segments mount, Path.isDynamic segment = false)
    (hlink : link ∈ Links.mounted page) (hpercent : '%' ∉ link.value) (query : Option Text) :
    matcher.mount? = some mount ∧
    (∃ front back, Links.mount mount page =
      front ++ link.lead ++ mount ++ '/' :: link.value ++ '"' :: back) ∧
    ((matcher.pattern.scan? (requested (mount ++ '/' :: link.value))).isSome ↔
      requested mount = mount ∧ link.value ≠ [] ∧ '\n' ∉ link.value) ∧
    ((matcher.resolve? (requested (mount ++ '/' :: link.value)) query).isSome ↔
      matcher.rule.isInert = false ∧
        (matcher.pattern.scan? (requested (mount ++ '/' :: link.value))).isSome) := by
  obtain ⟨hmoved, front, hfront⟩ := Links.exists_of_mem_mounted hlink mount
  have hne : mount ≠ [] := by
    rintro rfl
    cases hslash
  have hdynamic : matcher.pattern.isDynamic := by
    rw [pattern, hbase, Pattern.ofBase, segments_below, Pattern.isDynamic, List.map_append,
      List.any_append]
    simp [Segment.ofText_wildcard, Segment.isDynamic]
  have hbreak : '\n' ∉ Text.dropFinalSlash (Path.collapse link.value) ↔ '\n' ∉ link.value := by
    rw [Path.mem_dropFinalSlash (by decide), Path.mem_collapse (by decide)]
  refine ⟨mount?_below hbase hslash hroot hliteral, ⟨front, _, hfront⟩, ?_,
    isSome_resolve?_iff hdynamic _ query⟩
  rw [isSome_scan?_below hbase hslash hliteral]
  simp only [requested,
    Path.decode_normalize_below_iff hne hroot (Links.head?_ne_slash hmoved) hpercent]
  constructor
  · rintro ⟨taken, ⟨hmount, hvalue, rfl⟩, htake⟩
    exact ⟨hmount, hvalue, hbreak.1 htake⟩
  · rintro ⟨hmount, hvalue, htake⟩
    exact ⟨_, ⟨hmount, hvalue, rfl⟩, hbreak.2 htake⟩

/-- A rule for everything below one literal segment. -/
def appMatcher : Matcher where
  base := "/app/*"
  rule :=
    { kind := .proxy, target := "https://up.example/$1".toList, appendPath := true, status := 302,
      priority := Rule.priorityOf 1 }
  sequence := 0

/-- A link of the text of a page. -/
def linkTo (value : Text) : Links.RootLink :=
  { lead := "href=\"".toList, value, after := ">".toList }

theorem appMatcher_resolves_docs :
    linkTo "docs" ∈ Links.mounted "<a href=\"/docs\">" ∧
      (appMatcher.pattern.scan? (requested "/app/docs")).isSome ∧
      (appMatcher.resolve? (requested "/app/docs") none).isSome := by
  have hlink : linkTo "docs" ∈ Links.mounted "<a href=\"/docs\">" := by decide +kernel
  have hbase : appMatcher.base = "/app".toList ++ "/*".toList := rfl
  obtain ⟨-, -, htaken, hresolved⟩ := mountedLink_resolves_iff hbase rfl (by decide) (by decide)
    hlink (by decide) none
  have htake := htaken.2 ⟨by decide, by decide, by decide⟩
  exact ⟨hlink, htake, hresolved.2 ⟨by decide, htake⟩⟩

/-- The link to the root of a page is mounted like the others and does not lead back. -/
theorem appMatcher_loses_home :
    linkTo [] ∈ Links.mounted "<a href=\"/\">" ∧
      Links.mount "/app" "<a href=\"/\">" = "<a href=\"/app/\">".toList ∧
      appMatcher.mount? = some "/app".toList ∧
      appMatcher.pattern.scan? (requested "/app/") = none ∧
      appMatcher.resolve? (requested "/app/") none = none := by
  refine ⟨?_, ?_, ?_, ?_, ?_⟩
  all_goals decide +kernel

end Matcher

end RuleGateway
