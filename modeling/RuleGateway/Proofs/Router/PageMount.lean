import RuleGateway.Proofs.Percent.Slash
import RuleGateway.Proofs.Router.Asset
import RuleGateway.Proofs.Router.MountBase

/-!
# Mounts of pages and of their assets

A page lies under the mount of the rule that it is served by, with its escapes decoded. Its
assets are moved under the mounts that its path lies under as the path is written. The two
agree where the path writes the mount without escapes, and `effectivePath_follows_iff` says
what becomes of the assets where it does not.
-/

namespace RuleGateway

namespace Path

open Percent

variable {path text mount : Text}

/-- Whether a path has no escape up to the end of a mount, the slash behind it included, or
no escapes at all because they cannot be read. -/
def WritesPlainly (path mount : Text) : Prop :=
  ¬ IsReadable path ∨ '%' ∉ path.take (mount.length + 1)

theorem isUnder_iff_isPrefix (hroot : mount ≠ ['/']) :
    isUnder path mount ↔ mount ++ ['/'] <+: path ++ ['/'] :=
  ⟨fun h => prefix_of_isUnder h hroot, isUnder_of_isPrefix⟩

/-- A mount that both the path and what the path spells start with spells itself. -/
theorem spells_self_of_isPrefix (h : Spells path text) (hpath : mount ++ ['/'] <+: path)
    (htext : mount ++ ['/'] <+: text) : Spells mount mount := by
  obtain ⟨back, rfl⟩ := hpath
  obtain ⟨rest, rfl⟩ := htext
  rw [List.append_assoc] at h
  obtain ⟨before, behind, hcut, hbefore, -⟩ := spells_plain_slash_iff.1 h
  rw [List.append_assoc, List.singleton_append] at hcut
  have hlength := hbefore.length_le
  rcases List.append_eq_append_iff.1 hcut with ⟨more, rfl, -⟩ | ⟨more, rfl, hmore⟩
  · rw [List.length_append] at hlength
    obtain rfl := List.eq_nil_of_length_eq_zero (l := more) (by omega)
    rwa [List.append_nil] at hbefore
  · cases more with
    | nil => rwa [List.append_nil] at hbefore ⊢
    | cons c more =>
      obtain ⟨rfl, -⟩ := List.cons.inj hmore
      exact absurd rfl (ne_append_of_spells hbefore more)

/-- What lies under a mount when it is read lies there as it is written if it writes the
mount without escapes. -/
theorem isUnder_iff_of_spells (h : Spells path text) (hroot : mount ≠ ['/'])
    (hunder : isUnder text mount) :
    isUnder path mount ↔ '%' ∉ path.take (mount.length + 1) := by
  -- With a slash behind both, lying under a mount is starting with it and a slash.
  have hclosed : Spells (path ++ ['/']) (text ++ ['/']) :=
    spells_plain_slash_iff.2 ⟨text, [], rfl, h, nil_spells_iff.2 rfl⟩
  have hpercent : '%' ∈ (path ++ ['/']).take (mount.length + 1) ↔
      '%' ∈ path.take (mount.length + 1) := by
    rw [List.take_append, List.mem_append]
    refine or_iff_left fun hmem => ?_
    have := List.mem_of_mem_take hmem
    simp at this
  rw [isUnder_iff_isPrefix hroot] at hunder ⊢
  rw [← hpercent]
  constructor
  · intro hpath
    have hplain := not_mem_of_spells_self (spells_self_of_isPrefix hclosed hpath hunder)
    rw [List.prefix_iff_eq_take, List.length_append, List.length_singleton] at hpath
    rw [← hpath]
    simp [hplain]
  · intro hplain
    -- The text is no longer than the path, so the plain start of the path reaches behind the
    -- mount, and it is the start of the text.
    have hlength : (mount ++ ['/']).length ≤ ((path ++ ['/']).take (mount.length + 1)).length := by
      have hle := h.length_le
      have hge := hunder.length_le
      simp only [List.length_append, List.length_singleton] at hge
      simp only [List.length_take, List.length_append, List.length_singleton]
      omega
    rw [← List.take_append_drop (mount.length + 1) (path ++ ['/'])] at hclosed
    obtain ⟨rest, hrest, -⟩ := (spells_append_iff hplain).1 hclosed
    rw [hrest] at hunder
    have hstart := List.prefix_of_prefix_length_le hunder (List.prefix_append _ rest) hlength
    exact hstart.trans (List.take_prefix _ _)

theorem isUnder_iff_writesPlainly (hroot : mount ≠ ['/']) (hunder : isUnder (decode path) mount) :
    isUnder path mount ↔ WritesPlainly path mount := by
  by_cases hreadable : IsReadable path
  · obtain ⟨text, htext⟩ := hreadable
    rw [htext.decode_eq] at hunder
    rw [WritesPlainly, or_iff_right (not_not_intro ⟨text, htext⟩)]
    exact isUnder_iff_of_spells htext hroot hunder
  · rw [decode_of_not_isReadable hreadable] at hunder
    exact iff_of_true hunder (.inl hreadable)

end Path

namespace Router

variable {router : Router} {matcher : Matcher} {path page mount : Text} {url : Url}
variable {referer query : Option Text}

/-- Whether an asset is moved under the mount of a proxy rule, one that is not shorter than
the given mount. -/
def Follows (router : Router) (path : Text) (referer : Option Text) (mount : Text) : Prop :=
  ∃ taken, router.HasMount taken ∧ Text.byteLength mount ≤ Text.byteLength taken ∧
    router.effectivePath path referer = taken ++ path

theorem selects_iff_isNearest (hreferer : referer.bind Url.parse? = some url) :
    router.Selects referer mount ↔ router.IsNearest (Path.normalize url.pathText) mount := by
  constructor
  · intro ⟨other, hother, hnearest⟩
    obtain rfl : other = url := Option.some.inj (hother.symm.trans hreferer)
    exact hnearest
  · intro hnearest
    exact ⟨url, hreferer, hnearest⟩

theorem exists_isNearest (hmounted : router.HasMount mount) (hunder : Path.isUnder page mount) :
    ∃ nearest, router.IsNearest page nearest := by
  obtain ⟨nearest, hnearest⟩ := exists_mountOfPage? hmounted hunder
  exact ⟨nearest, isNearest_of_mountOfPage? hnearest⟩

/-- Assets go where the page lies as it is written. -/
theorem follows_iff (hasset : Path.isRootAsset path)
    (hreferer : referer.bind Url.parse? = some url) :
    router.Follows path referer mount ↔
      ∃ other, router.HasMount other ∧ Text.byteLength mount ≤ Text.byteLength other ∧
        Path.isUnder (Path.normalize url.pathText) other := by
  constructor
  · intro ⟨taken, htaken, hlength, heffective⟩
    have hmoved : router.effectivePath path referer ≠ path := by
      rw [heffective]
      intro hstays
      exact htaken.ne_nil (List.append_left_eq_self.1 hstays)
    obtain ⟨-, nearest, hselected⟩ := effectivePath_ne_iff.1 hmoved
    rw [effectivePath_of_selects hasset hselected] at heffective
    obtain rfl := List.append_cancel_right heffective
    have hnearest := (selects_iff_isNearest hreferer).1 hselected
    exact ⟨nearest, htaken, hlength, hnearest.under⟩
  · intro ⟨other, hother, hlength, hunder⟩
    obtain ⟨nearest, hnearest⟩ := exists_isNearest hother hunder
    have hlonger := hnearest.longest other hother hunder
    have hselected := (selects_iff_isNearest hreferer).2 hnearest
    exact ⟨nearest, hnearest.mounted, Nat.le_trans hlength hlonger,
      effectivePath_of_selects hasset hselected⟩

/-- Of the mounts of a page the nearest lies under all others. -/
theorem IsNearest.isUnder (h : router.IsNearest page mount) {other : Text}
    (hother : router.HasMount other) (hunder : Path.isUnder page other) :
    Path.isUnder mount other := by
  rcases Path.isUnder_total h.under hunder with hbelow | habove
  · exact hbelow
  · rw [Path.eq_of_isUnder_of_le habove h.mounted.ne_root (h.longest other hother hunder)]
    exact Path.isUnder_self mount

/-- A page that a proxy rule serves lies under the mount of the rule. It lies there as it is
written if it writes the mount without escapes, and then its assets are moved under that
mount or one below it. Otherwise they are moved under one that is not shorter only if the
page, as it is written, happens to lie under one. -/
theorem effectivePath_follows_iff (hmem : matcher ∈ router.matchers)
    (hslash : matcher.base.head? = some '/') (hkind : matcher.rule.kind = .proxy)
    (hroot : matcher.mountBase ≠ ['/']) (hreferer : referer.bind Url.parse? = some url)
    (haccepts : (matcher.resolve? (Matcher.requested url.pathText) query).isSome)
    (hasset : Path.isRootAsset path) :
    Path.isUnder (Matcher.requested url.pathText) matcher.mountBase ∧
    (Path.isUnder (Path.normalize url.pathText) matcher.mountBase ↔
      Path.WritesPlainly (Path.normalize url.pathText) matcher.mountBase) ∧
    (Path.WritesPlainly (Path.normalize url.pathText) matcher.mountBase →
      ∃ taken, router.HasMount taken ∧ Path.isUnder taken matcher.mountBase ∧
        router.effectivePath path referer = taken ++ path) ∧
    (router.Follows path referer matcher.mountBase ↔
      ∃ other, router.HasMount other ∧
        Text.byteLength matcher.mountBase ≤ Text.byteLength other ∧
        Path.isUnder (Path.normalize url.pathText) other) := by
  obtain ⟨target, htarget⟩ := Option.isSome_iff_exists.1 haccepts
  have hinert : matcher.rule.isInert = false := by
    by_contra hinert
    rw [Bool.not_eq_false] at hinert
    rw [Matcher.resolve?, Matcher.target?, if_pos hinert] at htarget
    cases htarget
  have hmount : router.HasMount matcher.mountBase := ⟨matcher, hmem, hkind, hinert, rfl, hroot⟩
  have hunder := Matcher.isUnder_mountBase hslash htarget
  have hplain := Path.isUnder_iff_writesPlainly hroot hunder
  refine ⟨hunder, hplain, ?_, follows_iff hasset hreferer⟩
  intro hwrites
  have hwritten := hplain.2 hwrites
  obtain ⟨nearest, hnearest⟩ := exists_isNearest hmount hwritten
  have hselected := (selects_iff_isNearest hreferer).2 hnearest
  exact ⟨nearest, hnearest.mounted, hnearest.isUnder hmount hwritten,
    effectivePath_of_selects hasset hselected⟩

/-- A rule for one version of an application, which is mounted below the application. -/
def versionMatcher : Matcher where
  base := "/app/v2/*"
  rule :=
    { kind := .proxy, target := "https://next.example/$1".toList, appendPath := true,
      status := 302, priority := Rule.priorityOf 2 }
  sequence := 1

/-- A router with both rules. -/
def versionedRouter : Router := { matchers := [Matcher.appMatcher, versionMatcher] }

/-- A page of the version, whose path has an escape and a repeated slash. -/
def versionPage : Text := "https://[::1]/app//v2/caf%C3%A9"

/-- The path of the page as it is written. -/
def versionPath : Text := "/app//v2/caf%C3%A9"

theorem parse?_versionPage :
    ((some versionPage).bind Url.parse?).map Url.pathText = some versionPath := by
  decide +kernel

/-- The page is served for the application too, and its assets go to the version. -/
theorem versionedRouter_follows :
    ((some versionPage).bind Url.parse?).map Url.pathText = some versionPath ∧
      (Matcher.appMatcher.resolve? (Matcher.requested versionPath) none).isSome ∧
      Path.WritesPlainly (Path.normalize versionPath) "/app" ∧
      versionedRouter.Follows "/_nuxt/app.js" (some versionPage) "/app" ∧
      versionedRouter.effectivePath "/_nuxt/app.js" (some versionPage) =
        "/app/v2/_nuxt/app.js".toList := by
  obtain ⟨url, hurl, hpath⟩ := Option.map_eq_some_iff.1 parse?_versionPage
  have haccepts : (Matcher.appMatcher.resolve? (Matcher.requested versionPath) none).isSome := by
    decide +kernel
  have hwrites : Path.WritesPlainly (Path.normalize versionPath) "/app" := .inr (by decide +kernel)
  have hmount : Matcher.appMatcher.mountBase = "/app".toList := by decide +kernel
  have hmem : Matcher.appMatcher ∈ versionedRouter.matchers := List.mem_cons_self
  have hasset : Path.isRootAsset "/_nuxt/app.js" := by decide
  have hpage : (Matcher.appMatcher.resolve? (Matcher.requested url.pathText) none).isSome := by
    rwa [hpath]
  obtain ⟨-, hplain, -, hfollows⟩ := effectivePath_follows_iff hmem rfl rfl
    (by decide +kernel) hurl hpage hasset
  rw [hpath, hmount] at hplain hfollows
  have hown : versionedRouter.HasMount "/app" :=
    ⟨Matcher.appMatcher, hmem, rfl, rfl, hmount, by decide⟩
  refine ⟨parse?_versionPage, haccepts, hwrites, ?_, by decide +kernel⟩
  exact hfollows.2 ⟨"/app", hown, Nat.le_refl _, hplain.2 hwrites⟩

/-- The slot tree of a document with a base path that a page cannot write without escapes. -/
def spacedTree : Json.Members :=
  [("/a b/*", .object
    [("type", .text "proxy".toList), ("target", .text "https://up.example/$1".toList)])]

/-- The document. -/
def spacedDocument : RuleDocument := { members := [("Slots", .object spacedTree)] }

/-- The router of the document. -/
def spacedRouter : Router where
  matchers :=
    [{ base := "/a b/*"
       rule :=
        { kind := .proxy, target := "https://up.example/$1".toList, appendPath := true,
          status := 302, priority := Rule.priorityOf 1 }
       sequence := 0 }]

theorem ofDocument?_spaced : ofDocument? spacedDocument = some spacedRouter := by
  have hslots : Slots.ofTree spacedTree =
      [("/a b/*".toList, [.fields [("type", .text "proxy".toList),
        ("target", .text "https://up.example/$1".toList)]])] := by
    simp only [Slots.ofTree, spacedTree, Slots.stream]
    rfl
  exact ofDocument?_of_lone _ rfl hslots rfl

/-- The page is served and its assets are left where they are. -/
theorem spacedRouter_leaves_asset :
    ofDocument? spacedDocument = some spacedRouter ∧
      (∀ matcher ∈ spacedRouter.matchers, matcher.rule.kind = .proxy ∧
        matcher.mountBase = "/a b".toList ∧
        matcher.resolve? (Matcher.requested "/a%20b/page") none =
          some "https://up.example/page".toList) ∧
      (Url.parse? "https://[::1]/a%20b/page").map Url.pathText = some "/a%20b/page".toList ∧
      Path.isRootAsset "/_next/app.js" ∧
      spacedRouter.effectivePath "/_next/app.js" (some "https://[::1]/a%20b/page".toList) =
        "/_next/app.js".toList ∧
      ¬ spacedRouter.Follows "/_next/app.js" (some "https://[::1]/a%20b/page".toList)
        "/a b" := by
  have hstays : spacedRouter.effectivePath "/_next/app.js"
      (some "https://[::1]/a%20b/page".toList) = "/_next/app.js".toList := by
    decide +kernel
  refine ⟨ofDocument?_spaced, ?_, by decide +kernel, by decide, hstays, ?_⟩
  · intro matcher hmem
    obtain rfl := List.mem_singleton.1 hmem
    exact ⟨rfl, by decide +kernel, by decide +kernel⟩
  · rintro ⟨taken, htaken, -, hmoved⟩
    rw [hstays] at hmoved
    exact htaken.ne_nil (List.self_eq_append_left.1 hmoved)

end Router

end RuleGateway
