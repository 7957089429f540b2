import Mathlib.Data.List.Induction
import RuleGateway.Proofs.Router.Nesting
import RuleGateway.Router.Asset

/-!
# Mounts that take assets

An asset at the root is moved under a mount that its page lies under. Mounts of one page
are nested, so there is one that is longer than all others, whatever the order of the
rules (`effectivePath_nearest`). The path is moved without a look at where it lies:
nothing is lost as long as the mount is no directory of a framework itself, and otherwise
the asset gets a mount that it may carry already (`effectivePath_settles_iff`).
-/

namespace RuleGateway

namespace Text

theorem byteLength_append (front back : Text) :
    byteLength (front ++ back) = byteLength front + byteLength back := by
  induction front with
  | nil => simp [byteLength]
  | cons c front ih =>
    rw [List.cons_append, byteLength, byteLength, ih]
    omega

theorem byteLength_lt_append_cons (front : Text) (c : Char) (rest : Text) :
    byteLength front < byteLength (front ++ c :: rest) := by
  have hpos := utf8Size_pos c
  rw [byteLength_append, byteLength]
  omega

/-- A start of a text that has bytes has characters. -/
theorem ne_nil_of_takeBytes? {n : Nat} {text start : Text} (hn : n ≠ 0)
    (h : takeBytes? n text = some start) : start ≠ [] := by
  unfold takeBytes? at h
  rw [if_neg hn] at h
  cases text with
  | nil => cases h
  | cons c rest =>
    obtain ⟨more, -, rfl⟩ := Option.map_eq_some_iff.1 (Option.ite_none_right_eq_some.1 h).2
    exact List.cons_ne_nil c more

end Text

namespace Path

section Chain

variable {path a b : Text}

/-- What lies under a base path other than the root and has no more bytes is that path. -/
theorem eq_of_isUnder_of_le (h : isUnder b a) (hroot : a ≠ ['/'])
    (hle : Text.byteLength b ≤ Text.byteLength a) : b = a := by
  rcases isUnder_iff.1 h with hslash | hsame | ⟨rest, rfl⟩
  · exact absurd hslash hroot
  · exact hsame
  · have := Text.byteLength_lt_append_cons a '/' rest
    omega

/-- Nested base paths of one length are the same. -/
theorem eq_of_byteLength_eq (ha : isUnder path a) (hb : isUnder path b) (hroot : a ≠ ['/'])
    (hroot' : b ≠ ['/']) (h : Text.byteLength a = Text.byteLength b) : a = b := by
  rcases isUnder_total ha hb with hab | hba
  · exact eq_of_isUnder_of_le hab hroot' (Nat.le_of_eq h)
  · exact (eq_of_isUnder_of_le hba hroot (Nat.le_of_eq h.symm)).symm

end Chain

section Asset

variable {path mount : Text}

/-- The directories of frameworks are single segments. -/
theorem assetRoots_spec : ∀ root ∈ assetRoots,
    root.head? = some '/' ∧ root ≠ ['/'] ∧ '/' ∉ root.tail := by decide

/-- An asset at the root lies under the directory of a framework. -/
theorem isRootAsset_iff : isRootAsset path ↔ ∃ root ∈ assetRoots, isUnder path root := by
  rw [isRootAsset, List.any_eq_true]
  refine exists_congr fun root => and_congr_right fun hroot => ?_
  have hne : root ≠ ['/'] := (assetRoots_spec root hroot).2.1
  rw [isUnder_iff]
  cases hafter : Text.after? root path with
  | none =>
    have hstart : ¬ root <+: path := by
      rw [← Text.startsWith_iff, Text.startsWith, hafter]
      exact Bool.false_ne_true
    refine iff_of_false Bool.false_ne_true ?_
    rintro (hslash | rfl | ⟨rest, rfl⟩)
    · exact hne hslash
    · exact hstart List.prefix_rfl
    · exact hstart (List.prefix_append _ _)
  | some rest =>
    obtain rfl := Text.after?_eq_some_iff.1 hafter
    simp [hne, List.head?_eq_some_iff]

theorem head?_of_isRootAsset (h : isRootAsset path) : path.head? = some '/' := by
  obtain ⟨root, hroot, hunder⟩ := isRootAsset_iff.1 h
  obtain ⟨hslash, hne, -⟩ := assetRoots_spec root hroot
  obtain ⟨rest, rfl⟩ := List.head?_eq_some_iff.1 hslash
  rcases isUnder_iff.1 hunder with hself | rfl | ⟨more, rfl⟩
  · exact absurd hself hne
  · rfl
  · rfl

/-- A mount that an asset lies under is the directory of a framework or lies in it. -/
theorem isRootAsset_of_isUnder (hne : mount ≠ []) (hroot : mount ≠ ['/'])
    (hasset : isRootAsset path) (hunder : isUnder path mount) : isRootAsset mount := by
  obtain ⟨root, hmem, hpath⟩ := isRootAsset_iff.1 hasset
  apply isRootAsset_iff.2
  refine ⟨root, hmem, ?_⟩
  rcases isUnder_total hunder hpath with hbelow | habove
  · exact hbelow
  rcases isUnder_iff.1 habove with hslash | rfl | ⟨rest, rfl⟩
  · exact absurd hslash hroot
  · exact isUnder_self _
  · -- The directory would have a second segment.
    obtain ⟨c, more, rfl⟩ := List.exists_cons_of_ne_nil hne
    have hsingle := (assetRoots_spec _ hmem).2.2
    exact absurd (List.mem_append_right more List.mem_cons_self) hsingle

/-- An asset is one again below a mount exactly if the mount is such a directory. -/
theorem isRootAsset_append_iff (hne : mount ≠ []) (hroot : mount ≠ ['/'])
    (hasset : isRootAsset path) : isRootAsset (mount ++ path) ↔ isRootAsset mount := by
  obtain ⟨rest, rfl⟩ := List.head?_eq_some_iff.1 (head?_of_isRootAsset hasset)
  constructor
  · intro hbelow
    exact isRootAsset_of_isUnder hne hroot hbelow (isUnder_iff.2 (.inr (.inr ⟨rest, rfl⟩)))
  · intro hmount
    obtain ⟨root, hmem, hunder⟩ := isRootAsset_iff.1 hmount
    apply isRootAsset_iff.2
    refine ⟨root, hmem, isUnder_iff.2 ?_⟩
    rcases isUnder_iff.1 hunder with hslash | rfl | ⟨more, rfl⟩
    · exact .inl hslash
    · exact .inr (.inr ⟨rest, rfl⟩)
    · exact .inr (.inr ⟨more ++ '/' :: rest, by rw [List.append_assoc, List.cons_append]⟩)

end Asset

end Path

namespace Matcher

variable {matcher : Matcher} {mount : Text}

theorem mount?_eq_some_iff :
    matcher.mount? = some mount ↔ matcher.mountBase = mount ∧ mount ≠ ['/'] := by
  rw [mount?]
  split
  · rename_i hroot
    refine iff_of_false (fun h => by cases h) ?_
    rintro ⟨rfl, hne⟩
    exact hne hroot
  · rename_i hroot
    rw [Option.some.injEq]
    refine ⟨fun h => ⟨h, h ▸ hroot⟩, And.left⟩

theorem mountBase_ne_nil (matcher : Matcher) : matcher.mountBase ≠ [] := by
  rw [mountBase, Path.literalPrefix?]
  split
  · exact List.cons_ne_nil _ _
  · rename_i hliteral
    cases hcut : Text.takeBytes? _ matcher.base with
    | none => exact List.cons_ne_nil _ _
    | some start =>
      refine Text.ne_nil_of_takeBytes? ?_ hcut
      intro hzero
      cases hempty : Path.ofSegments ((Path.segments matcher.base).takeWhile (!Path.isDynamic ·)) with
      | nil => exact hliteral (by rw [hempty]; rfl)
      | cons c rest =>
        have hpos := Text.utf8Size_pos c
        rw [hempty, Text.byteLength] at hzero
        omega

end Matcher

namespace Router

variable {router : Router} {path page mount : Text} {referer : Option Text}

/-- A proxy rule that has a target is mounted there, and not at the root. -/
def HasMount (router : Router) (mount : Text) : Prop :=
  ∃ m ∈ router.matchers, m.rule.kind = .proxy ∧ m.rule.isInert = false ∧
    m.mountBase = mount ∧ mount ≠ ['/']

theorem HasMount.ne_root (h : router.HasMount mount) : mount ≠ ['/'] := by
  obtain ⟨m, -, -, -, -, hroot⟩ := h
  exact hroot

theorem HasMount.ne_nil (h : router.HasMount mount) : mount ≠ [] := by
  obtain ⟨m, -, -, -, rfl, -⟩ := h
  exact m.mountBase_ne_nil

theorem mem_proxyMounts : mount ∈ router.proxyMounts ↔ router.HasMount mount := by
  rw [proxyMounts, List.mem_filterMap]
  constructor
  · rintro ⟨m, hm, hmount⟩
    obtain ⟨hmem, hproxy⟩ := List.mem_filter.1 hm
    obtain ⟨hkind, hinert⟩ := of_decide_eq_true hproxy
    exact ⟨m, hmem, hkind, hinert, Matcher.mount?_eq_some_iff.1 hmount⟩
  · rintro ⟨m, hmem, hkind, hinert, hmount⟩
    exact ⟨m, List.mem_filter.2 ⟨hmem, decide_eq_true ⟨hkind, hinert⟩⟩,
      Matcher.mount?_eq_some_iff.2 hmount⟩

/-- The longest of some mounts, or none if there are none. -/
def IsLongest (mounts : List Text) : Option Text → Prop
  | none => mounts = []
  | some mount => mount ∈ mounts ∧
      ∀ other ∈ mounts, Text.byteLength other ≤ Text.byteLength mount

theorem IsLongest.longer {mounts : List Text} {best : Option Text} (h : IsLongest mounts best)
    (mount : Text) : IsLongest (mounts ++ [mount]) (longer best mount) := by
  cases best with
  | none =>
    obtain rfl : mounts = [] := h
    exact ⟨List.mem_singleton.2 rfl, by simp⟩
  | some old =>
    obtain ⟨hold, hmax⟩ := h
    rw [Router.longer]
    split
    · refine ⟨List.mem_append_left _ hold, ?_⟩
      intro other hother
      rcases List.mem_append.1 hother with hmem | hmem
      · exact hmax other hmem
      · obtain rfl := List.mem_singleton.1 hmem
        omega
    · refine ⟨List.mem_append_right _ (List.mem_singleton.2 rfl), ?_⟩
      intro other hother
      rcases List.mem_append.1 hother with hmem | hmem
      · have := hmax other hmem
        omega
      · obtain rfl := List.mem_singleton.1 hmem
        omega

theorem isLongest_foldl (mounts : List Text) : IsLongest mounts (mounts.foldl longer none) := by
  induction mounts using List.reverseRecOn with
  | nil => rfl
  | append_singleton mounts mount ih =>
    rw [List.foldl_append]
    exact ih.longer mount

/-- The mount that a page lies under when it lies under several: the longest. -/
structure IsNearest (router : Router) (page mount : Text) : Prop where
  mounted : router.HasMount mount
  under : Path.isUnder page mount
  longest : ∀ other, router.HasMount other → Path.isUnder page other →
    Text.byteLength other ≤ Text.byteLength mount

theorem IsNearest.eq {other : Text} (h : router.IsNearest page mount)
    (hother : router.IsNearest page other) : mount = other := by
  have hle := hother.longest mount h.mounted h.under
  have hge := h.longest other hother.mounted hother.under
  exact Path.eq_of_byteLength_eq h.under hother.under h.mounted.ne_root hother.mounted.ne_root
    (by omega)

theorem mem_mountsOfPage :
    mount ∈ router.proxyMounts.filter (Path.isUnder page) ↔
      router.HasMount mount ∧ Path.isUnder page mount := by
  rw [List.mem_filter, mem_proxyMounts]

theorem isNearest_of_mountOfPage? (h : router.mountOfPage? page = some mount) :
    router.IsNearest page mount := by
  have hlongest := isLongest_foldl (router.proxyMounts.filter (Path.isUnder page))
  rw [← mountOfPage?, h] at hlongest
  obtain ⟨hmem, hmax⟩ := hlongest
  obtain ⟨hmounted, hunder⟩ := mem_mountsOfPage.1 hmem
  exact
    { mounted := hmounted
      under := hunder
      longest := fun other hother hbelow => hmax other (mem_mountsOfPage.2 ⟨hother, hbelow⟩) }

theorem exists_mountOfPage? (hmounted : router.HasMount mount) (hunder : Path.isUnder page mount) :
    ∃ nearest, router.mountOfPage? page = some nearest := by
  have hlongest := isLongest_foldl (router.proxyMounts.filter (Path.isUnder page))
  rw [← mountOfPage?] at hlongest
  cases hfound : router.mountOfPage? page with
  | some nearest => exact ⟨nearest, rfl⟩
  | none =>
    rw [hfound] at hlongest
    have hmem := mem_mountsOfPage.2 ⟨hmounted, hunder⟩
    rw [show router.proxyMounts.filter (Path.isUnder page) = [] from hlongest] at hmem
    cases hmem

theorem mountOfPage?_eq_some_iff :
    router.mountOfPage? page = some mount ↔ router.IsNearest page mount := by
  constructor
  · exact isNearest_of_mountOfPage?
  · intro h
    obtain ⟨nearest, hnearest⟩ := exists_mountOfPage? h.mounted h.under
    rw [hnearest, (isNearest_of_mountOfPage? hnearest).eq h]

/-- Which mount is the nearest depends on which mounts there are. -/
theorem IsNearest.of_hasMount_iff {other : Router}
    (hsame : ∀ mount, other.HasMount mount ↔ router.HasMount mount)
    (h : router.IsNearest page mount) : other.IsNearest page mount where
  mounted := (hsame mount).2 h.mounted
  under := h.under
  longest := fun further hmounted => h.longest further ((hsame further).1 hmounted)

/-- The mount that the assets of the referring page are moved under. -/
def Selects (router : Router) (referer : Option Text) (mount : Text) : Prop :=
  ∃ url, referer.bind Url.parse? = some url ∧ router.IsNearest (Path.normalize url.pathText) mount

theorem selects_iff :
    router.Selects referer mount ↔ (pageOf? referer).bind router.mountOfPage? = some mount := by
  rw [Option.bind_eq_some_iff]
  constructor
  · intro ⟨url, hurl, hnearest⟩
    have hpage : pageOf? referer = some (Path.normalize url.pathText) := by
      rw [pageOf?, hurl, Option.map_some]
    exact ⟨_, hpage, mountOfPage?_eq_some_iff.2 hnearest⟩
  · intro ⟨page, hpage, hmount⟩
    obtain ⟨url, hurl, rfl⟩ := Option.map_eq_some_iff.1 hpage
    exact ⟨url, hurl, mountOfPage?_eq_some_iff.1 hmount⟩

theorem exists_selects_iff :
    (∃ mount, router.Selects referer mount) ↔ ∃ url, referer.bind Url.parse? = some url ∧
      ∃ mount, router.HasMount mount ∧ Path.isUnder (Path.normalize url.pathText) mount := by
  constructor
  · intro ⟨mount, url, hurl, hnearest⟩
    exact ⟨url, hurl, mount, hnearest.mounted, hnearest.under⟩
  · intro ⟨url, hurl, mount, hmounted, hunder⟩
    obtain ⟨nearest, hnearest⟩ := exists_mountOfPage? hmounted hunder
    exact ⟨nearest, url, hurl, isNearest_of_mountOfPage? hnearest⟩

theorem Selects.ne_root (h : router.Selects referer mount) : mount ≠ ['/'] := by
  obtain ⟨_, -, hnearest⟩ := h
  exact hnearest.mounted.ne_root

theorem Selects.ne_nil (h : router.Selects referer mount) : mount ≠ [] := by
  obtain ⟨_, -, hnearest⟩ := h
  exact hnearest.mounted.ne_nil

theorem Selects.of_hasMount_iff {other : Router}
    (hsame : ∀ mount, other.HasMount mount ↔ router.HasMount mount)
    (h : router.Selects referer mount) : other.Selects referer mount := by
  obtain ⟨url, hurl, hnearest⟩ := h
  exact ⟨url, hurl, hnearest.of_hasMount_iff hsame⟩

theorem effectivePath_of_selects (hasset : Path.isRootAsset path)
    (h : router.Selects referer mount) : router.effectivePath path referer = mount ++ path := by
  rw [effectivePath, if_pos hasset, selects_iff.1 h]

theorem effectivePath_of_not_asset (h : Path.isRootAsset path = false) :
    router.effectivePath path referer = path := by
  rw [effectivePath, h, if_neg Bool.false_ne_true]

theorem effectivePath_of_not_selects (h : ¬ ∃ mount, router.Selects referer mount) :
    router.effectivePath path referer = path := by
  have hnone : (pageOf? referer).bind router.mountOfPage? = none := by
    apply Option.eq_none_iff_forall_ne_some.2
    intro mount hmount
    exact h ⟨mount, selects_iff.2 hmount⟩
  rw [effectivePath, hnone, ite_self]

/-- A path is moved exactly if it is an asset and its page selects a mount. -/
theorem effectivePath_ne_iff :
    router.effectivePath path referer ≠ path ↔
      Path.isRootAsset path ∧ ∃ mount, router.Selects referer mount := by
  constructor
  · intro hmoved
    refine ⟨?_, ?_⟩
    · cases hasset : Path.isRootAsset path with
      | false => exact absurd (effectivePath_of_not_asset hasset) hmoved
      | true => rfl
    · apply Classical.byContradiction
      intro hnone
      exact hmoved (effectivePath_of_not_selects hnone)
  · intro ⟨hasset, mount, hmount⟩ hstays
    rw [effectivePath_of_selects hasset hmount] at hstays
    exact hmount.ne_nil (List.append_left_eq_self.1 hstays)

/-- Routers with the same mounts move the same paths to the same places. -/
theorem effectivePath_of_hasMount_iff {other : Router}
    (hsame : ∀ mount, other.HasMount mount ↔ router.HasMount mount) :
    other.effectivePath path referer = router.effectivePath path referer := by
  cases hasset : Path.isRootAsset path with
  | false => rw [effectivePath_of_not_asset hasset, effectivePath_of_not_asset hasset]
  | true =>
    by_cases hselects : ∃ mount, router.Selects referer mount
    · obtain ⟨mount, hmount⟩ := hselects
      rw [effectivePath_of_selects hasset hmount,
        effectivePath_of_selects hasset (hmount.of_hasMount_iff hsame)]
    · have hother : ¬ ∃ mount, other.Selects referer mount := by
        intro ⟨mount, hmount⟩
        exact hselects ⟨mount, hmount.of_hasMount_iff fun further => (hsame further).symm⟩
      rw [effectivePath_of_not_selects hselects, effectivePath_of_not_selects hother]

/-- A path is moved if it is an asset whose page lies under a mount, and then under the
longest of them. The mounts of a page are nested, and no two are of one length, so it does
not matter in which order and how often the router has them. -/
theorem effectivePath_nearest (router : Router) (path : Text) (referer : Option Text) :
    (router.effectivePath path referer ≠ path ↔
      Path.isRootAsset path ∧ ∃ url, referer.bind Url.parse? = some url ∧
        ∃ mount, router.HasMount mount ∧ Path.isUnder (Path.normalize url.pathText) mount) ∧
    (router.effectivePath path referer ≠ path →
      ∃ mount, router.Selects referer mount ∧
        router.effectivePath path referer = mount ++ path) ∧
    (∀ page a b, router.HasMount a → router.HasMount b → Path.isUnder page a →
      Path.isUnder page b → (Path.isUnder a b ∨ Path.isUnder b a) ∧
        (Text.byteLength a = Text.byteLength b → a = b)) ∧
    ∀ other : Router, (∀ mount, other.HasMount mount ↔ router.HasMount mount) →
      other.effectivePath path referer = router.effectivePath path referer := by
  refine ⟨?_, ?_, ?_, ?_⟩
  · rw [effectivePath_ne_iff, exists_selects_iff]
  · intro hmoved
    obtain ⟨hasset, mount, hmount⟩ := effectivePath_ne_iff.1 hmoved
    exact ⟨mount, hmount, effectivePath_of_selects hasset hmount⟩
  · intro page a b ha hb hunder hunder'
    exact ⟨Path.isUnder_total hunder hunder',
      Path.eq_of_byteLength_eq hunder hunder' ha.ne_root hb.ne_root⟩
  · intro other hsame
    exact effectivePath_of_hasMount_iff hsame

/-- An asset that lies under the mount of its page already stays where it is. -/
def LeavesMounted (router : Router) (referer : Option Text) : Prop :=
  ∀ path mount, Path.isRootAsset path → router.Selects referer mount → Path.isUnder path mount →
    router.effectivePath path referer = path

/-- A path that was moved is not moved again. -/
def Settles (router : Router) (referer : Option Text) : Prop :=
  ∀ path, router.effectivePath (router.effectivePath path referer) referer =
    router.effectivePath path referer

/-- What was moved is an asset again only if the mount is the directory of a framework. -/
theorem effectivePath_effectivePath_eq_iff (hasset : Path.isRootAsset path)
    (h : router.Selects referer mount) :
    router.effectivePath (router.effectivePath path referer) referer =
        router.effectivePath path referer ↔
      Path.isRootAsset mount = false := by
  rw [effectivePath_of_selects hasset h]
  have hagain : Path.isRootAsset (mount ++ path) ↔ Path.isRootAsset mount :=
    Path.isRootAsset_append_iff h.ne_nil h.ne_root hasset
  constructor
  · intro hstays
    apply Bool.eq_false_iff.2
    intro hmount
    exact effectivePath_ne_iff.2 ⟨hagain.2 hmount, mount, h⟩ hstays
  · intro hmount
    apply effectivePath_of_not_asset
    apply Bool.eq_false_iff.2
    intro hmoved
    rw [hagain.1 hmoved] at hmount
    cases hmount

/-- Where assets lie under the mount of their page already, the mount is the directory of
a framework, and it has itself as such an asset. -/
theorem leavesMounted_iff :
    router.LeavesMounted referer ↔
      ∀ mount, router.Selects referer mount → Path.isRootAsset mount = false := by
  constructor
  · intro hleaves mount hmount
    apply Bool.eq_false_iff.2
    intro hasset
    have hstays := hleaves mount mount hasset hmount (Path.isUnder_self mount)
    exact effectivePath_ne_iff.2 ⟨hasset, mount, hmount⟩ hstays
  · intro hplain path mount hasset hmount hunder
    have hdirectory := Path.isRootAsset_of_isUnder hmount.ne_nil hmount.ne_root hasset hunder
    rw [hplain mount hmount] at hdirectory
    cases hdirectory

theorem settles_iff :
    router.Settles referer ↔
      ∀ mount, router.Selects referer mount → Path.isRootAsset mount = false := by
  constructor
  · intro hsettles mount hmount
    apply Bool.eq_false_iff.2
    intro hasset
    rw [(effectivePath_effectivePath_eq_iff hasset hmount).1 (hsettles mount)] at hasset
    cases hasset
  · intro hplain path
    by_cases hmoved : router.effectivePath path referer = path
    · rw [hmoved, hmoved]
    · obtain ⟨hasset, mount, hmount⟩ := effectivePath_ne_iff.1 hmoved
      exact (effectivePath_effectivePath_eq_iff hasset hmount).2 (hplain mount hmount)

/-- Assets that carry the mount of their page are left alone exactly if moving twice is
moving once, and both hold unless the page selects the directory of a framework. There
each asset gets the mount once more. -/
theorem effectivePath_settles_iff (router : Router) (referer : Option Text) :
    (router.LeavesMounted referer ↔
      ∀ mount, router.Selects referer mount → Path.isRootAsset mount = false) ∧
    (router.LeavesMounted referer ↔ router.Settles referer) ∧
    ∀ path mount, Path.isRootAsset path → router.Selects referer mount →
      router.effectivePath path referer = mount ++ path ∧
      (Path.isUnder path mount → Path.isRootAsset mount) ∧
      (Path.isRootAsset mount → router.effectivePath (mount ++ path) referer =
        mount ++ (mount ++ path)) := by
  refine ⟨leavesMounted_iff, leavesMounted_iff.trans settles_iff.symm, ?_⟩
  intro path mount hasset hmount
  refine ⟨effectivePath_of_selects hasset hmount, ?_, ?_⟩
  · intro hunder
    exact Path.isRootAsset_of_isUnder hmount.ne_nil hmount.ne_root hasset hunder
  · intro hdirectory
    have hagain := (Path.isRootAsset_append_iff hmount.ne_nil hmount.ne_root hasset).2 hdirectory
    exact effectivePath_of_selects hagain hmount

/-- The slot tree of a document that proxies the directory of a framework. -/
def bundleTree : Json.Members :=
  [("/_next/*", .object
    [("type", .text "proxy".toList), ("target", .text "https://up.example/_next/$1".toList)])]

/-- The document. -/
def bundleDocument : RuleDocument := { members := [("Slots", .object bundleTree)] }

/-- The matcher of the rule. -/
def bundleMatcher : Matcher where
  base := "/_next/*"
  rule :=
    { kind := .proxy, target := "https://up.example/_next/$1".toList, appendPath := true,
      status := 302, priority := Rule.priorityOf 1 }
  sequence := 0

/-- The router of the document. -/
def bundleRouter : Router := { matchers := [bundleMatcher] }

theorem ofDocument?_bundle : ofDocument? bundleDocument = some bundleRouter := by
  have hslots : Slots.ofTree bundleTree =
      [("/_next/*".toList, [.fields [("type", .text "proxy".toList),
        ("target", .text "https://up.example/_next/$1".toList)]])] := by
    simp only [Slots.ofTree, bundleTree, Slots.stream]
    rfl
  exact ofDocument?_of_lone _ rfl hslots rfl

/-- A style sheet in the directory, which is the page of the fonts that it loads. -/
def styleSheet : Text := "https://[::1]/_next/static/app.css"

theorem bundleRouter_selects : bundleRouter.Selects (some styleSheet) "/_next" := by
  apply selects_iff.2
  decide +kernel

/-- A font in the directory gets the mount that it carries, and gets it once more each
time it is moved. -/
theorem bundleRouter_mounts_again :
    ofDocument? bundleDocument = some bundleRouter ∧
      Path.isRootAsset "/_next/static/font.woff2" ∧
      bundleRouter.Selects (some styleSheet) "/_next" ∧
      Path.isUnder "/_next/static/font.woff2" "/_next" ∧
      bundleRouter.effectivePath "/_next/static/font.woff2" (some styleSheet) =
        "/_next/_next/static/font.woff2".toList ∧
      ¬ bundleRouter.LeavesMounted (some styleSheet) ∧
      ¬ bundleRouter.Settles (some styleSheet) := by
  have hdirectory : Path.isRootAsset "/_next" := by decide
  have hasset : Path.isRootAsset "/_next/static/font.woff2" := by decide
  have hmoved := effectivePath_of_selects hasset bundleRouter_selects
  refine ⟨ofDocument?_bundle, hasset, bundleRouter_selects, by decide, hmoved, ?_, ?_⟩
  · intro hleaves
    have hplain := leavesMounted_iff.1 hleaves "/_next" bundleRouter_selects
    rw [hdirectory] at hplain
    cases hplain
  · intro hsettles
    have hplain := settles_iff.1 hsettles "/_next" bundleRouter_selects
    rw [hdirectory] at hplain
    cases hplain

end Router

end RuleGateway
