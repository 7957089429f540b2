import RuleGateway.Proofs.Url.AuthorityText
import RuleGateway.Proofs.Url.Segments

/-!
# Addresses without control characters

An address is escaped part by part as it is read, and control characters are in
every set of characters to escape. So what is written again has none, whatever the
text was (`isPrintable_render`), and neither has what is read against a base that
has none (`isClean_of_join`), nor the origin of such an address
(`IsClean.isPrintable_renderOrigin`).
-/

namespace RuleGateway.Url

open Percent

section Parts

/-- A text without control characters. -/
abbrev IsPrintable (text : Text) : Prop := ∀ c ∈ text, isControl c = false

/-- Texts without control characters. -/
abbrev ArePrintable (texts : List Text) : Prop := ∀ text ∈ texts, IsPrintable text

theorem isPrintable_nil : IsPrintable [] := List.forall_mem_nil _

theorem arePrintable_nil : ArePrintable [] := List.forall_mem_nil _

theorem arePrintable_blank : ArePrintable [[]] := List.forall_mem_singleton.2 isPrintable_nil

theorem isPrintable_cons {c : Char} {text : Text} (hc : isControl c = false)
    (h : IsPrintable text) : IsPrintable (c :: text) :=
  List.forall_mem_cons.2 ⟨hc, h⟩

theorem isPrintable_append {front back : Text} (hfront : IsPrintable front)
    (hback : IsPrintable back) : IsPrintable (front ++ back) := by
  intro c hc
  exact (List.mem_append.1 hc).elim (hfront c) (hback c)

theorem not_isControl_of_not_isEscaped {inSet : Char → Bool}
    (hset : ∀ c, isControl c = true → inSet c = true) {c : Char} (h : isEscaped inSet c = false) :
    isControl c = false := by
  rw [Bool.eq_false_iff] at h ⊢
  exact fun hcontrol => h (by rw [isEscaped, hset c hcontrol, Bool.or_true])

theorem isPrintable_encode {inSet : Char → Bool}
    (hset : ∀ c, isControl c = true → inSet c = true) (text : Text) :
    IsPrintable (encode inSet text) := by
  intro c hc
  rcases mem_encode hc with ⟨-, hleft⟩ | hescape
  · exact not_isControl_of_not_isEscaped hset hleft
  · have hall : ∀ d ∈ '%' :: Text.hexDigits, isControl d = false := Text.forall_mem (by decide)
    exact hall c hescape

theorem inFragmentSet_of_isControl (c : Char) (h : isControl c = true) : inFragmentSet c = true := by
  rw [inFragmentSet, h, Bool.true_or]

theorem inPathSet_of_isControl (c : Char) (h : isControl c = true) : inPathSet c = true := by
  rw [inPathSet, inFragmentSet_of_isControl c h, Bool.true_or]

theorem inQuerySet_of_isControl (kind : SchemeKind) (c : Char) (h : isControl c = true) :
    inQuerySet kind c = true := by
  rw [inQuerySet, h, Bool.true_or, Bool.true_or]

end Parts

section Segments

variable {segments pieces start : List Text} {segment : Text}

theorem arePrintable_addSegments (h : ArePrintable segments) :
    ArePrintable (addSegments segments pieces) :=
  forall_mem_addSegments isPrintable_nil h fun piece _ _ _ =>
    isPrintable_encode inPathSet_of_isControl piece

theorem dropEmptyFront_of_kept (h : ∀ segment rest, segments ≠ [] :: segment :: rest) :
    dropEmptyFront segments = segments := by
  rw [dropEmptyFront.eq_def]
  split
  · exact absurd rfl (h _ _)
  · rfl

theorem dropEmptyFront_subset (segments : List Text) : dropEmptyFront segments ⊆ segments := by
  induction segments using dropEmptyFront.induct with
  | case1 segment rest ih =>
    rw [dropEmptyFront]
    exact List.Subset.trans ih (List.subset_cons_self _ _)
  | case2 segments hfront =>
    rw [dropEmptyFront_of_kept hfront]
    exact List.Subset.refl _

theorem arePrintable_nameDrive (h : ArePrintable segments) :
    ArePrintable (nameDrive segments) := by
  cases segments with
  | nil => exact h
  | cons first rest =>
    intro other hother
    rcases List.mem_cons.1 hother with rfl | hrest
    · split
      · refine isPrintable_append ?_ ?_
        · exact fun c hc => h first List.mem_cons_self c (List.mem_of_mem_take hc)
        · intro c hc
          rw [List.mem_singleton.1 hc]
          decide
      · exact h first List.mem_cons_self
    · exact h other (List.mem_cons_of_mem first hrest)

theorem arePrintable_addFileSegments (h : ArePrintable start) :
    ArePrintable (addFileSegments start pieces) := by
  rw [addFileSegments]
  split
  · exact arePrintable_addSegments h
  · exact arePrintable_nameDrive (arePrintable_addSegments h)

theorem arePrintable_parseSegments (kind : SchemeKind) (h : ArePrintable start) (input : Text) :
    ArePrintable (parseSegments kind start input).1 := by
  cases kind with
  | file =>
    intro other hother
    exact arePrintable_addFileSegments h other (dropEmptyFront_subset _ hother)
  | web => exact arePrintable_addSegments h
  | other => exact arePrintable_addSegments h

theorem arePrintable_parseAfterAuthority (kind : SchemeKind) (input : Text) :
    ArePrintable (parseAfterAuthority kind input).1 := by
  rw [parseAfterAuthority.eq_def]
  split
  · split
    · exact arePrintable_blank
    · exact arePrintable_nil
  · split
    · exact arePrintable_parseSegments kind arePrintable_nil _
    · split
      · exact arePrintable_nil
      · exact arePrintable_parseSegments kind arePrintable_nil _

theorem isPrintable_ofSegments (h : ArePrintable segments) :
    IsPrintable (Path.ofSegments segments) := by
  intro c hc
  obtain ⟨segment, hsegment, hmem⟩ := List.mem_flatMap.1 hc
  rcases List.mem_cons.1 hmem with rfl | hmem
  · decide
  · exact h segment hsegment c hmem

theorem arePrintable_of_ofSegments (h : IsPrintable (Path.ofSegments segments)) :
    ArePrintable segments := by
  intro segment hsegment c hc
  apply h
  exact List.mem_flatMap.2 ⟨segment, hsegment, List.mem_cons_of_mem '/' hc⟩

end Segments

section Authority

variable {text rest : Text} {host : Host}

theorem isPrintable_of_parseHost (h : parseHost text = .ok host) : IsPrintable host.render :=
  fun _ hc => ((isHostText_render (isHost_of_parseHost h)).of_mem hc).2.1.2.2

theorem isPrintable_portText (port : Option Nat) : IsPrintable (portText port) :=
  fun _ hc => (of_mem_portText hc).1.2.2

/-- An authority that is a host alone is written as the host. -/
theorem isPrintable_renderHosted {host : Option Host}
    (h : ∀ found ∈ host, IsPrintable found.render) : IsPrintable (Authority.render { host }) := by
  cases host with
  | none => exact isPrintable_nil
  | some found =>
    have hrender : Authority.render { host := some found } = found.render := List.append_nil _
    rw [hrender]
    exact h found rfl

theorem isPrintable_host {authority : Authority} (h : IsPrintable authority.render) :
    ∀ host ∈ authority.host, IsPrintable host.render := by
  intro host hhost c hc
  apply h
  rw [Authority.render, Option.mem_def.1 hhost]
  exact List.mem_append_left _ (List.mem_append_right _ hc)

theorem isPrintable_of_parseAuthority {scheme input : Text} {authority : Authority}
    (h : parseAuthority scheme input = .ok (authority, rest)) : IsPrintable authority.render :=
  fun _ hc => (isZoneChar_of_mem_render (isSpelled_of_parseAuthority h) hc).2.2

end Authority

section Whole

variable {url base : Url} {input : Text}

/-- An address whose parts have no control characters. -/
structure IsClean (url : Url) : Prop where
  scheme : IsPrintable url.scheme
  authority : ∀ authority ∈ url.authority, IsPrintable authority.render
  path : IsPrintable url.pathText
  query : ∀ text ∈ url.query, IsPrintable text
  fragment : ∀ text ∈ url.fragment, IsPrintable text

theorem isPrintable_behind {c : Char} (hc : isControl c = false) {part : Option Text}
    (h : ∀ text ∈ part, IsPrintable text) : IsPrintable ((part.map (c :: ·)).getD []) := by
  cases part with
  | none => exact isPrintable_nil
  | some text => exact isPrintable_cons hc (h text rfl)

theorem IsClean.isPrintable_render (h : IsClean url) : IsPrintable url.render := by
  have hslash : isControl '/' = false := by decide
  have hauthority : IsPrintable url.renderAuthority := by
    rw [renderAuthority]
    split
    · rename_i path authority hauthority
      exact isPrintable_cons hslash (isPrintable_cons hslash (h.authority authority hauthority))
    · exact isPrintable_cons hslash (isPrintable_cons (by decide) isPrintable_nil)
    · exact isPrintable_nil
  have hcolon : IsPrintable (':' :: url.renderAuthority) := isPrintable_cons (by decide) hauthority
  rw [render, renderWithoutFragment]
  exact isPrintable_append (isPrintable_append (isPrintable_append
    (isPrintable_append h.scheme hcolon) h.path) (isPrintable_behind (by decide) h.query))
    (isPrintable_behind (by decide) h.fragment)

/-- The query and the fragment are escaped, whatever is before them. -/
theorem isClean_withTail (hscheme : IsPrintable url.scheme)
    (hauthority : ∀ authority ∈ url.authority, IsPrintable authority.render)
    (hpath : IsPrintable url.pathText) (input : Text) : IsClean (withTail url input) := by
  refine ⟨hscheme, hauthority, hpath, ?_, ?_⟩
  · intro text htext
    rw [withTail, parseTail.eq_def] at htext
    dsimp only at htext
    split at htext
    · cases htext
      exact isPrintable_encode (inQuerySet_of_isControl _) _
    · cases htext
  · intro text htext
    rw [withTail, parseTail.eq_def] at htext
    dsimp only at htext
    split at htext
    all_goals
      dsimp only at htext
      split at htext
      · cases htext
        exact isPrintable_encode inFragmentSet_of_isControl _
      · cases htext

theorem isClean_parseWithAuthority {scheme input : Text} (hscheme : IsPrintable scheme)
    (h : parseWithAuthority scheme input = .ok url) : IsClean url := by
  rw [parseWithAuthority] at h
  cases hread : parseAuthority scheme input with
  | error error =>
    rw [hread] at h
    cases h
  | ok found =>
    obtain ⟨authority, rest⟩ := found
    rw [hread] at h
    cases h
    refine isClean_withTail hscheme ?_ ?_ _
    · rintro other ⟨⟩
      exact isPrintable_of_parseAuthority hread
    · exact isPrintable_ofSegments (arePrintable_parseAfterAuthority _ rest)

theorem isClean_parseOther {scheme input : Text} (hscheme : IsPrintable scheme)
    (h : parseOther scheme input = .ok url) : IsClean url := by
  have hnone : ∀ authority ∈ (none : Option Authority), IsPrintable authority.render :=
    fun authority hauthority => by cases hauthority
  rw [parseOther.eq_def] at h
  split at h
  · exact isClean_parseWithAuthority hscheme h
  · cases h
    refine isClean_withTail hscheme hnone ?_ _
    exact isPrintable_ofSegments
      (arePrintable_parseSegments .other arePrintable_nil _)
  · cases h
    refine isClean_withTail hscheme hnone ?_ _
    exact isPrintable_encode (fun c hc => hc) _

/-- A file address of a host and segments, whatever is behind them. -/
theorem isClean_file {host : Option Host} (hhost : ∀ found ∈ host, IsPrintable found.render)
    {segments : List Text} (hsegments : ArePrintable segments) (input : Text) :
    IsClean (withTail { scheme := fileScheme, authority := some { host },
                        path := .rooted segments } input) := by
  have hscheme : IsPrintable fileScheme := Text.forall_mem (by decide)
  refine isClean_withTail hscheme ?_ ?_ _
  · rintro authority ⟨⟩
    exact isPrintable_renderHosted hhost
  · exact isPrintable_ofSegments hsegments

theorem isClean_fileAt {host : Option Host} (hhost : ∀ found ∈ host, IsPrintable found.render)
    {start : List Text} (hstart : ArePrintable start) (input : Text) :
    IsClean (fileAt host start input) := by
  refine isClean_file ?_ ?_ _
  · intro found hfound
    split at hfound
    · cases hfound
    · exact hhost found hfound
  · intro segment hsegment
    exact arePrintable_addFileSegments hstart segment (dropEmptyFront_subset _ hsegment)

/-- A file address without a host. -/
theorem isClean_localFile {start : List Text} (hstart : ArePrintable start) (input : Text) :
    IsClean (fileAt none start input) :=
  isClean_fileAt (fun found hfound => by cases hfound) hstart input

theorem isClean_parseFileHost (h : parseFileHost input = .ok url) : IsClean url := by
  simp only [parseFileHost, bind, Except.bind, pure, Except.pure] at h
  split at h
  · cases h
    exact isClean_localFile arePrintable_nil _
  · split at h
    · cases h
      exact isClean_localFile arePrintable_blank _
    · split at h
      · cases h
      · rename_i host hhost
        cases h
        refine isClean_fileAt ?_ arePrintable_nil _
        intro found hfound
        split at hfound
        · cases hfound
        · cases hfound
          exact isPrintable_of_parseHost hhost

theorem isClean_withFragment (h : IsClean base) (input : Text) :
    IsClean (withFragment base input) := by
  refine ⟨h.scheme, h.authority, h.path, h.query, ?_⟩
  rintro text ⟨⟩
  exact isPrintable_encode inFragmentSet_of_isControl input

theorem IsClean.withoutFragment (h : IsClean base) : IsClean { base with fragment := none } :=
  ⟨h.scheme, h.authority, h.path, h.query, fun text htext => by cases htext⟩

theorem IsClean.segmentsOf (h : IsClean base) : ArePrintable (segmentsOf base) := by
  intro segment hsegment
  rw [Url.segmentsOf] at hsegment
  split at hsegment
  · rename_i segments hpath
    have hwhole : IsPrintable (Path.ofSegments segments) := by
      have := h.path
      rwa [pathText, hpath] at this
    exact arePrintable_of_ofSegments hwhole segment hsegment
  · cases hsegment

/-- What the base lends stays clean under another path. -/
theorem IsClean.withPath (h : IsClean base) {segments : List Text}
    (hsegments : ArePrintable segments) (input : Text) :
    IsClean (withTail { base with path := .rooted segments } input) :=
  @isClean_withTail { base with path := .rooted segments } h.scheme h.authority
    (isPrintable_ofSegments hsegments) input

theorem isClean_parseInDirectory (h : IsClean base) (input : Text) :
    IsClean (parseInDirectory base input) := by
  apply h.withPath
  apply arePrintable_parseSegments
  intro segment hsegment
  exact h.segmentsOf segment (List.dropLast_subset _ hsegment)

theorem isClean_parseRelative (h : IsClean base) (hread : parseRelative base input = .ok url) :
    IsClean url := by
  rw [parseRelative.eq_def] at hread
  split at hread
  · cases hread
    exact h.withoutFragment
  · cases hread
    exact isClean_withTail h.scheme h.authority h.path _
  · cases hread
    exact isClean_withFragment h _
  · split at hread
    · split at hread
      · split at hread
        · exact isClean_parseWithAuthority h.scheme hread
        · exact isClean_parseWithAuthority h.scheme hread
      · cases hread
        exact h.withPath (arePrintable_parseSegments _ arePrintable_nil _) _
    · cases hread
      exact isClean_parseInDirectory h _

theorem isPrintable_fileBase {base : Option Url} (hbase : ∀ found ∈ base, IsClean found)
    (input : Text) :
    (∀ host ∈ (fileBase base input).1, IsPrintable host.render) ∧
      ArePrintable (fileBase base input).2 := by
  have hnone : (∀ host ∈ (none : Option Host), IsPrintable host.render) ∧ ArePrintable [] :=
    ⟨(fun host hhost => by cases hhost), arePrintable_nil⟩
  rw [fileBase.eq_def]
  split
  · rename_i base
    have hclean := hbase base rfl
    split
    · exact hnone
    · split
      · rename_i drive hdrive
        refine ⟨hnone.1, List.forall_mem_singleton.2 ?_⟩
        apply hclean.segmentsOf
        exact List.mem_of_mem_head? (Option.filter_eq_some_iff.1 hdrive).1
      · refine ⟨?_, hnone.2⟩
        intro host hhost
        obtain ⟨authority, hauthority, hfound⟩ := Option.bind_eq_some_iff.1 hhost
        exact isPrintable_host (hclean.authority authority hauthority) host hfound
  · exact hnone

theorem isClean_parseBesideFile (h : IsClean base) (input : Text) :
    IsClean (parseBesideFile base input) := by
  have hwhole := h.segmentsOf
  have hdirectory : ArePrintable (segmentsOf base).dropLast :=
    fun segment hsegment => hwhole segment (List.dropLast_subset _ hsegment)
  apply h.withPath
  intro segment hsegment
  have hfound := dropEmptyFront_subset _ hsegment
  split at hfound
  · split at hfound
    · exact arePrintable_addSegments hwhole segment hfound
    · split at hfound
      · exact hwhole segment hfound
      · split at hfound
        · exact arePrintable_addSegments hwhole segment hfound
        · exact arePrintable_addSegments hdirectory segment hfound
  · exact arePrintable_addFileSegments hdirectory segment hfound

theorem isClean_parseFile {base : Option Url} (hbase : ∀ found ∈ base, IsClean found)
    (h : parseFile base input = .ok url) : IsClean url := by
  have hroot (rest : Text) (hfound : parseFile.fromRoot base rest = .ok url) : IsClean url := by
    obtain ⟨hhost, hstart⟩ := isPrintable_fileBase hbase rest
    cases hfound
    exact isClean_file hhost (arePrintable_parseSegments .file hstart rest) _
  rw [parseFile.eq_def] at h
  split at h
  · split at h
    · split at h
      · split at h
        · exact isClean_parseFileHost h
        · exact hroot _ h
      · exact hroot _ h
    · split at h
      · cases h
        exact isClean_localFile arePrintable_nil _
      · rename_i base
        have hclean := hbase base rfl
        split at h
        · cases h
          exact isClean_withTail hclean.scheme hclean.authority hclean.path _
        · split at h
          · cases h
            exact isClean_withFragment hclean _
          · split at h
            · cases h
              exact isClean_localFile arePrintable_nil _
            · cases h
              exact isClean_parseBesideFile hclean _
  · split at h
    · cases h
      exact isClean_localFile arePrintable_nil _
    · rename_i base
      cases h
      exact (hbase base rfl).withoutFragment

theorem isPrintable_of_scheme? {input scheme rest : Text} (h : scheme? input = some (scheme, rest)) :
    IsPrintable scheme := by
  have hsmall (c : Char) (hc : isSchemeChar c) : isControl c.toLower = false := by
    by_cases hascii : c.toNat < 0x80
    · have hall : ∀ n < 128, isSchemeChar (Char.ofNat n) = true →
          isControl (Char.ofNat n).toLower = false := by decide
      exact Text.forall_ascii
        (p := fun c => isSchemeChar c = true → isControl c.toLower = false) hall hascii hc
    · rw [Text.toLower_of_le (Nat.not_lt.1 hascii), isControl, Bool.or_eq_false_iff,
        decide_eq_false_iff_not, beq_eq_false_iff_ne]
      omega
  rw [scheme?] at h
  split at h
  · split at h
    · cases h
      intro c hc
      obtain ⟨d, hd, rfl⟩ := List.mem_map.1 hc
      exact hsmall d (List.all_eq_true.1 List.all_takeWhile d hd)
    · cases h
  · cases h

theorem isClean_parseWithScheme {base : Option Url} (hbase : ∀ found ∈ base, IsClean found)
    {scheme : Text} (hscheme : IsPrintable scheme)
    (h : parseWithScheme base scheme input = .ok url) : IsClean url := by
  have hkept : ∀ found ∈ base.filter (·.scheme == scheme), IsClean found :=
    fun found hfound => hbase found (Option.mem_filter_iff.1 hfound).1
  rw [parseWithScheme.eq_def] at h
  split at h
  · exact isClean_parseFile hkept h
  · exact isClean_parseOther hscheme h
  · split at h
    · rename_i base hfound
      split at h
      · exact isClean_parseRelative (hkept base hfound) h
      · exact isClean_parseWithAuthority hscheme h
    · exact isClean_parseWithAuthority hscheme h

theorem isClean_parseAgainst {base : Option Url} (hbase : ∀ found ∈ base, IsClean found)
    {text : Text} (h : parseAgainst base text = .ok url) : IsClean url := by
  rw [parseAgainst.eq_def] at h
  dsimp only at h
  split at h
  · rename_i scheme rest hscheme
    exact isClean_parseWithScheme hbase (isPrintable_of_scheme? hscheme) h
  · split at h
    · cases h
    · rename_i base
      have hclean := hbase base rfl
      split at h
      · cases h
        exact isClean_withFragment hclean _
      · cases h
      · split at h
        · exact isClean_parseFile hbase h
        · exact isClean_parseRelative hclean h

/-- What is read as an address by itself is clean, whatever the text was. -/
theorem isClean_of_parse {text : Text} (h : parse text = .ok url) : IsClean url :=
  isClean_parseAgainst (fun found hfound => by cases hfound) h

theorem isClean_of_join {text : Text} (hbase : IsClean base) (h : base.join text = .ok url) :
    IsClean url := by
  refine isClean_parseAgainst ?_ h
  rintro found ⟨⟩
  exact hbase

theorem isPrintable_render {text : Text} (h : parse text = .ok url) : IsPrintable url.render :=
  (isClean_of_parse h).isPrintable_render

end Whole

section Origin

variable {url : Url} {origin : Origin}

theorem parse_of_parse? {text : Text} (h : parse? text = some url) : parse text = .ok url := by
  rw [parse?] at h
  cases hparse : parse text with
  | error error =>
    rw [hparse] at h
    cases h
  | ok found =>
    rw [hparse] at h
    exact congrArg _ (Option.some.inj h)

theorem isPrintable_of_hostOrigin? (hclean : url.IsClean) (h : url.hostOrigin? = some origin) :
    IsPrintable origin.render := by
  simp only [hostOrigin?, bind, Option.bind_eq_some_iff, pure, Option.some.injEq] at h
  obtain ⟨authority, hauthority, host, hhost, usual, -, rfl⟩ := h
  have hmark : IsPrintable "://".toList := Text.forall_mem (by decide)
  have hname := isPrintable_host (hclean.authority authority hauthority) host hhost
  refine isPrintable_append (isPrintable_append (isPrintable_append hclean.scheme hmark) hname) ?_
  dsimp only
  split
  · exact isPrintable_nil
  · exact isPrintable_portText (some _)

/-- An address within an address is read like any other, so its origin is clean too. -/
theorem isPrintable_of_originWithin {depth : Nat} (hclean : url.IsClean)
    (h : originWithin depth url = some origin) : IsPrintable origin.render := by
  induction depth generalizing url with
  | zero => cases h
  | succ depth ih =>
    rw [originWithin] at h
    split at h
    · obtain ⟨inner, hinner, horigin⟩ := Option.bind_eq_some_iff.1 h
      exact ih (isClean_of_parse (parse_of_parse? hinner)) horigin
    · exact isPrintable_of_hostOrigin? hclean h

theorem IsClean.isPrintable_renderOrigin (h : url.IsClean) : IsPrintable url.renderOrigin := by
  rw [renderOrigin]
  split
  · rename_i origin horigin
    exact isPrintable_of_originWithin h horigin
  · exact Text.forall_mem (by decide)

end Origin

end RuleGateway.Url
