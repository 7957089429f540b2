import RuleGateway.Proofs.Url.Carrying
import RuleGateway.Proofs.Url.Containment

/-!
# Addresses of the web

However an address of the web is read, its path has settled segments and its query is
escaped (`isWeb_of_parse`, `isWeb_of_join`). So its path and its query may be written
behind another authority, and behind the start of another path, and are read there as
they were (`parse_behind`).
-/

namespace RuleGateway.Url

open Percent

/-- Whether an address has a scheme of the web. -/
def HasWebScheme (url : Url) : Prop := url.scheme = "http".toList ∨ url.scheme = "https".toList

/-- An address of the web as it is read. -/
structure IsWeb (url : Url) : Prop where
  scheme : url.HasWebScheme
  path : ∃ segments, url.path = .rooted segments ∧ segments ≠ [] ∧
    ∀ segment ∈ segments, IsSettled segment
  query : ∃ plain : Option Text, url.query = plain.map (encode (inQuerySet .web))

theorem HasWebScheme.kind {url : Url} (h : url.HasWebScheme) : SchemeKind.of url.scheme = .web := by
  rcases h with hscheme | hscheme <;> rw [hscheme] <;> decide

section Path

variable {url : Url}

theorem IsWeb.exists_pathText (h : url.IsWeb) :
    ∃ segments, url.pathText = Path.ofSegments segments ∧ segments ≠ [] ∧
      ∀ segment ∈ segments, IsSettled segment := by
  obtain ⟨segments, hpath, hsegments⟩ := h.path
  refine ⟨segments, ?_, hsegments⟩
  rw [pathText, hpath]
  rfl

theorem IsWeb.head?_pathText (h : url.IsWeb) : url.pathText.head? = some '/' := by
  obtain ⟨segments, hpath, hne, -⟩ := h.exists_pathText
  rw [hpath]
  exact head?_ofSegments hne

theorem IsWeb.of_mem_pathText (h : url.IsWeb) {c : Char} (hc : c ∈ url.pathText) :
    isEscaped inPathSet c = false ∧ c ≠ '\\' := by
  obtain ⟨segments, hpath, -, hsettled⟩ := h.exists_pathText
  obtain ⟨hescaped, -, hslash, -⟩ := of_mem_ofSegments hsettled (hpath ▸ hc)
  exact ⟨hescaped, hslash⟩

theorem IsWeb.encode_pathText (h : url.IsWeb) : encode inPathSet url.pathText = url.pathText :=
  encode_eq_self fun _ hc => (h.of_mem_pathText hc).1

end Path

section Read

variable {url base : Url} {scheme input : Text}

theorem isWeb_withTail (hscheme : url.HasWebScheme)
    (hpath : ∃ segments, url.path = .rooted segments ∧ segments ≠ [] ∧
      ∀ segment ∈ segments, IsSettled segment) (input : Text) : IsWeb (withTail url input) := by
  refine ⟨hscheme, hpath, ?_⟩
  rw [withTail, hscheme.kind, parseTail.eq_def]
  dsimp only
  split
  · exact ⟨some _, rfl⟩
  · exact ⟨none, rfl⟩

/-- The segments of a path text are settled, and there is at least one. -/
theorem settled_parseSegments {start : List Text} (h : ∀ segment ∈ start, IsSettled segment)
    (input : Text) :
    (parseSegments .web start input).1 ≠ [] ∧
      ∀ segment ∈ (parseSegments .web start input).1, IsSettled segment :=
  ⟨addSegments_ne_nil (piecesOf_ne_nil input) start,
    isSettled_of_mem_addSegments (fun _ hpiece => isAnySlash_of_mem_piecesOf hpiece) h⟩

theorem settled_parseAfterAuthority (input : Text) :
    (parseAfterAuthority .web input).1 ≠ [] ∧
      ∀ segment ∈ (parseAfterAuthority .web input).1, IsSettled segment := by
  have hnone : ∀ segment ∈ ([] : List Text), IsSettled segment := List.forall_mem_nil _
  rw [parseAfterAuthority.eq_def]
  split
  · exact ⟨by simp [SchemeKind.isSpecial], by simp [SchemeKind.isSpecial, isSettled_nil]⟩
  · rename_i c rest
    split
    · exact settled_parseSegments hnone rest
    · split
      · rename_i hspecial
        exact absurd hspecial.2 (by decide)
      · exact settled_parseSegments hnone _

theorem isWeb_parseWithAuthority (hscheme : url.HasWebScheme)
    (h : parseWithAuthority scheme input = .ok url) : IsWeb url := by
  have hsame := scheme_of_parseWithAuthority h
  rw [parseWithAuthority_eq, ← hsame, hscheme.kind] at h
  obtain ⟨found, -, hurl⟩ := exists_of_map_eq_ok h
  have hweb : IsWeb (withTail
      { scheme := url.scheme, authority := some found.1,
        path := .rooted (parseAfterAuthority .web found.2).1 }
      (parseAfterAuthority .web found.2).2) := by
    apply isWeb_withTail
    · exact hscheme
    · exact ⟨_, rfl, settled_parseAfterAuthority found.2⟩
  rwa [hurl] at hweb

/-- What a base lends is that of the web under another path of settled segments. -/
theorem IsWeb.withPath (h : IsWeb base) {segments : List Text} (hne : segments ≠ [])
    (hsettled : ∀ segment ∈ segments, IsSettled segment) (input : Text) :
    IsWeb (withTail { base with path := .rooted segments } input) :=
  @isWeb_withTail { base with path := .rooted segments } h.scheme
    ⟨segments, rfl, hne, hsettled⟩ input

theorem isWeb_parseInDirectory (h : IsWeb base) (input : Text) :
    IsWeb (parseInDirectory base input) := by
  obtain ⟨segments, hpath, -, hsettled⟩ := h.path
  have hdirectory : ∀ segment ∈ (segmentsOf base).dropLast, IsSettled segment := by
    rw [segmentsOf, hpath]
    exact fun segment hsegment => hsettled segment (List.dropLast_subset _ hsegment)
  obtain ⟨hne, hread⟩ := settled_parseSegments hdirectory input
  rw [parseInDirectory, h.scheme.kind]
  exact h.withPath hne hread _

theorem isWeb_parseRelative (h : IsWeb base) (hscheme : url.HasWebScheme)
    (hread : parseRelative base input = .ok url) : IsWeb url := by
  rw [parseRelative.eq_def] at hread
  split at hread
  · cases hread
    exact ⟨h.scheme, h.path, h.query⟩
  · cases hread
    exact isWeb_withTail h.scheme h.path _
  · cases hread
    exact ⟨h.scheme, h.path, h.query⟩
  · split at hread
    · split at hread
      · split at hread
        · exact isWeb_parseWithAuthority hscheme hread
        · exact isWeb_parseWithAuthority hscheme hread
      · rename_i _ rest _ _ _ _
        rw [h.scheme.kind] at hread
        cases hread
        obtain ⟨hne, hsettled⟩ := settled_parseSegments (List.forall_mem_nil _) rest
        exact h.withPath hne hsettled _
    · cases hread
      exact isWeb_parseInDirectory h _

theorem isWeb_parseWithScheme {base : Option Url} (hbase : ∀ found ∈ base, IsWeb found)
    (hscheme : url.HasWebScheme) (h : parseWithScheme base scheme input = .ok url) :
    IsWeb url := by
  cases hkind : SchemeKind.of scheme with
  | web =>
    simp only [parseWithScheme, hkind] at h
    split at h
    · rename_i lent hlent
      split at h
      · exact isWeb_parseRelative (hbase lent (Option.mem_filter_iff.1 hlent).1) hscheme h
      · exact isWeb_parseWithAuthority hscheme h
    · exact isWeb_parseWithAuthority hscheme h
  | file =>
    have hnone : base.filter (·.scheme == scheme) = none := by
      rw [Option.filter_eq_none_iff]
      intro found hfound hsame
      have hweb := (hbase found hfound).scheme.kind
      rw [beq_iff_eq.1 hsame, hkind] at hweb
      cases hweb
    simp only [parseWithScheme, hkind, hnone] at h
    have hweb := hscheme.kind
    rw [scheme_of_parseFile h] at hweb
    cases hweb
  | other =>
    simp only [parseWithScheme, hkind] at h
    have hweb := hscheme.kind
    rw [scheme_of_parseOther h, hkind] at hweb
    cases hweb

theorem isWeb_parseAgainst {base : Option Url} (hbase : ∀ found ∈ base, IsWeb found)
    (hscheme : url.HasWebScheme) {text : Text} (h : parseAgainst base text = .ok url) :
    IsWeb url := by
  rw [parseAgainst.eq_def] at h
  dsimp only at h
  split at h
  · exact isWeb_parseWithScheme hbase hscheme h
  · split at h
    · cases h
    · rename_i lent
      have hlent := hbase lent rfl
      split at h
      · cases h
        exact ⟨hlent.scheme, hlent.path, hlent.query⟩
      · cases h
      · rw [hlent.scheme.kind, if_neg (by decide)] at h
        exact isWeb_parseRelative hlent hscheme h

theorem isWeb_of_parse {text : Text} (hscheme : url.HasWebScheme) (h : parse text = .ok url) :
    IsWeb url :=
  isWeb_parseAgainst (fun found hfound => by cases hfound) hscheme h

theorem isWeb_of_join {text : Text} (hbase : IsWeb base) (hscheme : url.HasWebScheme)
    (h : base.join text = .ok url) : IsWeb url := by
  refine isWeb_parseAgainst ?_ hscheme h
  rintro found ⟨⟩
  exact hbase

end Read

section Behind

variable {scheme zone front path rest : Text} {segments : List Text}

/-- The segments that the start of a path is read as where more of the path follows. -/
def frontSegments (front : Text) : List Text :=
  descend [] (Path.segments (slashed (front.filter isKept)))

/-- A path of settled segments is read as it is behind the start of another path. -/
theorem addSegments_behind (hne : segments ≠ []) (h : ∀ segment ∈ segments, IsSettled segment)
    (front : Text) :
    addSegments [] (Path.segments (slashed (front.filter isKept ++ Path.ofSegments segments))) =
      frontSegments front ++ segments := by
  have hroute := isRoute_of_isSettled hne h none
  have hslashed : slashed (front.filter isKept ++ Path.ofSegments segments) =
      slashed (front.filter isKept) ++ Path.ofSegments segments := by
    rw [slashed, List.map_append]
    exact congrArg _ (slashed_eq_self fun c hc => (hroute.in_path c hc).2)
  rw [hslashed, Path.segments_append (head?_ofSegments hne),
    segments_ofSegments_of_settled h, addSegments_append hne, addSegments_of_settled h,
    frontSegments]

/-- A path and a query that were read are read behind an authority, and behind the start
of a path there, as they were. -/
theorem parse_behind (h : IsLead scheme zone) (hfront : IsTail front)
    (hchars : ∀ c ∈ front, isPathChar c) (hne : segments ≠ [])
    (hsettled : ∀ segment ∈ segments, IsSettled segment) {query : Option Text}
    (hquery : ∃ plain : Option Text, query = plain.map (encode (inQuerySet .web))) :
    parse (lead scheme zone ++ (front ++ (Path.ofSegments segments ++ asked query))) =
      (parseAuthority (Text.lower scheme) zone).map fun found =>
        { scheme := Text.lower scheme, authority := some found.1,
          path := .rooted (frontSegments front ++ segments), query } := by
  obtain ⟨plain, rfl⟩ := hquery
  have hroute := isRoute_of_isSettled hne hsettled plain
  have htail : Path.ofSegments segments ++ asked (plain.map (encode (inQuerySet .web))) ≠ [] := by
    intro hnil
    have hhead := head?_ofSegments hne
    rw [(List.append_eq_nil_iff.1 hnil).1] at hhead
    cases hhead
  have hended : IsTail (front ++ (Path.ofSegments segments ++
      asked (plain.map (encode (inQuerySet .web))))) := by
    refine hfront.append (.inr ?_)
    rw [List.head?_append, head?_ofSegments hne]
    rfl
  have hpath : (front.filter isKept ++ Path.ofSegments segments).head? = some '/' := by
    rcases hfront with rfl | hslash
    · exact head?_ofSegments hne
    · obtain ⟨more, rfl⟩ := List.head?_eq_some_iff.1 hslash
      rfl
  have hin_path : ∀ c ∈ front.filter isKept ++ Path.ofSegments segments, isPathChar c := by
    rw [List.forall_mem_append]
    exact ⟨fun c hc => hchars c (List.mem_of_mem_filter hc), fun c hc => (hroute.in_path c hc).1⟩
  have hclean := cleanEnd_append_of_ne_nil (hroute.clean.symm ▸ htail) front
  rw [parse_lead h hended.ended, hclean, hroute.clean, ← List.append_assoc,
    parseAfterAuthority_of_stops hpath hin_path (stops_isPathChar_asked _),
    addSegments_behind hne hsettled]
  simp only [withTail, h.kind, parseTail_asked .web hroute.in_query, map_encode_encode]

/-- A path behind the start of another stands for what it does by itself. -/
theorem decodeLoose_append_path (h : path.head? = some '/') (front : Text) :
    decodeLoose (front ++ path) = decodeLoose front ++ decodeLoose path := by
  refine decodeLoose_append (fun c hc => ?_) _
  rw [h] at hc
  cases hc
  decide

end Behind

section Origin

variable {url target : Url}

theorem origin?_of_ne (h : url.scheme ≠ "blob".toList) : url.origin? = url.hostOrigin? := by
  rw [origin?, originWithin, if_neg h]

theorem scheme_of_hostOrigin? {origin : Origin} (h : url.hostOrigin? = some origin) :
    origin.scheme = url.scheme := by
  simp only [hostOrigin?, bind, Option.bind_eq_some_iff, pure, Option.some.injEq] at h
  obtain ⟨authority, -, host, -, usual, -, rfl⟩ := h
  rfl

theorem HasWebScheme.ne_blob (h : url.HasWebScheme) : url.scheme ≠ "blob".toList := by
  rcases h with hscheme | hscheme <;> rw [hscheme] <;> decide

/-- What has the origin of an address of the web is one itself, unless it is a blob. -/
theorem hasWebScheme_of_sameOrigin (htarget : target.HasWebScheme)
    (hblob : url.scheme ≠ "blob".toList) (h : sameOrigin url target) : url.HasWebScheme := by
  rw [sameOrigin, origin?_of_ne hblob, origin?_of_ne htarget.ne_blob] at h
  split at h
  · rename_i mine theirs hmine htheirs
    rw [HasWebScheme, ← scheme_of_hostOrigin? hmine, beq_iff_eq.1 h,
      scheme_of_hostOrigin? htheirs]
    exact htarget
  · cases h

end Origin

end RuleGateway.Url
