import RuleGateway.Proofs.Router.Nesting
import RuleGateway.Proofs.Url.AuthorityText
import RuleGateway.Proofs.Url.Segments

/-!
# Paths and queries in addresses

What follows the authority of a web address is read as a path and a query. A path
that is put behind another is read behind it, segment by segment, and an address
that was read is read again as it is written (`parse_render`).
-/

namespace RuleGateway

namespace Url

open Percent

section Segments

/-- The segments after more, each with a slash behind it. -/
def descend (start pieces : List Text) : List Text :=
  pieces.foldl (fun segments piece => addSegment segments piece false) start

theorem addSegments_append {back : List Text} (hback : back ≠ []) (start front : List Text) :
    addSegments start (front ++ back) = addSegments (descend start front) back := by
  induction front generalizing start with
  | nil => rfl
  | cons piece front ih =>
    obtain ⟨next, more, hrest⟩ : ∃ next more, front ++ back = next :: more :=
      List.exists_cons_of_ne_nil (by simp [hback])
    rw [List.cons_append, hrest, addSegments, ← hrest, ih]
    · rfl
    · simp

/-- Segments that are no steps are put behind the others, escaped. -/
theorem addSegments_of_kept {pieces : List Text}
    (h : ∀ piece ∈ pieces, isSingleDot piece = false ∧ isDoubleDot piece = false)
    (start : List Text) :
    addSegments start pieces = start ++ pieces.map (encode inPathSet) := by
  induction pieces generalizing start with
  | nil => simp [addSegments]
  | cons piece pieces ih =>
    obtain ⟨hdot, hdots⟩ := h piece List.mem_cons_self
    cases pieces with
    | nil => rw [addSegments, addSegment_of_kept hdot hdots, List.map_singleton]
    | cons next pieces =>
      rw [addSegments, addSegment_of_kept hdot hdots,
        ih fun piece hpiece => h piece (List.mem_cons_of_mem _ hpiece)]
      · simp
      · simp

theorem descend_of_kept {pieces : List Text}
    (h : ∀ piece ∈ pieces, isSingleDot piece = false ∧ isDoubleDot piece = false)
    (start : List Text) : descend start pieces = start ++ pieces.map (encode inPathSet) := by
  induction pieces generalizing start with
  | nil => simp [descend]
  | cons piece pieces ih =>
    obtain ⟨hdot, hdots⟩ := h piece List.mem_cons_self
    have hrest := ih (fun other hother => h other (List.mem_cons_of_mem piece hother))
      (start ++ [encode inPathSet piece])
    rw [descend, List.foldl_cons, addSegment_of_kept hdot hdots]
    rw [descend] at hrest
    rw [hrest]
    simp

theorem isSettled_of_mem_descend {pieces : List Text}
    (h : ∀ piece ∈ pieces, ∀ c ∈ piece, isAnySlash c = false) {start : List Text}
    (hstart : ∀ kept ∈ start, IsSettled kept) : ∀ kept ∈ descend start pieces, IsSettled kept := by
  induction pieces generalizing start with
  | nil => exact hstart
  | cons piece pieces ih =>
    refine ih (fun other hother => h other (List.mem_cons_of_mem _ hother)) ?_
    exact fun kept hkept =>
      isSettled_of_mem_addSegment hstart (h piece List.mem_cons_self) hkept

/-- A slash at the end of a path is all that the last segment adds where it is
empty or a step. -/
theorem dropFinalSlash_ofSegments_addSegment {last : Text} (hlast : last ≠ [])
    (hslash : '/' ∉ last) (front : List Text) :
    Text.dropFinalSlash (Path.ofSegments (addSegment front last true)) =
      Path.ofSegments (addSegment front last false) := by
  have hend (segments : List Text) :
      Text.dropFinalSlash (Path.ofSegments (segments ++ [[]])) = Path.ofSegments segments := by
    rw [Path.ofSegments_append]
    exact Text.dropFinalSlash_concat _
  cases hdots : isDoubleDot last with
  | true =>
    rw [addSegment, addSegment, hdots]
    simpa using hend (leave front)
  | false =>
    cases hdot : isSingleDot last with
    | true =>
      rw [addSegment, addSegment, hdots, hdot]
      simpa using hend front
    | false =>
      rw [addSegment_of_kept hdot hdots, addSegment_of_kept hdot hdots, Path.ofSegments_append]
      refine Text.dropFinalSlash_of_ne fun hslash => ?_
      have hsingle : Path.ofSegments [encode inPathSet last] = ['/'] ++ encode inPathSet last := by
        simp [Path.ofSegments]
      rw [hsingle, ← List.append_assoc,
        List.getLast?_append_of_ne_nil _ (encode_ne_nil hlast)] at hslash
      rcases mem_encode (List.mem_of_getLast? hslash) with ⟨hmem, -⟩ | hescape
      · contradiction
      · exact absurd hescape (by decide)

/-- The path of a text, less a slash at its end, is where more segments go on. -/
theorem dropFinalSlash_ofSegments_addSegments {path : Text} (h : path.head? = some '/') :
    Text.dropFinalSlash (Path.ofSegments (addSegments [] (Path.segments path))) =
      Path.ofSegments (descend [] (Path.segments (Text.dropFinalSlash path))) := by
  by_cases hend : path.getLast? = some '/'
  · obtain ⟨front, rfl⟩ := List.getLast?_eq_some_iff.1 hend
    have hsegments : Path.segments (front ++ ['/']) = Path.segments front ++ [[]] :=
      Path.segments_append_cons front []
    rw [Text.dropFinalSlash_concat, hsegments, addSegments_append (by simp), addSegments,
      addSegment_of_kept rfl rfl, Path.ofSegments_append]
    exact Text.dropFinalSlash_concat _
  · have hne := Path.segments_of_slash h
    obtain ⟨front, last, hsegments⟩ := (List.eq_nil_or_concat (Path.segments path)).resolve_left hne
    have hmem : last ∈ Path.segments path := by simp [hsegments]
    have hslash : '/' ∉ last := (Text.of_mem_split (List.mem_of_mem_tail hmem)).2
    have hlast : last ≠ [] := by
      rintro rfl
      refine hend ?_
      rw [← Path.ofSegments_segments h, hsegments, List.concat_eq_append, Path.ofSegments_append]
      exact List.getLast?_concat
    rw [Text.dropFinalSlash_of_ne hend, hsegments, List.concat_eq_append,
      addSegments_append (by simp), addSegments,
      dropFinalSlash_ofSegments_addSegment hlast hslash, descend, descend, List.foldl_append]
    rfl

end Segments

section Route

/-- The characters of a path. -/
def isPathChar (c : Char) : Bool := c != '?' && c != '#'

/-- A query as it stands in an address. -/
def asked (query : Option Text) : Text := (query.map ('?' :: ·)).getD []

theorem mem_asked {query : Option Text} {c : Char} :
    c ∈ asked query ↔ ∃ text ∈ query, c ∈ '?' :: text := by
  cases query <;> simp [asked]

theorem stops_isPathChar_asked (query : Option Text) : Text.Stops isPathChar (asked query) := by
  cases query with
  | none => exact Text.stops_nil _
  | some query => exact Text.stops_cons rfl _

theorem parseTail_asked (kind : SchemeKind) {query : Option Text} (h : ∀ text ∈ query, '#' ∉ text) :
    parseTail kind (asked query) = (query.map (encode (inQuerySet kind)), none) := by
  cases query with
  | none => rfl
  | some query =>
    have hkept : ∀ c ∈ query, (c != '#') = true := fun c hc => Text.bne_of_mem (h query rfl) hc
    simp only [asked, Option.map_some, Option.getD_some, parseTail,
      List.takeWhile_eq_self_iff.2 hkept, List.dropWhile_eq_nil_iff.2 hkept]

/-- A path and a query as they stand in an address, where nothing has to be
cleaned away. -/
structure IsRoute (path : Text) (query : Option Text) : Prop where
  slash : path.head? = some '/'
  in_path : ∀ c ∈ path, isPathChar c ∧ c ≠ '\\'
  in_query : ∀ text ∈ query, '#' ∉ text
  clean : cleanEnd (path ++ asked query) = path ++ asked query

variable {path : Text} {query : Option Text}

/-- A text with slashes for backslashes. -/
def slashed (text : Text) : Text := text.map fun c => if isSlash .web c then '/' else c

theorem slashed_eq_self (h : ∀ c ∈ path, c ≠ '\\') : slashed path = path := by
  refine (List.map_congr_left fun c hc => ?_).trans (List.map_id path)
  by_cases hslash : c = '/'
  · simp [hslash]
  · simp [isSlash, hslash, h c hc]

/-- A path text is cut at slashes of either direction, up to what ends it. -/
theorem cutPath_of_stops (hpath : ∀ c ∈ path, isPathChar c) {rest : Text}
    (hrest : Text.Stops isPathChar rest) :
    cutPath .web (path ++ rest) = (Text.split '/' (slashed path), rest) := by
  change (Text.split '/' (slashed ((path ++ rest).takeWhile isPathChar)),
    (path ++ rest).dropWhile isPathChar) = _
  rw [Text.takeWhile_append_of_all hpath hrest, Text.dropWhile_append_of_all hpath hrest]

/-- A path behind an authority is read segment by segment. -/
theorem parseAfterAuthority_of_stops (h : path.head? = some '/')
    (hpath : ∀ c ∈ path, isPathChar c) {rest : Text} (hrest : Text.Stops isPathChar rest) :
    parseAfterAuthority .web (path ++ rest) =
      (addSegments [] (Path.segments (slashed path)), rest) := by
  obtain ⟨after, rfl⟩ := List.head?_eq_some_iff.1 h
  have hslash : isSlash .web '/' := rfl
  have hsegments : Path.segments (slashed ('/' :: after)) = Text.split '/' (slashed after) := rfl
  rw [List.cons_append, parseAfterAuthority, if_pos hslash, parseSegments,
    cutPath_of_stops (List.forall_mem_cons.1 hpath).2 hrest, hsegments]

variable {scheme zone : Text}

/-- An address with a path is its authority, the segments and the query. -/
theorem parse_route (h : IsLead scheme zone) (hroute : IsRoute path query) :
    parse (lead scheme zone ++ (path ++ asked query)) =
      (parseAuthority (Text.lower scheme) zone).map fun found =>
        { scheme := Text.lower scheme, authority := some found.1,
          path := .rooted (addSegments [] (Path.segments path)),
          query := query.map (encode (inQuerySet .web)) } := by
  have hended : Ended (path ++ asked query) := by
    obtain ⟨after, rfl⟩ := List.head?_eq_some_iff.1 hroute.slash
    exact Text.stops_cons rfl _
  rw [parse_lead h hended, hroute.clean,
    parseAfterAuthority_of_stops hroute.slash (fun c hc => (hroute.in_path c hc).1)
      (stops_isPathChar_asked query),
    slashed_eq_self fun c hc => (hroute.in_path c hc).2]
  simp only [withTail, h.kind, parseTail_asked .web hroute.in_query]

/-- An address without a path has the root. -/
theorem parse_lead_alone (h : IsLead scheme zone) :
    parse (lead scheme zone) =
      (parseAuthority (Text.lower scheme) zone).map fun found =>
        { scheme := Text.lower scheme, authority := some found.1, path := .rooted [[]] } := by
  have hparse := parse_lead h (Text.stops_nil _)
  rwa [List.append_nil] at hparse

end Route

section Render

theorem spares_inQuerySet : Spares (inQuerySet .web) := Text.forall_mem (by decide)

/-- An address is written as its authority, path and query. -/
theorem render_eq (scheme : Text) (authority : Authority) (segments : List Text)
    (query : Option Text) :
    Url.render { scheme, authority := some authority, path := .rooted segments, query } =
      lead scheme authority.render ++ (Path.ofSegments segments ++ asked query) := by
  simp [render, renderWithoutFragment, renderAuthority, pathText, UrlPath.render, lead, asked]

theorem not_isOuter_of_not_isEscaped {inSet : Char → Bool}
    (hblank : ∀ n ≤ 0x20, inSet (Char.ofNat n)) {c : Char} (h : isEscaped inSet c = false) :
    isOuter c = false := by
  rw [Bool.eq_false_iff] at h ⊢
  intro houter
  refine h ?_
  have hset := hblank c.toNat (of_decide_eq_true houter)
  rw [Char.ofNat_toNat] at hset
  rw [isEscaped, hset, Bool.or_true]

theorem IsSettled.of_mem {segment : Text} (h : IsSettled segment) {c : Char} (hc : c ∈ segment) :
    isPathChar c ∧ c ≠ '\\' ∧ isOuter c = false := by
  obtain ⟨hleft, hslash⟩ := h.plain c hc
  refine ⟨?_, ?_, not_isOuter_of_not_isEscaped (by decide) hleft⟩
  · rw [isPathChar, Bool.and_eq_true, bne_iff_ne, bne_iff_ne]
    constructor <;> rintro rfl <;> cases hleft
  · rintro rfl
    cases hslash

theorem of_mem_encode_query {text : Text} {c : Char} (h : c ∈ encode (inQuerySet .web) text) :
    c ≠ '#' ∧ isOuter c = false := by
  rcases mem_encode h with ⟨-, hleft⟩ | hescape
  · refine ⟨?_, not_isOuter_of_not_isEscaped (by decide) hleft⟩
    rintro rfl
    cases hleft
  · have hall : ∀ d ∈ '%' :: Text.hexDigits, d ≠ '#' ∧ isOuter d = false :=
      Text.forall_mem (by decide)
    exact hall c hescape

theorem map_encode_encode (query : Option Text) :
    (query.map (encode (inQuerySet .web))).map (encode (inQuerySet .web)) =
      query.map (encode (inQuerySet .web)) := by
  rw [Option.map_map]
  congr 1
  funext text
  exact encode_encode spares_inQuerySet text

theorem head?_ofSegments {segments : List Text} (h : segments ≠ []) :
    (Path.ofSegments segments).head? = some '/' := by
  obtain ⟨segment, more, rfl⟩ := List.exists_cons_of_ne_nil h
  rfl

theorem of_mem_ofSegments {segments : List Text} (h : ∀ segment ∈ segments, IsSettled segment)
    {c : Char} (hc : c ∈ Path.ofSegments segments) :
    isEscaped inPathSet c = false ∧ isPathChar c ∧ c ≠ '\\' ∧ isOuter c = false := by
  obtain ⟨segment, hsegment, hmem⟩ := List.mem_flatMap.1 hc
  rcases List.mem_cons.1 hmem with rfl | hmem
  · decide
  · exact ⟨((h segment hsegment).plain c hmem).1, (h segment hsegment).of_mem hmem⟩

theorem segments_ofSegments_of_settled {segments : List Text}
    (h : ∀ segment ∈ segments, IsSettled segment) :
    Path.segments (Path.ofSegments segments) = segments :=
  Path.segments_ofSegments fun segment hsegment hslash => by
    cases ((h segment hsegment).plain '/' hslash).2

/-- Segments that are no steps and have nothing to escape are added as they are. -/
theorem addSegments_of_plain {segments : List Text}
    (hsteps : ∀ segment ∈ segments, isSingleDot segment = false ∧ isDoubleDot segment = false)
    (hplain : ∀ segment ∈ segments, ∀ c ∈ segment, isEscaped inPathSet c = false)
    (start : List Text) : addSegments start segments = start ++ segments := by
  have hsame : segments.map (encode inPathSet) = segments :=
    (List.map_congr_left fun segment hsegment => encode_eq_self (hplain segment hsegment)).trans
      (List.map_id segments)
  rw [addSegments_of_kept hsteps, hsame]

/-- Settled segments are added as they are. -/
theorem addSegments_of_settled {segments : List Text} (h : ∀ segment ∈ segments, IsSettled segment)
    (start : List Text) : addSegments start segments = start ++ segments :=
  addSegments_of_plain (fun segment hsegment => ⟨(h segment hsegment).no_dot,
    (h segment hsegment).no_dots⟩)
    (fun segment hsegment c hc => ((h segment hsegment).plain c hc).1) start

/-- What an address has in its path and query is written as a path and a query. -/
theorem isRoute_of_isSettled {segments : List Text} (hne : segments ≠ [])
    (hsettled : ∀ segment ∈ segments, IsSettled segment) (query : Option Text) :
    IsRoute (Path.ofSegments segments) (query.map (encode (inQuerySet .web))) := by
  have hpath : ∀ c ∈ Path.ofSegments segments,
      isPathChar c ∧ c ≠ '\\' ∧ isOuter c = false :=
    fun c hc => (of_mem_ofSegments hsettled hc).2
  have hquery : ∀ text ∈ query.map (encode (inQuerySet .web)),
      ∀ c ∈ text, c ≠ '#' ∧ isOuter c = false := by
    intro text htext c hc
    obtain ⟨plain, -, rfl⟩ := Option.map_eq_some_iff.1 htext
    exact of_mem_encode_query hc
  constructor
  case slash => exact head?_ofSegments hne
  case in_path => exact fun c hc => ⟨(hpath c hc).1, (hpath c hc).2.1⟩
  case in_query => exact fun text htext hmem => (hquery text htext '#' hmem).1 rfl
  case clean =>
    refine cleanEnd_of_visible fun c hc => ?_
    rcases List.mem_append.1 hc with hmem | hmem
    · exact (hpath c hmem).2.2
    · obtain ⟨text, htext, hmem⟩ := mem_asked.1 hmem
      rcases List.mem_cons.1 hmem with rfl | hmem
      · rfl
      · exact (hquery text htext c hmem).2

/-- An address is read again as it was written, if its name is. -/
theorem parse_render {scheme : Text} {authority : Authority} {segments : List Text}
    (hscheme : scheme = "http".toList ∨ scheme = "https".toList)
    (hauthority : IsAuthority scheme authority)
    (hname : ∀ name, authority.host = some (.domain name) → Domain.toAscii? name = some name)
    (hne : segments ≠ []) (hsettled : ∀ segment ∈ segments, IsSettled segment)
    (query : Option Text) :
    parse (Url.render
      { scheme, authority := some authority, path := .rooted segments,
        query := query.map (encode (inQuerySet .web)) }) =
      .ok { scheme, authority := some authority, path := .rooted segments,
            query := query.map (encode (inQuerySet .web)) } := by
  have hlower : Text.lower scheme = scheme := by
    rcases hscheme with rfl | rfl <;> decide
  have hlead : IsLead scheme authority.render := isLead_render hscheme hauthority
  have hweb : SchemeKind.of scheme = .web := hlower ▸ hlead.kind
  rw [render_eq, parse_route hlead (isRoute_of_isSettled hne hsettled query), hlower,
    parseAuthority_render hweb hauthority hname, segments_ofSegments_of_settled hsettled,
    addSegments_of_settled hsettled, List.nil_append, map_encode_encode]
  rfl

end Render

end Url

end RuleGateway
