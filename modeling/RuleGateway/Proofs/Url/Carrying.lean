import RuleGateway.Http.Location
import RuleGateway.Proofs.Url.Address
import RuleGateway.Proofs.Url.Printable

/-!
# Paths put behind an address

A path and a query are put behind an address as text. The path is read back as it
was if it has no character that ends a path and no escape: `parse_carried` says
what the address is then, and `reads_ascii` that this is also so where the address
is written in ASCII first.
-/

namespace RuleGateway.Url

open Percent

/-- An address without query and fragment, in parts: the scheme, what stands before
the path, and the path. -/
structure IsLink (scheme zone tail : Text) : Prop where
  lead : IsLead scheme zone
  is_tail : IsTail tail
  in_tail : ∀ c ∈ tail, isPathChar c ∧ c ≠ '\\' ∧ isOuter c = false
  printable : ∀ c ∈ zone ++ tail, isControl c = false

/-- A path and a query that are read as they are behind an address. -/
structure IsCarried (rest : Text) (query : Option Text) : Prop where
  slash : rest.head? = some '/'
  in_path : ∀ c ∈ rest, isPathChar c ∧ c ≠ '\\' ∧ isControl c = false
  escapeless : Escapeless rest
  no_step : ∀ segment ∈ Path.segments rest, segment ≠ ['.'] ∧ segment ≠ ['.', '.']
  no_blank_end : query = none → rest.getLast? ≠ some ' '
  in_query : ∀ text ∈ query, ∀ c ∈ text, c ≠ '#' ∧ isOuter c = false ∧ isControl c = false

section Segments

variable {scheme zone tail rest : Text} {query : Option Text}

theorem IsCarried.not_step (h : IsCarried rest query) {segment : Text}
    (hsegment : segment ∈ Path.segments rest) :
    isSingleDot segment = false ∧ isDoubleDot segment = false := by
  have hpart := (Text.of_mem_split (List.mem_of_mem_tail hsegment)).1
  obtain ⟨hdot, hdots⟩ := h.no_step segment hsegment
  exact not_step_of_escapeless (h.escapeless.of_infix hpart) hdot hdots

theorem isAnySlash_of_mem_segments {path : Text} (hpath : ∀ c ∈ path, c ≠ '\\') {segment : Text}
    (h : segment ∈ Path.segments path) : ∀ c ∈ segment, isAnySlash c = false := by
  obtain ⟨hpart, hslash⟩ := Text.of_mem_split (List.mem_of_mem_tail h)
  intro c hc
  rw [isAnySlash, Bool.or_eq_false_iff, beq_eq_false_iff_ne, beq_eq_false_iff_ne]
  refine ⟨?_, hpath c (hpart.subset hc)⟩
  rintro rfl
  exact hslash hc

/-- A path behind another is read segment by segment behind it. -/
theorem addSegments_carried (h : IsCarried rest query) (front : Text) :
    addSegments [] (Path.segments (front ++ rest)) =
      descend [] (Path.segments front) ++ (Path.segments rest).map (encode inPathSet) := by
  rw [Path.segments_append h.slash, addSegments_append (Path.segments_of_slash h.slash),
    addSegments_of_kept fun segment hsegment => h.not_step hsegment]

theorem ofSegments_map_encode (kept : List Text) :
    Path.ofSegments (kept.map (encode inPathSet)) = encode inPathSet (Path.ofSegments kept) := by
  induction kept with
  | nil => rfl
  | cons segment kept ih =>
    have hcons (segment : Text) (kept : List Text) :
        Path.ofSegments (segment :: kept) = '/' :: (segment ++ Path.ofSegments kept) := by
      simp [Path.ofSegments]
    have hslash : isEscaped inPathSet '/' = false := by decide
    rw [List.map_cons, hcons, hcons, encode_cons, hslash, encode_append, ih]
    rfl

/-- What stands behind the segments of a path is read behind it. -/
theorem decodeLoose_carried (h : IsCarried rest query) (front : List Text) :
    decodeLoose (Path.ofSegments (front ++ (Path.segments rest).map (encode inPathSet))) =
      decodeLoose (Path.ofSegments front) ++ Utf8.encode rest := by
  have hslash : ∀ c, (encode inPathSet rest).head? = some c → Text.hexDigit? c = none := by
    obtain ⟨after, rfl⟩ := List.head?_eq_some_iff.1 h.slash
    intro c hc
    cases hc
    decide
  rw [Path.ofSegments_append, ofSegments_map_encode, Path.ofSegments_segments h.slash,
    decodeLoose_append hslash, decodeLoose_encode spares_inPathSet,
    decodeLoose_of_escapeless h.escapeless]

end Segments

section Read

variable {scheme zone tail rest : Text} {query : Option Text}

theorem isKept_of_not_isControl {c : Char} (h : isControl c = false) : isKept c := by
  rw [isKept, Bool.not_eq_true', Bool.eq_false_iff]
  intro hmem
  have hall : ∀ d ∈ ['\t', '\n', '\r'], isControl d = true := Text.forall_mem (by decide)
  rw [hall c (by simpa using hmem)] at h
  cases h

theorem isOuter_of_not_isControl {c : Char} (h : isControl c = false) (hblank : c ≠ ' ') :
    isOuter c = false := by
  rw [Bool.eq_false_iff] at h ⊢
  intro houter
  have hall : ∀ n ≤ 0x20, isControl (Char.ofNat n) = true ∨ Char.ofNat n = ' ' := by decide
  have hc := hall c.toNat (of_decide_eq_true houter)
  rw [Char.ofNat_toNat] at hc
  exact hc.elim h hblank

theorem not_isOuter_of_mem_asked (hrest : IsCarried rest query) {c : Char} (h : c ∈ asked query) :
    isOuter c = false := by
  obtain ⟨text, htext, hmem⟩ := mem_asked.1 h
  rcases List.mem_cons.1 hmem with rfl | hmem
  · rfl
  · exact (hrest.in_query text htext c hmem).2.1

/-- Nothing of a path and a query that are carried is cleaned away. -/
theorem cleanEnd_carried (hrest : IsCarried rest query) :
    cleanEnd (rest ++ asked query) = rest ++ asked query := by
  refine cleanEnd_eq_self (fun c hc => ?_) fun c hc => ?_
  · rcases List.mem_append.1 hc with hmem | hmem
    · exact isKept_of_not_isControl (hrest.in_path c hmem).2.2
    · exact isKept_of_not_isOuter (not_isOuter_of_mem_asked hrest hmem)
  · cases query with
    | none =>
      rw [asked, Option.map_none, Option.getD_none, List.append_nil] at hc
      refine isOuter_of_not_isControl (hrest.in_path c (List.mem_of_getLast? hc)).2.2 ?_
      rintro rfl
      exact hrest.no_blank_end rfl hc
    | some text =>
      have hlast : (asked (some text)).getLast? = some c := by
        rwa [List.getLast?_append_of_ne_nil _ (by simp [asked])] at hc
      exact not_isOuter_of_mem_asked hrest (List.mem_of_getLast? hlast)

/-- Behind an address the path goes on from the path of the address. -/
theorem isRoute_carried (h : IsLink scheme zone tail) (hrest : IsCarried rest query) :
    IsRoute (Text.dropFinalSlash tail ++ rest) query := by
  have hfront : ∀ c ∈ Text.dropFinalSlash tail, isPathChar c ∧ c ≠ '\\' ∧ isOuter c = false :=
    fun c hc => h.in_tail c (Text.dropFinalSlash_subset tail hc)
  constructor
  case slash =>
    rcases h.is_tail.dropFinalSlash with hnil | hslash
    · rw [hnil, List.nil_append]
      exact hrest.slash
    · rw [List.head?_append, hslash]
      rfl
  case in_path =>
    intro c hc
    rcases List.mem_append.1 hc with hmem | hmem
    · exact ⟨(hfront c hmem).1, (hfront c hmem).2.1⟩
    · exact ⟨(hrest.in_path c hmem).1, (hrest.in_path c hmem).2.1⟩
  case in_query =>
    exact fun text htext hmem => (hrest.in_query text htext '#' hmem).1 rfl
  case clean =>
    rw [List.append_assoc, cleanEnd_append (fun c hc => (hfront c hc).2.2),
      cleanEnd_carried hrest]

/-- A path behind an address starts no query. -/
theorem not_mem_carried (h : IsLink scheme zone tail) (hrest : IsCarried rest query) :
    '?' ∉ Text.dropFinalSlash (lead scheme zone ++ tail) ++ rest := by
  rw [dropFinalSlash_lead h.lead, List.append_assoc, List.mem_append, not_or]
  constructor
  · intro hlead
    simp only [lead, List.mem_append, List.mem_cons] at hlead
    rcases hlead with hscheme | hcolon | hslash | hslash | hzone
    · cases h.lead.isAlpha hscheme
    · cases hcolon
    · cases hslash
    · cases hslash
    · cases h.lead.within '?' hzone
  · exact fun hmem => absurd ((isRoute_carried h hrest).in_path '?' hmem).1 (by decide)

/-- A link has a path, which goes on where the path of its text does. -/
theorem exists_parse_link (h : IsLink scheme zone tail) :
    ∃ kept, parse (lead scheme zone ++ tail) =
        (parseAuthority (Text.lower scheme) zone).map (fun found =>
          { scheme := Text.lower scheme, authority := some found.1, path := .rooted kept }) ∧
      Text.dropFinalSlash (Path.ofSegments kept) =
        Path.ofSegments (descend [] (Path.segments (Text.dropFinalSlash tail))) := by
  rcases h.is_tail with rfl | hslash
  · exact ⟨[[]], by rw [List.append_nil, parse_lead_alone h.lead], rfl⟩
  · have hroute : IsRoute tail none := by
      refine ⟨hslash, fun c hc => ?_, (fun text htext => by cases htext), ?_⟩
      · exact ⟨(h.in_tail c hc).1, (h.in_tail c hc).2.1⟩
      · rw [asked, Option.map_none, Option.getD_none, List.append_nil]
        exact cleanEnd_of_visible fun c hc => (h.in_tail c hc).2.2
    have hparse := parse_route h.lead hroute
    rw [asked, Option.map_none, Option.getD_none, List.append_nil, Option.map_none] at hparse
    exact ⟨_, hparse, dropFinalSlash_ofSegments_addSegments hslash⟩

/-- A link has a scheme of the web and an authority. -/
theorem place_of_link (h : IsLink scheme zone tail) {link : Url}
    (hlink : parse (lead scheme zone ++ tail) = .ok link) :
    (link.scheme = "http".toList ∨ link.scheme = "https".toList) ∧
      ∃ authority, link.authority = some authority ∧ IsAuthority link.scheme authority := by
  obtain ⟨kept, hparse, -⟩ := exists_parse_link h
  rw [hparse] at hlink
  cases hauthority : parseAuthority (Text.lower scheme) zone with
  | error error =>
    rw [hauthority] at hlink
    cases hlink
  | ok found =>
    rw [hauthority] at hlink
    cases hlink
    exact ⟨h.lead.web, found.1, rfl,
      isAuthority_of_parseAuthority h.lead.kind hauthority⟩

/-- A path and a query behind an address are read behind its path, less a slash at
its end. -/
theorem parse_carried (h : IsLink scheme zone tail) (hrest : IsCarried rest query) {link : Url}
    (hlink : parse (lead scheme zone ++ tail) = .ok link) :
    ∃ segments, parse (Text.dropFinalSlash (lead scheme zone ++ tail) ++ rest ++ asked query) =
        .ok { scheme := link.scheme, authority := link.authority, path := .rooted segments,
              query := query.map (encode (inQuerySet .web)) } ∧
      segments ≠ [] ∧ (∀ segment ∈ segments, IsSettled segment) ∧
      decodeLoose (Path.ofSegments segments) =
        decodeLoose (Text.dropFinalSlash link.pathText) ++ Utf8.encode rest := by
  obtain ⟨kept, hparse, hkept⟩ := exists_parse_link h
  have hroute := isRoute_carried h hrest
  have hread := parse_route h.lead hroute
  rw [hparse] at hlink
  cases hauthority : parseAuthority (Text.lower scheme) zone with
  | error error =>
    rw [hauthority] at hlink
    cases hlink
  | ok found =>
    rw [hauthority] at hlink hread
    cases hlink
    refine ⟨descend [] (Path.segments (Text.dropFinalSlash tail)) ++
      (Path.segments rest).map (encode inPathSet), ?_, ?_, ?_, ?_⟩
    · rw [dropFinalSlash_lead h.lead, List.append_assoc, List.append_assoc,
        ← List.append_assoc _ rest, hread, ← addSegments_carried hrest]
      rfl
    · simp [Path.segments_of_slash hrest.slash]
    · intro segment hsegment
      rcases List.mem_append.1 hsegment with hmem | hmem
      · refine isSettled_of_mem_descend (fun piece hpiece => ?_) (by simp) segment hmem
        refine isAnySlash_of_mem_segments (fun c hc => ?_) hpiece
        exact (h.in_tail c (Text.dropFinalSlash_subset tail hc)).2.1
      · obtain ⟨plain, hplain, rfl⟩ := List.mem_map.1 hmem
        obtain ⟨hdot, hdots⟩ := hrest.not_step hplain
        exact isSettled_encode hdot hdots
          (isAnySlash_of_mem_segments (fun c hc => (hrest.in_path c hc).2.1) hplain)
    · rw [decodeLoose_carried hrest, ← hkept]
      rfl

end Read

section Location

variable {scheme zone tail rest : Text} {query : Option Text}

/-- Whether an address leads where a link does, to the path and the query given. -/
def Reads (address : Text) (link : Url) (path : Bytes) (query : Option Text) : Prop :=
  ∃ url, parse address = .ok url ∧ url.scheme = link.scheme ∧ url.authority = link.authority ∧
    decodeLoose url.pathText = path ∧ url.query = query ∧ url.fragment = none

theorem isPrintable_lead (h : IsLead scheme zone) (hzone : IsPrintable zone) :
    IsPrintable (lead scheme zone) := by
  intro c hc
  simp only [lead, List.mem_append, List.mem_cons] at hc
  rcases hc with hscheme | rfl | rfl | rfl | hmem
  · exact (visible_of_isAlpha (h.isAlpha hscheme)).2
  · decide
  · decide
  · decide
  · exact hzone c hmem

theorem isPrintable_asked {query : Option Text} (h : ∀ text ∈ query, IsPrintable text) :
    IsPrintable (asked query) := by
  intro c hc
  obtain ⟨text, htext, hmem⟩ := mem_asked.1 hc
  rcases List.mem_cons.1 hmem with rfl | hmem
  · decide
  · exact h text htext c hmem

/-- What is carried behind a link may be the value of a field as it is. -/
theorem isPrintable_carried (h : IsLink scheme zone tail) (hrest : IsCarried rest query) :
    IsPrintable (Text.dropFinalSlash (lead scheme zone ++ tail) ++ rest ++ asked query) := by
  have hzone : IsPrintable zone := fun c hc => h.printable c (List.mem_append_left _ hc)
  have htail : IsPrintable tail := fun c hc => h.printable c (List.mem_append_right _ hc)
  have hlink := isPrintable_append (isPrintable_lead h.lead hzone) htail
  have hrest' : IsPrintable rest := fun c hc => (hrest.in_path c hc).2.2
  have hquery : IsPrintable (asked query) :=
    isPrintable_asked fun text htext c hc => (hrest.in_query text htext c hc).2.2
  refine isPrintable_append (isPrintable_append ?_ hrest') hquery
  exact fun c hc => hlink c (Text.dropFinalSlash_subset _ hc)

/-- What is carried behind a link is read from the address as a client is given it,
and that may be the value of a field. -/
theorem reads_ascii (h : IsLink scheme zone tail) (hrest : IsCarried rest query) {link : Url}
    (hlink : parse (lead scheme zone ++ tail) = .ok link) {address : Text}
    (haddress : address = Text.dropFinalSlash (lead scheme zone ++ tail) ++ rest ++ asked query)
    (hname : Text.isAscii address = false → ∀ name,
      link.authority.bind (·.host) = some (.domain name) → Domain.toAscii? name = some name) :
    Reads (Location.ascii address) link
        (decodeLoose (Text.dropFinalSlash link.pathText) ++ Utf8.encode rest)
        (query.map (encode (inQuerySet .web))) ∧
      IsPrintable (Location.ascii address) := by
  obtain ⟨segments, hparse, hne, hsettled, hdecode⟩ := parse_carried h hrest hlink
  rw [← haddress] at hparse
  rw [Location.ascii]
  split
  · exact ⟨⟨_, hparse, rfl, rfl, hdecode, rfl, rfl⟩, haddress ▸ isPrintable_carried h hrest⟩
  · -- The address is written anew, and its authority has to be read again.
    rename_i hascii
    obtain ⟨hscheme, authority, hauthority, hread⟩ := place_of_link h hlink
    rw [hauthority] at hparse hname
    simp only [hparse]
    refine ⟨⟨_, parse_render hscheme hread (fun name hhost => ?_) hne hsettled query, rfl,
      hauthority.symm, hdecode, rfl, rfl⟩, isPrintable_render hparse⟩
    exact hname (by simpa using hascii) name hhost

end Location

end RuleGateway.Url
