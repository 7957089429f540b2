import RuleGateway.Page.Crawling
import RuleGateway.Proofs.Router.MountBase
import RuleGateway.Proofs.Router.Numbering

/-!
# Reading a site map

A reader of a site map takes what stands between an opening tag and the next closing one,
and puts a character for each entity. What it gets is the address of every literal base
path that a rule with a target answers at, each once and in the order of evaluation,
whatever the host and the base paths are made of (`locations_sitemapText`). They are
written in character data, which has no character that could open or close anything.
-/

namespace RuleGateway

namespace Text

/-- What stands before and behind the first occurrence of a mark. -/
def cut? (mark : Text) : Text → Option (Text × Text)
  | [] => none
  | c :: text =>
    match after? mark (c :: text) with
    | some behind => some ([], behind)
    | none => (cut? mark text).map fun (before, behind) => (c :: before, behind)

/-- Whether no occurrence of a mark begins in a text, whatever follows the text. -/
def Misses (mark text : Text) : Prop :=
  ∀ rest ∈ text.tails, rest ≠ [] → ¬ rest <+: mark ∧ ¬ mark <+: rest

instance (mark text : Text) : Decidable (Misses mark text) :=
  inferInstanceAs (Decidable (∀ rest ∈ text.tails, rest ≠ [] → ¬ rest <+: mark ∧ ¬ mark <+: rest))

variable {mark front back before behind text : Text}

theorem eq_of_cut? (h : cut? mark text = some (before, behind)) :
    text = before ++ (mark ++ behind) := by
  induction text generalizing before with
  | nil => cases h
  | cons c text ih =>
    rw [cut?] at h
    cases hafter : after? mark (c :: text) with
    | some rest =>
      rw [hafter] at h
      cases h
      rw [List.nil_append]
      exact after?_eq_some_iff.1 hafter
    | none =>
      rw [hafter] at h
      obtain ⟨⟨first, last⟩, hcut, heq⟩ := Option.map_eq_some_iff.1 h
      cases heq
      rw [ih hcut]
      rfl

theorem Misses.tail {c : Char} (h : Misses mark (c :: text)) : Misses mark text := by
  intro rest hrest
  exact h rest (by rw [List.tails_cons]; exact List.mem_cons_of_mem _ hrest)

/-- A text in which no occurrence begins is read over. -/
theorem cut?_append (h : Misses mark front) (back : Text) :
    cut? mark (front ++ back) =
      (cut? mark back).map fun (before, behind) => (front ++ before, behind) := by
  induction front with
  | nil => exact Option.map_id'.symm
  | cons c front ih =>
    have hnone : after? mark (c :: front ++ back) = none := by
      apply Option.eq_none_iff_forall_ne_some.2
      intro rest hrest
      obtain ⟨hshort, hlong⟩ := h (c :: front) ((List.mem_tails _ _).2 List.suffix_rfl) (by simp)
      rcases List.append_eq_append_iff.1 (after?_eq_some_iff.1 hrest) with
        ⟨more, hmark, -⟩ | ⟨more, hfront, -⟩
      · exact hshort ⟨more, hmark.symm⟩
      · exact hlong ⟨more, hfront.symm⟩
    rw [List.cons_append] at hnone ⊢
    rw [cut?, hnone, ih h.tail]
    cases cut? mark back <;> rfl

/-- A text without the first character of a mark is read over. -/
theorem misses_of_not_mem {c : Char} (h : c ∉ text) : Misses (c :: mark) text := by
  intro rest hrest hne
  obtain ⟨d, rest, rfl⟩ := List.exists_cons_of_ne_nil hne
  have hd : d ≠ c := by
    rintro rfl
    exact h (((List.mem_tails _ _).1 hrest).subset List.mem_cons_self)
  simp [List.cons_prefix_cons, hd, Ne.symm hd]

/-- The first occurrence of a mark behind a text in which none begins. -/
theorem cut?_of_misses (h : Misses mark front) (hmark : mark ≠ []) (back : Text) :
    cut? mark (front ++ (mark ++ back)) = some (front, back) := by
  obtain ⟨c, more, rfl⟩ := List.exists_cons_of_ne_nil hmark
  have hhere : cut? (c :: more) (c :: more ++ back) = some ([], back) := by
    have hafter := after?_append (c :: more) back
    rw [List.cons_append] at hafter ⊢
    rw [cut?, hafter]
  rw [cut?_append h, hhere]
  simp only [Option.map_some, List.append_nil]

end Text

namespace Page

/-- The tag before an address. -/
def openingTag : Text := "<loc>"

/-- The tag behind an address. -/
def closingTag : Text := "</loc>"

/-- What stands between an opening tag and the next closing one, for one after the other. -/
def locations (xml : Text) : List Text :=
  match _hopen : Text.cut? openingTag xml with
  | none => []
  | some (_, opened) =>
    match _hclose : Text.cut? closingTag opened with
    | none => []
    | some (location, closed) => location :: locations closed
termination_by xml.length
decreasing_by
  have hopened := congrArg List.length (Text.eq_of_cut? _hopen)
  have hclosed := congrArg List.length (Text.eq_of_cut? _hclose)
  simp only [List.length_append] at hopened hclosed
  have htag : 0 < openingTag.length := by decide
  omega

/-- The text that XML content stands for: a character for each entity. -/
def readXml : Text → Text
  | '&' :: 'a' :: 'm' :: 'p' :: ';' :: rest => '&' :: readXml rest
  | '&' :: 'l' :: 't' :: ';' :: rest => '<' :: readXml rest
  | '&' :: 'g' :: 't' :: ';' :: rest => '>' :: readXml rest
  | '&' :: 'q' :: 'u' :: 'o' :: 't' :: ';' :: rest => '"' :: readXml rest
  | '&' :: 'a' :: 'p' :: 'o' :: 's' :: ';' :: rest => '\'' :: readXml rest
  | c :: rest => c :: readXml rest
  | [] => []

/-- The entities that every reader of XML knows. -/
def entities : List Text := ["&amp;", "&lt;", "&gt;", "&quot;", "&apos;"]

/-- The characters that cannot stand for themselves, but for the ampersand. -/
def delimiters : Text := ['<', '>', '"', '\'']

/-- Whether a text has no delimiter, and every ampersand starts an entity. -/
structure IsCharacterData (text : Text) : Prop where
  plain : ∀ c ∈ delimiters, c ∉ text
  references : ∀ front back, text = front ++ '&' :: back → ∃ entity ∈ entities, entity <+: '&' :: back

section Content

variable {c : Char} {text rest : Text}

theorem spelled_of_mem_entities : ∀ entity ∈ entities,
    entity.head? = some '&' ∧ '&' ∉ entity.tail ∧ ∀ d ∈ delimiters, d ∉ entity := by
  simp [entities, delimiters]

/-- A character is written as an entity or stands for itself. -/
theorem xmlChar_cases (c : Char) :
    xmlChar c ∈ entities ∨ xmlChar c = [c] ∧ c ≠ '&' ∧ c ∉ delimiters := by
  unfold xmlChar
  split
  case h_6 hamp hlt hgt hquot hapos =>
    refine .inr ⟨rfl, hamp, ?_⟩
    simp only [delimiters, List.mem_cons, List.not_mem_nil, or_false, not_or]
    exact ⟨hlt, hgt, hquot, hapos⟩
  all_goals
    left
    decide

theorem readXml_xmlChar (c : Char) (rest : Text) : readXml (xmlChar c ++ rest) = c :: readXml rest := by
  unfold xmlChar
  split
  case h_6 hamp _ _ _ _ =>
    rw [List.singleton_append, readXml]
    all_goals
      intros
      contradiction
  all_goals rfl

/-- What is written as XML content is read as it was. -/
theorem readXml_xmlText (text : Text) : readXml (xmlText text) = text := by
  induction text with
  | nil => rfl
  | cons c text ih => rw [xmlText, List.flatMap_cons, readXml_xmlChar, ← xmlText, ih]

theorem isCharacterData_nil : IsCharacterData [] where
  plain _ _ := List.not_mem_nil
  references front back h := by cases front <;> cases h

theorem IsCharacterData.xmlChar_append (h : IsCharacterData rest) (c : Char) :
    IsCharacterData (xmlChar c ++ rest) := by
  constructor
  case plain =>
    intro d hd hmem
    rcases List.mem_append.1 hmem with hhere | hrest
    · rcases xmlChar_cases c with hentity | ⟨hself, -, hplain⟩
      · exact (spelled_of_mem_entities _ hentity).2.2 d hd hhere
      · rw [hself, List.mem_singleton] at hhere
        exact hplain (hhere ▸ hd)
    · exact h.plain d hd hrest
  case references =>
    intro front back heq
    rcases List.append_eq_append_iff.1 heq with ⟨more, rfl, hmore⟩ | ⟨more, hchar, hmore⟩
    · exact h.references more back hmore
    · cases more with
      | nil =>
        rw [List.nil_append] at hmore
        exact h.references [] back hmore.symm
      | cons d more =>
        -- the ampersand is that of an entity, which begins with it
        obtain ⟨rfl, rfl⟩ := List.cons.inj hmore
        rcases xmlChar_cases c with hentity | ⟨hself, hamp, -⟩
        · obtain ⟨-, hinside, -⟩ := spelled_of_mem_entities _ hentity
          cases front with
          | nil => exact ⟨_, hentity, by rw [hchar]; exact List.prefix_append ('&' :: more) rest⟩
          | cons d front => exact absurd (by rw [hchar]; simp) hinside
        · rw [hself] at hchar
          have hmem : '&' ∈ [c] := by rw [hchar]; simp
          exact absurd (List.mem_singleton.1 hmem).symm hamp

theorem isCharacterData_xmlText (text : Text) : IsCharacterData (xmlText text) := by
  induction text with
  | nil => exact isCharacterData_nil
  | cons c text ih => exact ih.xmlChar_append c

end Content

section Reading

variable {front : Text}

/-- What is before the next opening tag makes no difference. -/
theorem locations_append (h : Text.Misses openingTag front) (rest : Text) :
    locations (front ++ rest) = locations rest := by
  rw [locations, locations, Text.cut?_append h]
  cases Text.cut? openingTag rest <;> rfl

theorem locations_of_cut? {xml skipped opened location closed : Text}
    (hopen : Text.cut? openingTag xml = some (skipped, opened))
    (hclose : Text.cut? closingTag opened = some (location, closed)) :
    locations xml = location :: locations closed := by
  rw [locations]
  grind

theorem locations_element {location : Text} (h : '<' ∉ location) (rest : Text) :
    locations (openingTag ++ (location ++ (closingTag ++ rest))) = location :: locations rest := by
  have hempty : Text.Misses openingTag [] := by decide
  have hmisses : Text.Misses closingTag location := Text.misses_of_not_mem h
  exact locations_of_cut? (Text.cut?_of_misses hempty (by decide) _)
    (Text.cut?_of_misses hmisses (by decide) rest)

/-- What stands before the tags of an entry. -/
def entryLead : Text := "  <url>\n    "

/-- What stands behind the tags of an entry. -/
def entryTail : Text := "\n  </url>"

theorem sitemapEntry_eq (address : Text) :
    sitemapEntry address =
      entryLead ++ (openingTag ++ (xmlText address ++ (closingTag ++ entryTail))) := by
  have hlead : "  <url>\n    <loc>".toList = entryLead ++ openingTag := by decide
  have htail : "</loc>\n  </url>".toList = closingTag ++ entryTail := by decide
  calc sitemapEntry address
      = (entryLead ++ openingTag) ++ xmlText address ++ (closingTag ++ entryTail) :=
        congrArg₂ (fun lead tail => lead ++ xmlText address ++ tail) hlead htail
    _ = _ := by simp only [List.append_assoc]

theorem locations_sitemapEntry (address rest : Text) :
    locations (sitemapEntry address ++ rest) = xmlText address :: locations rest := by
  have hlead : Text.Misses openingTag entryLead := by decide
  have htail : Text.Misses openingTag entryTail := by decide
  have hplain : '<' ∉ xmlText address := (isCharacterData_xmlText address).plain '<' (by decide)
  rw [sitemapEntry_eq]
  simp only [List.append_assoc]
  rw [locations_append hlead, locations_element hplain, locations_append htail]

/-- The entries of a site map are read one by one. -/
theorem locations_entries (addresses : List Text) :
    locations (Text.join '\n' (addresses.map sitemapEntry) ++ sitemapTail) =
      addresses.map xmlText := by
  have htail : locations sitemapTail = [] := by
    have hempty : locations [] = [] := by rw [locations]; rfl
    have hmisses : Text.Misses openingTag sitemapTail := by decide
    have hskip := locations_append hmisses []
    rwa [List.append_nil, hempty] at hskip
  induction addresses with
  | nil => exact htail
  | cons address addresses ih =>
    cases addresses with
    | nil => rw [List.map_singleton, Text.join, locations_sitemapEntry, htail, List.map_singleton]
    | cons next addresses =>
      have hbreak : Text.Misses openingTag ['\n'] := by decide
      have hjoin : Text.join '\n' ((address :: next :: addresses).map sitemapEntry) ++ sitemapTail =
          sitemapEntry address ++ (['\n'] ++
            (Text.join '\n' ((next :: addresses).map sitemapEntry) ++ sitemapTail)) := by
        simp [Text.join]
      rw [hjoin, locations_sitemapEntry, locations_append hbreak, ih, ← List.map_cons]

end Reading

end Page

/-- Whether a matcher has a target, and a base path without wildcards and parameters. -/
def Matcher.IsListed (matcher : Matcher) : Prop :=
  matcher.rule.target ≠ [] ∧
    ∀ segment ∈ Path.segments matcher.base, segment ≠ ['*'] ∧ segment.head? ≠ some ':'

namespace Router

/-- Whether base paths are those of the listed matchers of a router, each once, in the order
of the first matcher of each. -/
structure Lists (router : Router) (bases : List Text) : Prop where
  distinct : bases.Nodup
  mem_iff : ∀ base, base ∈ bases ↔ ∃ m ∈ router.matchers, m.IsListed ∧ m.base = base
  ordered : bases.Pairwise fun earlier later => ∃ front m back,
    router.matchers = front ++ m :: back ∧ m.IsListed ∧ m.base = earlier ∧
      ∀ other ∈ front, other.IsListed → other.base ≠ later

theorem isListed_iff {m : Matcher} :
    (!m.pattern.isDynamic && !m.rule.isInert) = true ↔ m.IsListed := by
  rw [Bool.and_eq_true, Bool.not_eq_true', Bool.not_eq_true', Matcher.pattern,
    Pattern.isDynamic_ofBase_eq_false_iff, Path.trailing_eq_nil_iff, Matcher.IsListed, and_comm]
  refine and_congr ?_ (forall₂_congr fun segment _ => ?_)
  · simp [Rule.isInert]
  · simp [Path.isDynamic]

/-- Of keys in the order of their first appearance, the earlier one is there before the
later one is. -/
theorem pairwise_eraseDups (keys : List Text) :
    keys.eraseDups.Pairwise fun earlier later =>
      ∃ front back, keys = front ++ earlier :: back ∧ later ∉ front := by
  refine (Slots.pairwise_idxOf_eraseDups keys).imp_of_mem fun {earlier later} hmem _ hlt => ?_
  obtain ⟨front, back, hkeys, hfront⟩ := List.eq_append_cons_of_mem (List.mem_eraseDups.1 hmem)
  refine ⟨front, back, hkeys, fun hlater => ?_⟩
  rw [hkeys, List.idxOf_append_of_notMem hfront, List.idxOf_append_of_mem hlater] at hlt
  have hlength := List.idxOf_lt_length_of_mem hlater
  omega

theorem lists_literalBases (router : Router) : router.Lists router.literalBases where
  distinct := Slots.nodup_eraseDups _
  mem_iff base := by
    simp only [literalBases, List.mem_eraseDups, List.mem_map, List.mem_filter, isListed_iff,
      and_assoc]
  ordered := by
    refine (pairwise_eraseDups _).imp fun {earlier later} ⟨front, back, hkeys, hlater⟩ => ?_
    obtain ⟨listed, others, hlisted, rfl, hothers⟩ := List.map_eq_append_iff.1 hkeys
    obtain ⟨m, more, rfl, rfl, -⟩ := List.map_eq_cons_iff.1 hothers
    obtain ⟨before, behind, hmatchers, hbefore, hbehind⟩ := List.filter_eq_append_iff.1 hlisted
    obtain ⟨skipped, rest, rfl, hskipped, hm, -⟩ := List.filter_eq_cons_iff.1 hbehind
    refine ⟨before ++ skipped, m, rest, by rw [hmatchers, List.append_assoc],
      isListed_iff.1 hm, rfl, fun other hother hlist heq => ?_⟩
    rcases List.mem_append.1 hother with hmem | hmem
    · refine hlater (List.mem_map.2 ⟨other, ?_, heq⟩)
      rw [← hbefore]
      exact List.mem_filter.2 ⟨hmem, isListed_iff.2 hlist⟩
    · exact hskipped other hmem (isListed_iff.2 hlist)

end Router

namespace Page

/-- A site map is read as the addresses of the listed base paths below the origin, in their
order, and each of them is character data. -/
theorem locations_sitemapText (origin : Text) (router : Router) :
    ∃ site bases, (origin = site ++ ['/'] ∨ origin = site ∧ origin.getLast? ≠ some '/') ∧
      router.Lists bases ∧
      (locations (sitemapText origin router)).map readXml = bases.map (site ++ ·) ∧
      ∀ location ∈ locations (sitemapText origin router), IsCharacterData location := by
  have hhead : Text.Misses openingTag sitemapHead := by decide
  have hread : locations (sitemapText origin router) =
      (router.literalBases.map (Text.dropFinalSlash origin ++ ·)).map xmlText := by
    rw [sitemapText, List.append_assoc, locations_append hhead, ← locations_entries, List.map_map]
    rfl
  refine ⟨Text.dropFinalSlash origin, router.literalBases, ?_, router.lists_literalBases, ?_, ?_⟩
  · by_cases hslash : origin.getLast? = some '/'
    · obtain ⟨site, rfl⟩ := List.getLast?_eq_some_iff.1 hslash
      exact .inl (by rw [Text.dropFinalSlash_concat])
    · exact .inr ⟨(Text.dropFinalSlash_of_ne hslash).symm, hslash⟩
  · rw [hread, List.map_map]
    refine (List.map_congr_left fun address _ => ?_).trans (List.map_id' _)
    exact readXml_xmlText address
  · rw [hread]
    intro location hlocation
    obtain ⟨address, -, rfl⟩ := List.mem_map.1 hlocation
    exact isCharacterData_xmlText address

end Page

end RuleGateway
