import Mathlib.Data.List.Chain
import RuleGateway.Proofs.Page.Insertion
import RuleGateway.Proofs.Text.Runs

/-!
# The search for links in a page

A page is searched from its start to its end. A link from the root that is found is
skipped as a whole, so that one which begins inside of it is not found (`AreFound`). This
settles which links are found (`areFound_iff`). Each of them gets one copy of the mount,
before the slash of its value, unless its value has a form that keeps its meaning. Between
these places the page is left as it is (`exists_pieces`).
-/

namespace RuleGateway.Links

section Links

/-- What a link from the root is: an attribute for links, and a value in quotes that starts
with a slash and ends at the next quote. -/
structure RootLink.IsWritten (link : RootLink) : Prop where
  named : ∃ name ∈ (["href", "src", "action"] : List Text), link.lead = name ++ ['=', '"']
  closed : '"' ∉ link.value

variable {text name : Text} {link other : RootLink}

theorem isWritten_of_linkOf? (hname : name ∈ linkAttributes) (h : linkOf? text name = some link) :
    link.IsWritten := by
  unfold linkOf? at h
  dsimp only at h
  split at h
  · cases h
  · split at h
    · cases h
    · cases h
      refine ⟨⟨name, hname, rfl⟩, fun hquote => ?_⟩
      exact absurd (List.all_eq_true.1 List.all_takeWhile _ hquote) (by decide)

theorem isWritten_of_rootLink? (h : rootLink? text = some link) : link.IsWritten := by
  obtain ⟨name, hname, hlink⟩ := List.exists_of_findSome?_eq_some h
  exact isWritten_of_linkOf? hname hlink

theorem linkOf?_text (hlead : link.lead = name ++ ['=', '"']) (hclosed : '"' ∉ link.value) :
    linkOf? link.text name = some link := by
  have hplain : ∀ c ∈ link.value, (c != '"') = true := fun c hc => Text.bne_of_mem hclosed hc
  have hstop : Text.Stops (· != '"') ('"' :: link.after) := Text.stops_cons rfl _
  have hrest : Text.after? (link.lead ++ ['/']) link.text =
      some (link.value ++ '"' :: link.after) := by
    rw [Text.after?_eq_some_iff, RootLink.text]
    simp
  simp only [linkOf?, ← hlead, hrest, Text.takeWhile_append_of_all hplain hstop,
    Text.dropWhile_append_of_all hplain hstop]

/-- At one place of a page there is at most one link. -/
theorem RootLink.IsWritten.eq_of_text (h : link.IsWritten) (hother : other.IsWritten)
    (htext : link.text = other.text) : link = other := by
  obtain ⟨name, hname, hlead⟩ := h.named
  obtain ⟨name', hname', hlead'⟩ := hother.named
  -- No two attributes start with the same letter.
  have hsame : name = name' := by
    rw [RootLink.text, RootLink.text, hlead, hlead'] at htext
    simp only [List.mem_cons, List.not_mem_nil, or_false] at hname hname'
    rcases hname with rfl | rfl | rfl <;> rcases hname' with rfl | rfl | rfl <;>
      first | rfl | cases htext
  subst hsame
  have hlink := linkOf?_text hlead h.closed
  rw [htext, linkOf?_text hlead' hother.closed] at hlink
  exact (Option.some.inj hlink).symm

/-- A link is seen where it begins. -/
theorem RootLink.IsWritten.rootLink?_text (h : link.IsWritten) :
    rootLink? link.text = some link := by
  obtain ⟨name, hname, hlead⟩ := h.named
  have hsome : (rootLink? link.text).isSome := by
    rw [rootLink?, List.findSome?_isSome_iff]
    exact ⟨name, hname, by rw [linkOf?_text hlead h.closed]; rfl⟩
  obtain ⟨other, hother⟩ := Option.isSome_iff_exists.1 hsome
  rw [hother, (isWritten_of_rootLink? hother).eq_of_text h (text_of_rootLink? hother)]

end Links

section Found

/-- A link begins inside of another one. -/
structure RootLink.BeginsInside (later earlier : RootLink) : Prop where
  behind : later.text <:+ earlier.text
  other : later ≠ earlier
  before_end : ¬ later.text <:+ earlier.after

/-- The links that are found in a page, from its start to its end: no two of them overlap,
and every other link of the page begins inside of one of them. -/
structure AreFound (page : Text) (links : List RootLink) : Prop where
  stand : ∀ link ∈ links, link.IsWritten ∧ link.text <:+ page
  apart : links.Pairwise fun earlier later => later.text <:+ earlier.after
  all : ∀ link : RootLink, link.IsWritten → link.text <:+ page →
    link ∈ links ∨ ∃ earlier ∈ links, link.BeginsInside earlier

/-- The links that are found in a page. -/
def found (text : Text) : List RootLink :=
  match _h : rootLink? text with
  | some link => link :: found link.after
  | none =>
    match text with
    | [] => []
    | _ :: rest => found rest
termination_by text.length
decreasing_by
  · have := congrArg List.length (text_of_rootLink? _h)
    simp [RootLink.text] at this
    omega
  · exact Nat.lt_succ_self _

variable {text page : Text} {link first : RootLink} {links : List RootLink}

theorem found_of_link (h : rootLink? text = some link) : found text = link :: found link.after := by
  rw [found]
  split
  · rename_i other hother
    rw [h] at hother
    cases hother
    rfl
  · rename_i hnone
    rw [h] at hnone
    cases hnone

theorem found_nil : found [] = [] := by
  rw [found]
  rfl

theorem found_of_no_link {c : Char} {rest : Text} (h : rootLink? (c :: rest) = none) :
    found (c :: rest) = found rest := by
  rw [found]
  split
  · rename_i hother
    rw [h] at hother
    cases hother
  · rfl

theorem RootLink.after_suffix (link : RootLink) : link.after <:+ link.text :=
  ⟨link.lead ++ '/' :: link.value ++ ['"'], by simp [RootLink.text]⟩

theorem RootLink.not_text_suffix_after (link : RootLink) : ¬ link.text <:+ link.after := by
  intro h
  have hlength := h.length_le
  simp [RootLink.text] at hlength
  omega

/-- A link at the start of a page is the first that is found. -/
theorem AreFound.exists_cons (hfirst : first.IsWritten) (h : AreFound first.text links) :
    ∃ rest, links = first :: rest := by
  have hmem : first ∈ links := by
    rcases h.all first hfirst List.suffix_rfl with hmem | ⟨earlier, hearlier, hinside⟩
    · exact hmem
    · obtain ⟨hwritten, hplaced⟩ := h.stand earlier hearlier
      have htext := hinside.behind.eq_of_length_le hplaced.length_le
      exact absurd (hfirst.eq_of_text hwritten htext) hinside.other
  obtain ⟨head, rest, rfl⟩ := List.exists_cons_of_ne_nil (List.ne_nil_of_mem hmem)
  refine ⟨rest, ?_⟩
  rcases List.mem_cons.1 hmem with rfl | hlater
  · rfl
  · -- No link ends before the first one begins.
    have hbehind := List.rel_of_pairwise_cons h.apart hlater
    have hplaced := (h.stand head List.mem_cons_self).2
    exact absurd (hplaced.trans hbehind) head.not_text_suffix_after

theorem AreFound.behind (h : AreFound first.text (first :: links)) :
    AreFound first.after links := by
  obtain ⟨hbehind, hapart⟩ := List.pairwise_cons.1 h.apart
  refine ⟨?_, hapart, ?_⟩
  · intro link hlink
    exact ⟨(h.stand link (List.mem_cons_of_mem _ hlink)).1, hbehind link hlink⟩
  · intro link hwritten hplaced
    rcases h.all link hwritten (hplaced.trans first.after_suffix) with hmem | hinside
    · rcases List.mem_cons.1 hmem with rfl | hrest
      · exact absurd hplaced link.not_text_suffix_after
      · exact .inl hrest
    · obtain ⟨earlier, hearlier, hinside⟩ := hinside
      rcases List.mem_cons.1 hearlier with rfl | hrest
      · exact absurd hplaced hinside.before_end
      · exact .inr ⟨earlier, hrest, hinside⟩

theorem AreFound.cons (hfirst : first.IsWritten) (h : AreFound first.after links) :
    AreFound first.text (first :: links) := by
  constructor
  case stand =>
    refine List.forall_mem_cons.2 ⟨⟨hfirst, List.suffix_rfl⟩, ?_⟩
    intro link hlink
    obtain ⟨hwritten, hafter⟩ := h.stand link hlink
    exact ⟨hwritten, hafter.trans first.after_suffix⟩
  case apart =>
    exact List.pairwise_cons.2 ⟨fun link hlink => (h.stand link hlink).2, h.apart⟩
  case all =>
    intro link hwritten hplaced
    by_cases hsame : link = first
    · exact .inl (hsame ▸ List.mem_cons_self)
    · by_cases hafter : link.text <:+ first.after
      · rcases h.all link hwritten hafter with hmem | ⟨earlier, hmem, hinside⟩
        · exact .inl (List.mem_cons_of_mem _ hmem)
        · exact .inr ⟨earlier, List.mem_cons_of_mem _ hmem, hinside⟩
      · exact .inr ⟨first, List.mem_cons_self, hplaced, hsame, hafter⟩

/-- Where a link begins, it is found, and what is found behind it. -/
theorem areFound_text_iff (hfirst : first.IsWritten) :
    AreFound first.text links ↔ ∃ rest, AreFound first.after rest ∧ links = first :: rest := by
  constructor
  · intro h
    obtain ⟨rest, rfl⟩ := h.exists_cons hfirst
    exact ⟨rest, h.behind, rfl⟩
  · rintro ⟨rest, h, rfl⟩
    exact h.cons hfirst

theorem areFound_nil_iff : AreFound [] links ↔ links = [] := by
  have hnone (link : RootLink) : ¬ link.text <:+ [] := by
    rw [List.suffix_nil, RootLink.text]
    simp
  constructor
  · intro h
    apply List.eq_nil_iff_forall_not_mem.2
    intro link hlink
    exact hnone link (h.stand link hlink).2
  · rintro rfl
    exact ⟨List.forall_mem_nil _, List.Pairwise.nil, fun link _ hplaced =>
      absurd hplaced (hnone link)⟩

/-- Where no link begins, the search goes on with the next character. -/
theorem areFound_cons_iff {c : Char} {rest : Text} (hnone : rootLink? (c :: rest) = none) :
    AreFound (c :: rest) links ↔ AreFound rest links := by
  have hlater {link : RootLink} (hwritten : link.IsWritten) (hplaced : link.text <:+ c :: rest) :
      link.text <:+ rest := by
    rcases List.suffix_cons_iff.1 hplaced with hhere | hlater
    · rw [← hhere, hwritten.rootLink?_text] at hnone
      cases hnone
    · exact hlater
  constructor
  · intro h
    refine ⟨?_, h.apart, ?_⟩
    · intro link hlink
      obtain ⟨hwritten, hplaced⟩ := h.stand link hlink
      exact ⟨hwritten, hlater hwritten hplaced⟩
    · intro link hwritten hplaced
      exact h.all link hwritten (hplaced.trans (List.suffix_cons c rest))
  · intro h
    refine ⟨?_, h.apart, ?_⟩
    · intro link hlink
      obtain ⟨hwritten, hplaced⟩ := h.stand link hlink
      exact ⟨hwritten, hplaced.trans (List.suffix_cons c rest)⟩
    · intro link hwritten hplaced
      exact h.all link hwritten (hlater hwritten hplaced)

/-- A page has one list of links that are found in it. -/
theorem areFound_iff : AreFound page links ↔ links = found page := by
  induction page using found.induct generalizing links with
  | case1 text first hfirst ih =>
    rw [found_of_link hfirst]
    obtain rfl := text_of_rootLink? hfirst
    rw [areFound_text_iff (isWritten_of_rootLink? hfirst)]
    simp only [ih, exists_eq_left]
  | case2 hnone => rw [areFound_nil_iff, found_nil]
  | case3 c rest hnone ih => rw [areFound_cons_iff hnone, found_of_no_link hnone, ih]

end Found

section Pieces

/-- The starts of values that keep their meaning below a mount: of another host, of a
place in the page, and of a path relative to a directory. -/
def excludedStarts : List Text := ["//", "/#", "/./", "/../"]

/-- Whether the value of a link has a form that keeps its meaning. -/
def RootLink.IsExcluded (link : RootLink) : Prop :=
  ∃ start ∈ excludedStarts, start <+: '/' :: link.value

instance (link : RootLink) : Decidable link.IsExcluded :=
  inferInstanceAs (Decidable (∃ start ∈ excludedStarts, start <+: '/' :: link.value))

/-- What follows the quote that opens the value of a link. -/
def RootLink.place (link : RootLink) : Text := '/' :: link.value ++ '"' :: link.after

/-- Two neighbouring pieces of a page: the one before ends with the quote that opens the
value of a link attribute, and the one behind has the value with its closing quote. -/
structure Meets (before behind : Text) : Prop where
  opened : ∃ name ∈ (["href", "src", "action"] : List Text), name ++ ['=', '"'] <:+ before
  closed : ∃ value rest, '"' ∉ value ∧ behind = '/' :: value ++ '"' :: rest
  moved : ∀ start ∈ excludedStarts, ¬ start <+: behind

/-- What follows each place where two pieces meet. -/
def places : List Text → List Text
  | [] => []
  | [_] => []
  | _ :: piece :: pieces => (piece :: pieces).flatten :: places (piece :: pieces)

theorem places_prepend (text : Text) (pieces : List Text) :
    places (prepend text pieces) = places pieces := by
  match pieces with
  | [] => rfl
  | [_] => rfl
  | _ :: _ :: _ => rfl

theorem places_cons (piece : Text) {pieces : List Text} (h : pieces ≠ []) :
    places (piece :: pieces) = pieces.flatten :: places pieces := by
  obtain ⟨next, pieces, rfl⟩ := List.exists_cons_of_ne_nil h
  rfl

variable {link : RootLink} {before behind text : Text}

theorem keepsMeaning_iff : keepsMeaning link.value ↔ link.IsExcluded := by
  simp [keepsMeaning, RootLink.IsExcluded, excludedStarts, Text.startsWith_iff,
    List.cons_prefix_cons]

/-- No start of an excluded value goes beyond the value. -/
theorem isExcluded_of_start {start rest : Text} (hstart : start ∈ excludedStarts)
    (h : start <+: '/' :: link.value ++ '"' :: rest) : link.IsExcluded := by
  refine ⟨start, hstart, ?_⟩
  rcases Nat.lt_or_ge ('/' :: link.value).length start.length with hlong | hshort
  · have hquoted : '/' :: link.value ++ ['"'] <+: '/' :: link.value ++ '"' :: rest :=
      (List.prefix_append_right_inj _).2 ⟨rest, rfl⟩
    have hquote : '"' ∈ start := by
      refine (List.prefix_of_prefix_length_le hquoted h ?_).subset (by simp)
      rw [List.length_append]
      exact hlong
    have hnone : ∀ start ∈ excludedStarts, '"' ∉ start := by decide
    exact absurd hquote (hnone start hstart)
  · exact List.prefix_of_prefix_length_le h (List.prefix_append _ _) hshort

theorem Meets.append (h : Meets before behind) (text : Text) : Meets (text ++ before) behind where
  opened := by
    obtain ⟨name, hname, hsuffix⟩ := h.opened
    exact ⟨name, hname, hsuffix.trans (List.suffix_append text before)⟩
  closed := h.closed
  moved := h.moved

theorem meets_of_link (h : link.IsWritten) (hmoved : ¬ link.IsExcluded) (rest : Text) :
    Meets link.lead ('/' :: link.value ++ '"' :: rest) where
  opened := by
    obtain ⟨name, hname, hlead⟩ := h.named
    exact ⟨name, hname, hlead ▸ List.suffix_rfl⟩
  closed := ⟨link.value, rest, h.closed, rfl⟩
  moved _ hstart hprefix := hmoved (isExcluded_of_start hstart hprefix)

theorem isChain_prepend (text : Text) {pieces : List Text} (h : pieces.IsChain Meets) :
    (prepend text pieces).IsChain Meets := by
  match pieces, h with
  | [], _ => exact List.isChain_singleton _
  | [_], _ => exact List.isChain_singleton _
  | _ :: _ :: _, h =>
    obtain ⟨hmeets, hrest⟩ := List.isChain_cons_cons.1 h
    exact List.isChain_cons_cons.2 ⟨hmeets.append text, hrest⟩

theorem pieces_ne_nil (page : Text) : pieces page ≠ [] := by
  cases hfirst : rootLink? page with
  | some link =>
    by_cases hkept : keepsMeaning link.value
    · rw [pieces_of_kept hfirst hkept]
      exact prepend_ne_nil _ _
    · rw [pieces_of_moved hfirst hkept]
      exact List.cons_ne_nil _ _
  | none =>
    cases page with
    | nil =>
      rw [pieces_nil]
      exact List.cons_ne_nil _ _
    | cons c rest =>
      rw [pieces_of_no_link hfirst]
      exact prepend_ne_nil _ _

theorem isChain_pieces (page : Text) : (pieces page).IsChain Meets := by
  induction page using pieces.induct with
  | case1 text link hlink hkept ih =>
    rw [pieces_of_kept hlink hkept]
    exact isChain_prepend _ ih
  | case2 text link hlink hmoved ih =>
    rw [pieces_of_moved hlink hmoved]
    refine (isChain_prepend _ ih).cons fun next hnext => ?_
    obtain ⟨rest, hrest⟩ : ∃ rest, next = '/' :: link.value ++ '"' :: rest := by
      cases hpieces : pieces link.after with
      | nil => exact absurd hpieces (pieces_ne_nil _)
      | cons piece pieces =>
        rw [hpieces] at hnext
        cases hnext
        exact ⟨piece, by simp⟩
    rw [hrest]
    exact meets_of_link (isWritten_of_rootLink? hlink) (keepsMeaning_iff.not.1 hmoved) rest
  | case3 hnone =>
    rw [pieces_nil]
    exact List.isChain_singleton _
  | case4 c rest hnone ih =>
    rw [pieces_of_no_link hnone]
    exact isChain_prepend _ ih

/-- The mount is put in front of what is found and not excluded. -/
theorem mounted_eq (page : Text) :
    mounted page = (found page).filter fun link => ¬ link.IsExcluded := by
  induction page using mounted.induct with
  | case1 text link hlink hkept ih =>
    rw [mounted_of_link hlink, if_pos hkept, ih, found_of_link hlink,
      List.filter_cons_of_neg (by simpa using keepsMeaning_iff.1 hkept)]
  | case2 text link hlink hmoved ih =>
    rw [mounted_of_link hlink, if_neg hmoved, ih, found_of_link hlink,
      List.filter_cons_of_pos (by simpa using keepsMeaning_iff.not.1 hmoved)]
  | case3 hnone => rw [mounted_nil, found_nil]; rfl
  | case4 c rest hnone ih => rw [mounted_of_no_link hnone, ih, found_of_no_link hnone]

theorem places_pieces (page : Text) :
    places (pieces page) = (mounted page).map RootLink.place := by
  induction page using pieces.induct with
  | case1 text link hlink hkept ih =>
    rw [pieces_of_kept hlink hkept, places_prepend, ih, mounted_of_link hlink, if_pos hkept]
  | case2 text link hlink hmoved ih =>
    rw [pieces_of_moved hlink hmoved, places_cons _ (prepend_ne_nil _ _), places_prepend, ih,
      flatten_prepend, flatten_pieces, mounted_of_link hlink, if_neg hmoved, List.map_cons]
    simp [RootLink.place]
  | case3 hnone =>
    rw [pieces_nil, mounted_nil]
    rfl
  | case4 c rest hnone ih =>
    rw [pieces_of_no_link hnone, places_prepend, ih, mounted_of_no_link hnone]

/-- Mounting cuts a page into pieces, the same for every mount, and puts the mount between
them: one copy before the value of each link that is found and not excluded, and nothing
anywhere else. -/
theorem exists_pieces (page : Text) :
    ∃ pieces : List Text, pieces ≠ [] ∧ pieces.flatten = page ∧
      (∀ mount, Links.mount mount page = mount.intercalate pieces) ∧
      pieces.IsChain Meets ∧
      ∃ links, AreFound page links ∧
        places pieces = (links.filter fun link => ¬ link.IsExcluded).map RootLink.place :=
  ⟨pieces page, pieces_ne_nil page, flatten_pieces page, fun _ => rfl, isChain_pieces page,
    found page, areFound_iff.2 rfl, by rw [places_pieces, mounted_eq]⟩

-- A quote is missing, so that the second link begins inside of the first one.
example :
    Links.mount "/app" "<a href=\"/a src=\"/b\">" = "<a href=\"/app/a src=\"/b\">".toList := by
  decide +kernel

end Pieces

end RuleGateway.Links
