import RuleGateway.Proofs.Page.Links
import RuleGateway.Proofs.Text.WellFormed

/-!
# What mounting inserts into a page

The pieces of a page are cut inside of links from the root, so mounting inserts copies of
the mount there and changes nothing else. For the bytes of a body that is read leniently
the same holds exactly if they are a text (`isMounted_iff`): no other bytes come back when
copies of the mount are taken out of the mounted page.
-/

namespace RuleGateway.Links

section Pieces

theorem flatten_prepend (text : Text) (pieces : List Text) :
    (prepend text pieces).flatten = text ++ pieces.flatten := by
  cases pieces <;> simp [prepend]

/-- The pieces are the page. -/
theorem flatten_pieces (page : Text) : (pieces page).flatten = page := by
  induction page using pieces.induct with
  | case1 text link hlink hkept ih =>
    rw [pieces_of_kept hlink hkept, flatten_prepend, ih]
    conv => rhs; rw [← text_of_rootLink? hlink]
    simp [RootLink.text]
  | case2 text link hlink hmoved ih =>
    rw [pieces_of_moved hlink hmoved, List.flatten_cons, flatten_prepend, ih]
    conv => rhs; rw [← text_of_rootLink? hlink]
    simp [RootLink.text]
  | case3 hnone =>
    rw [pieces_nil]
    rfl
  | case4 c rest hnone ih =>
    rw [pieces_of_no_link hnone, flatten_prepend, ih]
    rfl

end Pieces

section Cuts

/-- A place inside of a link from the root: behind the quote that opens the value of a
link attribute, and before the slash of the value. -/
def IsInLink (before after : Bytes) : Prop :=
  ∃ name ∈ linkAttributes, ∃ value rest : Bytes, '"'.toNat.toUInt8 ∉ value ∧
    Utf8.encode (name ++ ['=', '"']) <:+ before ∧
    after = Utf8.encode ['/'] ++ value ++ Utf8.encode ['"'] ++ rest

/-- Cut at places in links only. -/
def AreCutInLinks (cuts : List Bytes) : Prop :=
  ∀ front back, cuts = front ++ back → front ≠ [] → back ≠ [] →
    IsInLink front.flatten back.flatten

theorem isInLink_append (front : Bytes) {before after : Bytes} (h : IsInLink before after) :
    IsInLink (front ++ before) after := by
  obtain ⟨name, hname, value, rest, hvalue, hbefore, hafter⟩ := h
  exact ⟨name, hname, value, rest, hvalue, hbefore.trans (List.suffix_append front before), hafter⟩

theorem areCutInLinks_cons {piece : Bytes} {cuts : List Bytes} (h : AreCutInLinks cuts)
    (hfirst : cuts ≠ [] → IsInLink piece cuts.flatten) : AreCutInLinks (piece :: cuts) := by
  intro front back hcuts hfront hback
  obtain ⟨first, front, rfl⟩ := List.exists_cons_of_ne_nil hfront
  obtain ⟨rfl, rfl⟩ := List.cons.inj hcuts
  cases front with
  | nil =>
    rw [List.flatten_singleton]
    exact hfirst hback
  | cons next front =>
    rw [List.flatten_cons]
    exact isInLink_append piece (h (next :: front) back rfl (List.cons_ne_nil _ _) hback)

theorem areCutInLinks_singleton (piece : Bytes) : AreCutInLinks [piece] := by
  apply areCutInLinks_cons
  · intro front back h hfront
    exact absurd (List.append_eq_nil_iff.1 h.symm).1 hfront
  · exact fun h => absurd rfl h

theorem areCutInLinks_map_prepend (text : Text) {cuts : List Text}
    (h : AreCutInLinks (cuts.map Utf8.encode)) :
    AreCutInLinks ((prepend text cuts).map Utf8.encode) := by
  cases cuts with
  | nil => exact areCutInLinks_singleton _
  | cons piece cuts =>
    intro front back hcuts hfront hback
    obtain ⟨first, front, rfl⟩ := List.exists_cons_of_ne_nil hfront
    obtain ⟨rfl, hrest⟩ := List.cons.inj hcuts
    have hplace := h (Utf8.encode piece :: front) back (congrArg _ hrest) (List.cons_ne_nil _ _)
      hback
    rw [Utf8.encode_append, List.flatten_cons, List.append_assoc]
    exact isInLink_append (Utf8.encode text) hplace

theorem isInLink_of_rootLink? {text : Text} {link : RootLink} (h : rootLink? text = some link) :
    IsInLink (Utf8.encode link.lead)
      (Utf8.encode ('/' :: link.value ++ '"' :: link.after)) := by
  obtain ⟨name, hname, hlink⟩ := List.exists_of_findSome?_eq_some h
  unfold linkOf? at hlink
  dsimp only at hlink
  split at hlink
  · cases hlink
  · split at hlink
    · cases hlink
    · rename_i rest _ _ c after _
      cases hlink
      refine ⟨name, hname, Utf8.encode (rest.takeWhile (· != '"')), Utf8.encode after, ?_,
        List.suffix_rfl, ?_⟩
      · intro hquote
        have hmem := Utf8.mem_of_mem_encode (by decide) hquote
        have hall := List.all_eq_true.1 List.all_takeWhile _ hmem
        exact absurd hall (by decide)
      · rw [← Utf8.encode_append, ← Utf8.encode_append, ← Utf8.encode_append]
        simp

theorem areCutInLinks_pieces (page : Text) : AreCutInLinks ((pieces page).map Utf8.encode) := by
  induction page using pieces.induct with
  | case1 text link hlink hkept ih =>
    rw [pieces_of_kept hlink hkept]
    exact areCutInLinks_map_prepend _ ih
  | case2 text link hlink hmoved ih =>
    rw [pieces_of_moved hlink hmoved]
    refine areCutInLinks_cons (areCutInLinks_map_prepend _ ih) fun _ => ?_
    rw [Utf8.flatten_map_encode, flatten_prepend, flatten_pieces]
    have hplace := isInLink_of_rootLink? hlink
    rwa [List.append_cons] at hplace
  | case3 hnone =>
    rw [pieces_nil]
    exact areCutInLinks_singleton _
  | case4 c rest hnone ih =>
    rw [pieces_of_no_link hnone]
    exact areCutInLinks_map_prepend [c] ih

end Cuts

section Bodies

/-- The delivered bytes are the original ones with copies of the mount put into links from
the root: without the copies they are the original, byte for byte. -/
def IsMounted (mount original delivered : Bytes) : Prop :=
  ∃ cuts, AreCutInLinks cuts ∧ cuts.flatten = original ∧ mount.intercalate cuts = delivered

theorem encode_intercalate (mount : Text) (pieces : List Text) :
    (Utf8.encode mount).intercalate (pieces.map Utf8.encode) =
      Utf8.encode (mount.intercalate pieces) := by
  match pieces with
  | [] => rfl
  | [piece] => simp [List.intercalate]
  | piece :: next :: pieces =>
    have ih := encode_intercalate mount (next :: pieces)
    rw [List.intercalate_cons_cons, Utf8.encode_append,
      Utf8.encode_append, ← ih]
    simp [List.intercalate]

/-- A mounted page is the page with copies of the mount in its links. -/
theorem isMounted_encode (mount page : Text) :
    IsMounted (Utf8.encode mount) (Utf8.encode page) (Utf8.encode (Links.mount mount page)) := by
  refine ⟨(pieces page).map Utf8.encode, areCutInLinks_pieces page, ?_, ?_⟩
  · rw [Utf8.flatten_map_encode, flatten_pieces]
  · rw [encode_intercalate, Links.mount]

/-- Without the copies of a text that are put into it a text is a text. -/
theorem isText_flatten {mount : Text} {front : Bytes} {cuts : List Bytes}
    (h : Utf8.IsText (front ++ (Utf8.encode mount).intercalate cuts)) :
    Utf8.IsText (front ++ cuts.flatten) := by
  induction cuts generalizing front with
  | nil => exact h
  | cons piece cuts ih =>
    cases cuts with
    | nil => simpa [List.intercalate] using h
    | cons next cuts =>
      have hpieces : (Utf8.encode mount).intercalate (piece :: next :: cuts) =
          piece ++ (Utf8.encode mount ++ (Utf8.encode mount).intercalate (next :: cuts)) := by
        simp [List.intercalate]
      rw [hpieces, ← List.append_assoc] at h
      have hrest := ih h.delete
      rwa [List.flatten_cons, ← List.append_assoc]

/-- A body that is read leniently comes back out of the mounted page exactly if it is a
text. -/
theorem isMounted_iff (mount : Text) (body : Bytes) :
    IsMounted (Utf8.encode mount) body
        (Utf8.encode (Links.mount mount (Utf8.decodeLossy body))) ↔ Utf8.IsText body := by
  constructor
  · rintro ⟨cuts, -, rfl, hdelivered⟩
    have hmounted : Utf8.IsText ([] ++ (Utf8.encode mount).intercalate cuts) :=
      ⟨_, hdelivered.symm⟩
    exact isText_flatten hmounted
  · rintro ⟨page, rfl⟩
    rw [Utf8.decodeLossy_encode]
    exact isMounted_encode mount page

end Bodies

end RuleGateway.Links
