import RuleGateway.Text.Basic

/-!
# Links of a mounted page

A page that was written for the root of a site links from there. Below a mount
such links need the mount in front. The page is cut into pieces where the mount
belongs, so that nothing else in it can change: the pieces joined by nothing are
the page, and joined by the mount they are the mounted page.
-/

namespace RuleGateway.Links

/-- The attributes whose values are links, in the order in which they are
looked for. -/
def linkAttributes : List Text := ["href", "src", "action"]

/-- A link from the root of the site: what stands before its slash, what stands
between the slash and the closing quote, and what follows the quote. -/
structure RootLink where
  lead : Text
  value : Text
  after : Text

/-- The link as it stands in the page, with all that follows it. -/
def RootLink.text (link : RootLink) : Text :=
  link.lead ++ '/' :: link.value ++ '"' :: link.after

/-- The link with the given attribute that the text starts with. -/
def linkOf? (text name : Text) : Option RootLink :=
  let lead := name ++ ['=', '"']
  match Text.after? (lead ++ ['/']) text with
  | none => none
  | some rest =>
    match rest.dropWhile (· != '"') with
    | [] => none
    | _ :: after => some { lead, value := rest.takeWhile (· != '"'), after }

/-- The link from the root that the text starts with. -/
def rootLink? (text : Text) : Option RootLink := linkAttributes.findSome? (linkOf? text)

theorem text_of_linkOf? {text name : Text} {link : RootLink} (h : linkOf? text name = some link) :
    link.text = text := by
  unfold linkOf? at h
  simp only at h
  split at h
  · simp at h
  · rename_i rest hr
    split at h
    · simp at h
    · rename_i c after hd
      have hc : c = '"' := by
        have := List.head?_dropWhile_not (· != '"') rest
        simpa [hd] using this
      have hs := List.takeWhile_append_dropWhile (p := (· != '"')) (l := rest)
      rw [hd] at hs
      simp only [Option.some.injEq] at h
      subst h
      rw [Text.after?_eq_some_iff] at hr
      rw [hr]
      conv => rhs; rw [← hs, hc]
      simp [RootLink.text]

theorem text_of_rootLink? {text : Text} {link : RootLink} (h : rootLink? text = some link) :
    link.text = text := by
  obtain ⟨_, _, hl⟩ := List.exists_of_findSome?_eq_some h
  exact text_of_linkOf? hl

/-- Whether a link keeps its meaning below a mount: it names another host, a
place in the page, or goes relative to a directory. -/
def keepsMeaning (value : Text) : Bool :=
  ["/".toList, "#".toList, "./".toList, "../".toList].any (Text.startsWith value)

/-- The pieces with a text in front of the first one. -/
def prepend (text : Text) : List Text → List Text
  | [] => [text]
  | piece :: pieces => (text ++ piece) :: pieces

/-- The page cut where the mount belongs. -/
def pieces (text : Text) : List Text :=
  match _h : rootLink? text with
  | some link =>
    let value := '/' :: link.value ++ ['"']
    if keepsMeaning link.value then prepend (link.lead ++ value) (pieces link.after)
    else link.lead :: prepend value (pieces link.after)
  | none =>
    match text with
    | [] => [[]]
    | c :: rest => prepend [c] (pieces rest)
termination_by text.length
decreasing_by
  · have := congrArg List.length (text_of_rootLink? _h)
    simp [RootLink.text] at this
    omega
  · have := congrArg List.length (text_of_rootLink? _h)
    simp [RootLink.text] at this
    omega
  · simp

/-- The page with its links from the root below the mount. -/
def mount (mount : Text) (text : Text) : Text := mount.intercalate (pieces text)

end RuleGateway.Links
