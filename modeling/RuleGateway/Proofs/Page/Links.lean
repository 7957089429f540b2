import RuleGateway.Page.Links

/-!
# The links of a mounted page

A page is read link by link, and each link from the root is either left alone or
gets the mount in front (`mounted`). What is before and behind a link is mounted by
itself, so that the page has the mount before every such link (`exists_of_mem_mounted`).
-/

namespace RuleGateway.Links

deriving instance DecidableEq, Repr for RootLink

/-- The links of a page that get the mount, from the first to the last. -/
def mounted (text : Text) : List RootLink :=
  match _h : rootLink? text with
  | some link =>
    if keepsMeaning link.value then mounted link.after else link :: mounted link.after
  | none =>
    match text with
    | [] => []
    | _ :: rest => mounted rest
termination_by text.length
decreasing_by
  all_goals
    first
    | exact Nat.lt_succ_self _
    | have := congrArg List.length (text_of_rootLink? _h)
      simp [RootLink.text] at this
      omega

section Pieces

theorem prepend_ne_nil (text : Text) (pieces : List Text) : prepend text pieces ≠ [] := by
  cases pieces <;> exact List.cons_ne_nil _ _

theorem intercalate_prepend (mount text : Text) (pieces : List Text) :
    mount.intercalate (prepend text pieces) = text ++ mount.intercalate pieces := by
  match pieces with
  | [] => simp [prepend]
  | [piece] => simp [prepend]
  | piece :: next :: pieces => simp [prepend, List.intercalate]

variable {text : Text} {link : RootLink}

theorem pieces_of_kept (h : rootLink? text = some link) (hkept : keepsMeaning link.value) :
    pieces text = prepend (link.lead ++ ('/' :: link.value ++ ['"'])) (pieces link.after) := by
  rw [pieces]
  split
  · rename_i found hfound
    rw [h] at hfound
    cases hfound
    exact if_pos hkept
  · rename_i hnone
    rw [h] at hnone
    cases hnone

theorem pieces_of_moved (h : rootLink? text = some link) (hmoved : ¬ keepsMeaning link.value) :
    pieces text = link.lead :: prepend ('/' :: link.value ++ ['"']) (pieces link.after) := by
  rw [pieces]
  split
  · rename_i found hfound
    rw [h] at hfound
    cases hfound
    exact if_neg hmoved
  · rename_i hnone
    rw [h] at hnone
    cases hnone

theorem pieces_nil : pieces [] = [[]] := by
  rw [pieces]
  rfl

theorem pieces_of_no_link {c : Char} {rest : Text} (h : rootLink? (c :: rest) = none) :
    pieces (c :: rest) = prepend [c] (pieces rest) := by
  rw [pieces]
  split
  · rename_i hfound
    rw [h] at hfound
    cases hfound
  · rfl

theorem mount_of_kept (mount : Text) (h : rootLink? text = some link)
    (hkept : keepsMeaning link.value) :
    Links.mount mount text =
      link.lead ++ '/' :: link.value ++ '"' :: Links.mount mount link.after := by
  rw [Links.mount, pieces_of_kept h hkept, intercalate_prepend, ← Links.mount]
  simp

theorem mount_of_moved (mount : Text) (h : rootLink? text = some link)
    (hmoved : keepsMeaning link.value = false) :
    Links.mount mount text =
      link.lead ++ mount ++ '/' :: link.value ++ '"' :: Links.mount mount link.after := by
  rw [Links.mount, pieces_of_moved h (by simp [hmoved]),
    List.intercalate_cons_of_ne_nil (prepend_ne_nil _ _), intercalate_prepend, ← Links.mount]
  simp

theorem mount_of_no_link (mount : Text) {c : Char} {rest : Text} (h : rootLink? (c :: rest) = none) :
    Links.mount mount (c :: rest) = c :: Links.mount mount rest := by
  rw [Links.mount, pieces_of_no_link h, intercalate_prepend, ← Links.mount]
  rfl

end Pieces

section Mounted

variable {page text : Text} {link : RootLink}

theorem mounted_of_link (h : rootLink? text = some link) :
    mounted text =
      if keepsMeaning link.value then mounted link.after else link :: mounted link.after := by
  rw [mounted]
  split
  · rename_i found hfound
    rw [h] at hfound
    cases hfound
    rfl
  · rename_i hnone
    rw [h] at hnone
    cases hnone

theorem mounted_nil : mounted [] = [] := by
  rw [mounted]
  rfl

theorem mounted_of_no_link {c : Char} {rest : Text} (h : rootLink? (c :: rest) = none) :
    mounted (c :: rest) = mounted rest := by
  rw [mounted]
  split
  · rename_i hfound
    rw [h] at hfound
    cases hfound
  · rfl

/-- A link that gets the mount stands behind it in the mounted page. -/
theorem exists_of_mem_mounted (h : link ∈ mounted page) (mount : Text) :
    keepsMeaning link.value = false ∧ ∃ front, Links.mount mount page =
      front ++ link.lead ++ mount ++ '/' :: link.value ++ '"' :: Links.mount mount link.after := by
  induction page using mounted.induct with
  | case1 text first hfirst hkept ih =>
    rw [mounted_of_link hfirst, if_pos hkept] at h
    obtain ⟨hmoved, front, hfront⟩ := ih h
    refine ⟨hmoved, first.lead ++ '/' :: first.value ++ '"' :: front, ?_⟩
    rw [mount_of_kept mount hfirst hkept, hfront]
    simp
  | case2 text first hfirst hmoved ih =>
    rw [mounted_of_link hfirst, if_neg hmoved] at h
    rw [Bool.not_eq_true] at hmoved
    rw [mount_of_moved mount hfirst hmoved]
    rcases List.mem_cons.1 h with rfl | hlater
    · exact ⟨hmoved, [], rfl⟩
    · obtain ⟨hmoved', front, hfront⟩ := ih hlater
      refine ⟨hmoved', first.lead ++ mount ++ '/' :: first.value ++ '"' :: front, ?_⟩
      rw [hfront]
      simp
  | case3 hnone =>
    rw [mounted_nil] at h
    cases h
  | case4 c rest hnone ih =>
    rw [mounted_of_no_link hnone] at h
    obtain ⟨hmoved, front, hfront⟩ := ih h
    refine ⟨hmoved, c :: front, ?_⟩
    rw [mount_of_no_link mount hnone, hfront]
    rfl

/-- What gets the mount does not lead to another host. -/
theorem head?_ne_slash {value : Text} (h : keepsMeaning value = false) : value.head? ≠ some '/' := by
  intro hslash
  obtain ⟨rest, rfl⟩ := List.head?_eq_some_iff.1 hslash
  cases h

end Mounted

end RuleGateway.Links
