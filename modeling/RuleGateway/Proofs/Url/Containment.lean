import RuleGateway.Proofs.Pattern.Assignment
import RuleGateway.Proofs.Url.Directory

/-!
# Staying in a directory

A text that is read in a directory may step up out of it. The address that comes of it
starts with that of the directory exactly if the segments of the directory are still
there when all steps are taken (`isPrefix_render_iff`). They are if the steps up never
outnumber the segments that were gone down before (`isPrefix_of_staysWithin`).
-/

namespace RuleGateway.Url

open Percent

section Walk

/-- How deep a walk is after one more segment. There is no way up from where it began. -/
def depthAfter? (depth : Nat) (piece : Text) : Option Nat :=
  if isDoubleDot piece then (if depth = 0 then none else some (depth - 1))
  else if isSingleDot piece then some depth
  else some (depth + 1)

/-- Whether a walk through segments never goes up from where it begins. -/
def staysWithin (pieces : List Text) : Bool := (pieces.foldlM depthAfter? 0).isSome

theorem leave_append {more : List Text} (h : more ≠ []) (start : List Text) :
    leave (start ++ more) = start ++ leave more := by
  rw [leave, leave, List.getLast?_append_of_ne_nil start h]
  split
  · rfl
  · exact List.dropLast_append_of_ne_nil h

theorem length_le_leave (segments : List Text) : segments.length - 1 ≤ (leave segments).length := by
  rw [leave]
  split
  · exact Nat.sub_le _ _
  · rw [List.length_dropLast]

/-- A segment leaves those alone that a walk began behind, and what it is after the last
one is something. -/
theorem exists_more_addSegment {depth deeper : Nat} {piece : Text} {more : List Text}
    (hdepth : depth ≤ more.length) (h : depthAfter? depth piece = some deeper)
    (start : List Text) (last : Bool) :
    ∃ rest, addSegment (start ++ more) piece last = start ++ rest ∧ deeper ≤ rest.length ∧
      (last → rest ≠ []) := by
  rw [depthAfter?] at h
  split at h
  · rename_i hdots
    rw [Option.ite_none_left_eq_some, Option.some_inj] at h
    obtain ⟨hpositive, rfl⟩ := h
    have hmore : more ≠ [] := by
      rintro rfl
      exact hpositive (Nat.le_zero.1 hdepth)
    refine ⟨leave more ++ if last then [[]] else [], ?_, ?_, ?_⟩
    · rw [addSegment, if_pos hdots, leave_append hmore, List.append_assoc]
    · have := length_le_leave more
      rw [List.length_append]
      omega
    · intro hlast
      simp [hlast]
  · rename_i hdots
    split at h
    · rename_i hdot
      cases h
      refine ⟨more ++ if last then [[]] else [], ?_, ?_, ?_⟩
      · rw [addSegment, if_neg hdots, if_pos hdot, List.append_assoc]
      · rw [List.length_append]
        omega
      · intro hlast
        simp [hlast]
    · rename_i hdot
      cases h
      refine ⟨more ++ [encode inPathSet piece], ?_, ?_, fun _ => by simp⟩
      · rw [addSegment, if_neg hdots, if_neg hdot, List.append_assoc]
      · rw [List.length_append, List.length_singleton]
        omega

/-- A walk that never goes up from where it begins leaves the segments before alone. -/
theorem exists_more_addSegments {pieces : List Text} (hne : pieces ≠ []) {depth deeper : Nat}
    {more : List Text} (hdepth : depth ≤ more.length)
    (h : pieces.foldlM depthAfter? depth = some deeper) (start : List Text) :
    ∃ rest, rest ≠ [] ∧ addSegments (start ++ more) pieces = start ++ rest := by
  induction pieces generalizing depth more with
  | nil => exact absurd rfl hne
  | cons piece pieces ih =>
    rw [List.foldlM_cons] at h
    obtain ⟨middle, hmiddle, hrest⟩ := Option.bind_eq_some_iff.1 h
    cases pieces with
    | nil =>
      obtain ⟨rest, hadd, -, hlast⟩ := exists_more_addSegment hdepth hmiddle start true
      exact ⟨rest, hlast rfl, hadd⟩
    | cons next pieces =>
      obtain ⟨rest, hadd, hlength, -⟩ := exists_more_addSegment hdepth hmiddle start false
      obtain ⟨final, hfinal, hall⟩ := ih (by simp) hlength hrest
      refine ⟨final, hfinal, ?_⟩
      rw [addSegments, hadd, hall]
      simp

theorem addSegments_ne_nil {pieces : List Text} (hne : pieces ≠ []) (start : List Text) :
    addSegments start pieces ≠ [] := by
  induction pieces generalizing start with
  | nil => exact absurd rfl hne
  | cons piece pieces ih =>
    cases pieces with
    | nil =>
      rw [addSegments, addSegment]
      split
      · simp
      · split <;> simp
    | cons next pieces =>
      rw [addSegments]
      · exact ih (by simp) _
      · simp

end Walk

section Prefix

variable {front back kept other : Text}

/-- Runs that are ended by what stands behind them are compared before it. -/
theorem append_isPrefix_append_iff (hkept : ∀ c ∈ kept, endsAuthority .web c = false)
    (hother : ∀ c ∈ other, endsAuthority .web c = false) (hne : front ≠ []) (hfront : Ended front)
    (hback : Ended back) : kept ++ front <+: other ++ back ↔ kept = other ∧ front <+: back := by
  constructor
  · rintro ⟨rest, hrest⟩
    have hended : Ended (front ++ rest) := by
      obtain ⟨c, more, rfl⟩ := List.exists_cons_of_ne_nil hne
      exact Text.stops_cons (hfront c rfl) _
    have htake := congrArg (List.takeWhile (!endsAuthority .web ·)) hrest
    rw [List.append_assoc, Text.takeWhile_append_of_all (fun c hc => by simp [hkept c hc]) hended,
      Text.takeWhile_append_of_all (fun c hc => by simp [hother c hc]) hback] at htake
    subst htake
    rw [List.append_assoc, List.append_cancel_left_eq] at hrest
    exact ⟨rfl, rest, hrest⟩
  · rintro ⟨rfl, hprefix⟩
    exact (List.prefix_append_right_inj kept).2 hprefix

theorem IsSettled.within {segment : Text} (h : IsSettled segment) :
    ∀ c ∈ segment, endsAuthority .web c = false := by
  intro c hc
  obtain ⟨hescaped, hslash⟩ := h.plain c hc
  rw [endsAuthority_web, hslash, Bool.false_or, Bool.or_eq_false_iff, beq_eq_false_iff_ne,
    beq_eq_false_iff_ne]
  constructor <;> rintro rfl <;> cases hescaped

theorem isSettled_of_mem_addSegments {pieces : List Text}
    (h : ∀ piece ∈ pieces, ∀ c ∈ piece, isAnySlash c = false) {start : List Text}
    (hstart : ∀ segment ∈ start, IsSettled segment) :
    ∀ segment ∈ addSegments start pieces, IsSettled segment :=
  forall_mem_addSegments isSettled_nil hstart fun piece hpiece hdot hdots =>
    isSettled_encode hdot hdots (h piece hpiece)

theorem Ended.behind (h : Ended back) (segments : List Text) :
    Ended (Path.ofSegments segments ++ back) := by
  cases segments with
  | nil => exact h
  | cons segment segments => exact Text.stops_cons rfl _

/-- A written path starts with that of a directory if its segments do and go on. -/
theorem isPrefix_ofSegments_iff {start segments : List Text}
    (hstart : ∀ segment ∈ start, IsSettled segment)
    (hsegments : ∀ segment ∈ segments, IsSettled segment) (hended : Ended back)
    (hslash : back.head? ≠ some '/') :
    Path.ofSegments start ++ ['/'] <+: Path.ofSegments segments ++ back ↔
      ∃ more, more ≠ [] ∧ segments = start ++ more := by
  induction start generalizing segments with
  | nil =>
    cases segments with
    | nil =>
      refine iff_of_false (fun hprefix => hslash ?_) (by simp)
      obtain ⟨rest, hrest⟩ := hprefix
      change '/' :: rest = back at hrest
      rw [← hrest]
      rfl
    | cons segment segments =>
      refine iff_of_true ?_ ⟨segment :: segments, by simp, rfl⟩
      exact List.cons_prefix_cons.2 ⟨rfl, List.nil_prefix⟩
  | cons first start ih =>
    rw [List.forall_mem_cons] at hstart
    cases segments with
    | nil =>
      refine iff_of_false (fun hprefix => hslash ?_) (by simp)
      obtain ⟨rest, hrest⟩ := hprefix
      have hhead := congrArg List.head? hrest
      rw [Path.ofSegments_cons] at hhead
      exact hhead.symm
    | cons segment segments =>
      rw [List.forall_mem_cons] at hsegments
      have hfront : Ended (Path.ofSegments start ++ ['/']) := Ended.behind (Text.stops_cons rfl _) start
      rw [Path.ofSegments_cons, Path.ofSegments_cons, List.cons_append, List.cons_append,
        List.cons_prefix_cons, List.append_assoc, List.append_assoc,
        append_isPrefix_append_iff hstart.1.within hsegments.1.within (by simp) hfront
          (hended.behind _)]
      refine (and_congr_right' (and_congr_right' (ih hstart.2 hsegments.2))).trans ?_
      constructor
      · rintro ⟨-, rfl, more, hmore, rfl⟩
        exact ⟨more, hmore, rfl⟩
      · rintro ⟨more, hmore, hsame⟩
        cases hsame
        exact ⟨rfl, rfl, more, hmore, rfl⟩

end Prefix

section Render

variable {root : Url}

/-- What is written behind the path of an address. -/
def behindPath (url : Url) : Text := asked url.query ++ (url.fragment.map ('#' :: ·)).getD []

theorem render_of_rooted {url : Url} {authority : Authority} {segments : List Text}
    (hauthority : url.authority = some authority) (hpath : url.path = .rooted segments) :
    url.render =
      lead url.scheme authority.render ++ (Path.ofSegments segments ++ behindPath url) := by
  rw [render, renderWithoutFragment, renderAuthority, pathText, hauthority, hpath]
  simp [UrlPath.render, lead, behindPath, asked]

theorem ended_behindPath (url : Url) :
    Ended (behindPath url) ∧ (behindPath url).head? ≠ some '/' := by
  rw [behindPath]
  cases url.query with
  | some query => exact ⟨Text.stops_cons rfl _, by simp [asked]⟩
  | none =>
    cases url.fragment with
    | some fragment => exact ⟨Text.stops_cons rfl _, by simp [asked]⟩
    | none => exact ⟨Text.stops_nil _, by simp [asked]⟩

/-- The segments that a text in a directory is read as. -/
def piecesOf (text : Text) : List Text := (cutPath .web text).1

theorem piecesOf_ne_nil (text : Text) : piecesOf text ≠ [] := Text.split_ne_nil _ _

theorem isAnySlash_of_mem_piecesOf {text piece : Text} (h : piece ∈ piecesOf text) :
    ∀ c ∈ piece, isAnySlash c = false :=
  isAnySlash_of_mem_split_slashed h

/-- The address of a text in a directory starts with that of the directory exactly if
the segments of the directory are left when all steps are taken. -/
theorem isPrefix_render_iff (h : root.IsDirectory) (text : Text) :
    root.render <+: (parseInDirectory root text).render ↔
      ∃ more, more ≠ [] ∧ addSegments root.directory (piecesOf text) = root.directory ++ more := by
  obtain ⟨authority, hauthority⟩ := Option.isSome_iff_exists.1 h.authority
  have hinside : (parseInDirectory root text).authority = some authority := hauthority
  have hpath : (parseInDirectory root text).path =
      .rooted (addSegments root.directory (piecesOf text)) := by
    simp only [parseInDirectory, parseSegments, h.web]
    rfl
  have hnone : behindPath root = [] := by
    rw [behindPath, h.query, h.fragment]
    rfl
  have hroot : Path.ofSegments (root.directory ++ [[]]) = Path.ofSegments root.directory ++ ['/'] :=
    Path.ofSegments_append _ _
  obtain ⟨hended, hslash⟩ := ended_behindPath (parseInDirectory root text)
  have hpieces : ∀ piece ∈ piecesOf text, ∀ c ∈ piece, isAnySlash c = false :=
    fun piece hpiece => isAnySlash_of_mem_piecesOf hpiece
  have hsettled := isSettled_of_mem_addSegments hpieces h.settled
  rw [render_of_rooted hauthority h.path, render_of_rooted hinside hpath, hnone, List.append_nil,
    hroot]
  exact (List.prefix_append_right_inj _).trans
    (isPrefix_ofSegments_iff h.settled hsettled hended hslash)

/-- A text that never goes up from where it begins stays in the directory. -/
theorem isPrefix_of_staysWithin (h : root.IsDirectory) {text : Text}
    (hstays : staysWithin (piecesOf text)) :
    root.render <+: (parseInDirectory root text).render := by
  obtain ⟨deeper, hwalk⟩ := Option.isSome_iff_exists.1 hstays
  have hdepth : 0 ≤ ([] : List Text).length := Nat.le_refl 0
  obtain ⟨more, hmore, hadd⟩ :=
    exists_more_addSegments (piecesOf_ne_nil text) hdepth hwalk root.directory
  rw [List.append_nil] at hadd
  exact (isPrefix_render_iff h text).2 ⟨more, hmore, hadd⟩

/-- Nothing leads out of the root of a host. -/
theorem isPrefix_of_directory_eq_nil (h : root.IsDirectory) (hroot : root.directory = [])
    (text : Text) : root.render <+: (parseInDirectory root text).render := by
  rw [isPrefix_render_iff h, hroot]
  exact ⟨_, addSegments_ne_nil (piecesOf_ne_nil text) [], rfl⟩

/-- What a text in a directory leads to: an address on the host of the directory, which
is in the directory exactly if the segments of the directory are left when all steps
are taken. -/
structure LeadsTo (root : Url) (text : Text) (url : Url) : Prop where
  scheme : url.scheme = root.scheme
  authority : url.authority = root.authority
  inside_iff : root.render <+: url.render ↔
    ∃ more, more ≠ [] ∧ addSegments root.directory (piecesOf text) = root.directory ++ more
  inside_of_staysWithin : staysWithin (piecesOf text) → root.render <+: url.render
  inside_of_root : root.directory = [] → root.render <+: url.render

theorem IsDirectory.leadsTo (h : root.IsDirectory) (text : Text) :
    LeadsTo root text (parseInDirectory root text) where
  scheme := rfl
  authority := rfl
  inside_iff := isPrefix_render_iff h text
  inside_of_staysWithin := isPrefix_of_staysWithin h
  inside_of_root hroot := isPrefix_of_directory_eq_nil h hroot text

end Render

end RuleGateway.Url
