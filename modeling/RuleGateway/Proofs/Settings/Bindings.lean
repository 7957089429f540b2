import RuleGateway.Settings.Bindings

/-!
# Empty values

A variable with an empty value counts as unset, among the explicit bindings and in the
environment, so no look-up sees whether empty values are left out
(`Bindings.LeavesOut.get?_eq`). The same goes for the whole address in the settings, but
not for the parts of one: an empty repository, branch or path is taken as it is where no
variable stands in front of it (`DocumentSource.LeavesOut.resolve_eq_iff`).
-/

namespace RuleGateway

/-- A value and what is there instead of it: the same, or nothing if it is empty. -/
inductive LeftOut : Option Text → Option Text → Prop
  | kept (value : Option Text) : LeftOut value value
  | missing : LeftOut (some []) none

namespace LeftOut

variable {value left : Option Text}

/-- Where empty values do not count, leaving one out makes no difference. -/
theorem bind_nonempty? (h : LeftOut value left) :
    left.bind Text.nonempty? = value.bind Text.nonempty? := by
  cases h <;> rfl

/-- To take a key with an empty value from a table is to leave that value out. -/
theorem of_erase {table : Table Text} {key : Text} (h : table.get? key = some []) (other : Text) :
    LeftOut (table.get? other) ((table.erase key).get? other) := by
  rw [Table.get?_erase]
  split
  · rename_i hkey
    rw [← hkey, h]
    exact .missing
  · exact .kept _

end LeftOut

namespace Bindings

/-- Whether bindings are others without some of their empty values. -/
structure LeavesOut (bindings fewer : Bindings) : Prop where
  explicit : ∀ key, LeftOut (bindings.explicit.get? key) (fewer.explicit.get? key)
  environment : ∀ key, LeftOut (bindings.environment.get? key) (fewer.environment.get? key)

variable {bindings fewer : Bindings}

theorem LeavesOut.get?_eq (h : bindings.LeavesOut fewer) (key : Text) :
    fewer.get? key = bindings.get? key := by
  rw [get?, get?, (h.explicit key).bind_nonempty?, (h.environment key).bind_nonempty?]

theorem LeavesOut.first?_eq (h : bindings.LeavesOut fewer) (keys : List Text) :
    fewer.first? keys = bindings.first? keys := by
  have hget : fewer.get? = bindings.get? := funext h.get?_eq
  rw [first?, first?, hget]

end Bindings

namespace DocumentSource

/-- Whether a source is another without some of its empty values. -/
structure LeavesOut (source fewer : DocumentSource) : Prop where
  url : LeftOut source.url fewer.url
  repo : LeftOut source.repo fewer.repo
  branch : LeftOut source.branch fewer.branch
  path : LeftOut source.path fewer.path

/-- The variables that hold the whole address. -/
def urlKeys : List Text := ["REDIRECTS_CONFIG_URL", "CONFIG_URL"]

/-- The variables that hold the repository. -/
def repoKeys : List Text := ["REDIRECTS_CONFIG_REPO", "CONFIG_REPO"]

/-- The variables that hold the branch. -/
def branchKeys : List Text := ["REDIRECTS_CONFIG_BRANCH", "CONFIG_BRANCH"]

/-- The variables that hold the path in the repository. -/
def pathKeys : List Text := ["REDIRECTS_CONFIG_PATH", "CONFIG_PATH"]

/-- The address that is given as a whole. -/
def whole? (source : DocumentSource) (bindings : Bindings) : Option Text :=
  (bindings.first? urlKeys).or (source.url.bind Text.nonempty?)

/-- A part of the address, from the variables, from the settings or by default. -/
def part (bindings : Bindings) (keys : List Text) (own : Option Text) (default : Text) : Text :=
  ((bindings.first? keys).or own).getD default

variable {bindings fewer : Bindings} {source less : DocumentSource}
variable {keys : List Text} {own left : Option Text} {default : Text}

theorem resolve_of_whole {url : Text} (h : source.whole? bindings = some url) :
    source.resolve bindings = url := by
  rw [whole?, urlKeys] at h
  rw [resolve, h]

/-- Without an address as a whole, there is one made of parts. -/
theorem resolve_of_parts (h : source.whole? bindings = none) :
    source.resolve bindings =
      repositoryUrl (part bindings repoKeys source.repo "IGCyukira/i0c.cc")
        (part bindings branchKeys source.branch "data")
        (part bindings pathKeys source.path "redirects.json") := by
  rw [whole?, urlKeys] at h
  rw [resolve, h]
  rfl

theorem LeavesOut.whole?_eq (hbindings : bindings.LeavesOut fewer) (h : source.LeavesOut less) :
    less.whole? fewer = source.whole? bindings := by
  rw [whole?, whole?, hbindings.first?_eq, h.url.bind_nonempty?]

/-- Whether it does not matter that a part was left out of the settings: a variable stands
in front of it, or it was not. -/
def IsCovered (bindings : Bindings) (keys : List Text) (own left : Option Text) : Prop :=
  (bindings.first? keys).isSome ∨ left = own

theorem IsCovered.part_eq (h : IsCovered bindings keys own left) (default : Text) :
    part bindings keys left default = part bindings keys own default := by
  rcases h with hset | rfl
  · obtain ⟨value, hvalue⟩ := Option.isSome_iff_exists.1 hset
    rw [part, part, hvalue, Option.some_or, Option.some_or]
  · rfl

/-- A part gets longer by being left out, unless that does not matter. -/
theorem length_part_le (bindings : Bindings) (keys : List Text) (h : LeftOut own left)
    (hdefault : default ≠ []) :
    (part bindings keys own default).length ≤ (part bindings keys left default).length ∧
      ((part bindings keys left default).length ≤ (part bindings keys own default).length →
        IsCovered bindings keys own left) := by
  cases hset : bindings.first? keys with
  | some value =>
    have hcovered : IsCovered bindings keys own left := .inl (Option.isSome_of_eq_some hset)
    rw [hcovered.part_eq]
    exact ⟨Nat.le_refl _, fun _ => hcovered⟩
  | none =>
    cases h with
    | kept => exact ⟨Nat.le_refl _, fun _ => .inr rfl⟩
    | missing =>
      rw [part, part, hset]
      refine ⟨Nat.zero_le _, fun hle => ?_⟩
      exact absurd (List.eq_nil_of_length_eq_zero (Nat.le_zero.1 hle)) hdefault

theorem length_eq_of_repositoryUrl_eq {repo branch path repo' branch' path' : Text}
    (h : repositoryUrl repo branch path = repositoryUrl repo' branch' path') :
    repo.length + branch.length + path.length =
      repo'.length + branch'.length + path'.length := by
  unfold repositoryUrl at h
  generalize "https://raw.githubusercontent.com/".toList = site at h
  have hlength := congrArg List.length h
  simp only [List.length_append, List.length_cons] at hlength
  omega

/-- Empty values may be left out of the bindings, the environment and the settings without
a change to the address, if it is given as a whole or the parts left out of the settings
are covered by variables, and in no other case. -/
theorem LeavesOut.resolve_eq_iff (hbindings : bindings.LeavesOut fewer)
    (h : source.LeavesOut less) :
    less.resolve fewer = source.resolve bindings ↔
      (source.whole? bindings).isSome ∨
        IsCovered bindings repoKeys source.repo less.repo ∧
        IsCovered bindings branchKeys source.branch less.branch ∧
        IsCovered bindings pathKeys source.path less.path := by
  have hwhole := LeavesOut.whole?_eq hbindings h
  cases hurl : source.whole? bindings with
  | some url => simp [resolve_of_whole hurl, resolve_of_whole (hwhole.trans hurl)]
  | none =>
    have hparts (keys : List Text) (own : Option Text) (default : Text) :
        part fewer keys own default = part bindings keys own default := by
      rw [part, part, hbindings.first?_eq]
    rw [resolve_of_parts hurl, resolve_of_parts (hwhole.trans hurl), hparts, hparts, hparts]
    constructor
    · intro heq
      -- a part that is replaced makes the address longer, so none was
      have hlength := length_eq_of_repositoryUrl_eq heq
      obtain ⟨hrepo, hrepo'⟩ := length_part_le bindings repoKeys h.repo
        (by decide : ("IGCyukira/i0c.cc" : Text) ≠ [])
      obtain ⟨hbranch, hbranch'⟩ := length_part_le bindings branchKeys h.branch
        (by decide : ("data" : Text) ≠ [])
      obtain ⟨hpath, hpath'⟩ := length_part_le bindings pathKeys h.path
        (by decide : ("redirects.json" : Text) ≠ [])
      exact .inr ⟨hrepo' (by omega), hbranch' (by omega), hpath' (by omega)⟩
    · rintro (hsome | ⟨hrepo, hbranch, hpath⟩)
      · cases hsome
      · rw [hrepo.part_eq, hbranch.part_eq, hpath.part_eq]

/-- Settings with two empty values. -/
def sparseSource : DocumentSource := { url := some [], repo := some [], branch := some "main" }

/-- Bindings with empty values, and with a variable in front of the empty repository. -/
def sparseBindings : Bindings :=
  { explicit := [("CONFIG_URL", []), ("CONFIG_REPO", "acme/links")]
    environment := [("REDIRECTS_CONFIG_PATH", [])] }

/-- The bindings without their empty values. -/
def thinnedBindings : Bindings :=
  { explicit := sparseBindings.explicit.erase "CONFIG_URL"
    environment := sparseBindings.environment.erase "REDIRECTS_CONFIG_PATH" }

/-- A variable stands in front of the empty repository, so all empty values may go. -/
theorem sparseSource_resolve :
    sparseBindings.LeavesOut thinnedBindings ∧
      sparseSource.LeavesOut { branch := some "main" } ∧
      DocumentSource.resolve { branch := some "main" } thinnedBindings =
        sparseSource.resolve sparseBindings := by
  have hurl : sparseBindings.explicit.get? "CONFIG_URL" = some [] := by decide
  have hpath : sparseBindings.environment.get? "REDIRECTS_CONFIG_PATH" = some [] := by decide
  have hbindings : sparseBindings.LeavesOut thinnedBindings := ⟨.of_erase hurl, .of_erase hpath⟩
  have hsource : sparseSource.LeavesOut { branch := some "main" } :=
    ⟨.missing, .missing, .kept _, .kept _⟩
  have hcovered : IsCovered sparseBindings repoKeys sparseSource.repo none := .inl (by decide)
  exact ⟨hbindings, hsource, (LeavesOut.resolve_eq_iff hbindings hsource).2
    (.inr ⟨hcovered, .inr rfl, .inr rfl⟩)⟩

/-- An empty repository in the settings counts, and its default is not taken. -/
theorem emptyRepo_counts :
    ¬ ∀ (bindings fewer : Bindings) (source less : DocumentSource),
      bindings.LeavesOut fewer → source.LeavesOut less →
        less.resolve fewer = source.resolve bindings := by
  intro h
  have hequal := h {} {} { repo := some [] } {} ⟨fun _ => .kept _, fun _ => .kept _⟩
    ⟨.kept _, .missing, .kept _, .kept _⟩
  revert hequal
  decide

end DocumentSource

end RuleGateway
