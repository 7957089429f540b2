import RuleGateway.Proofs.Table
import RuleGateway.Rule.Basic

/-!
# Members that are null

A rule is read from the members that an object states: one that is null is read as if it
were left out. The exception is whether the rest of the path is appended, which is read for
its truth, and null is not true. `ofDeclared_nulled` says so of any members at once.
-/

namespace RuleGateway

namespace Json.Members

variable {members : Members} {keys : List Text} {key : Text}

/-- The members with those of the given keys set to null. -/
def nulled (keys : List Text) (members : Members) : Members :=
  keys.foldl (fun members key => Table.set members key .null) members

/-- The members without those of the given keys. -/
def without (keys : List Text) (members : Members) : Members := keys.foldl Table.erase members

/-- What the members state for a key: the value unless it is null. -/
def stated? (members : Members) (key : Text) : Option Value :=
  match Table.get? members key with
  | some .null => none
  | other => other

theorem get?_nulled (keys : List Text) (members : Members) (key : Text) :
    Table.get? (nulled keys members) key =
      if key ∈ keys then some .null else Table.get? members key :=
  Table.get?_foldl (fun members key other => Table.get?_set members key other .null) keys members key

theorem get?_without (keys : List Text) (members : Members) (key : Text) :
    Table.get? (without keys members) key =
      if key ∈ keys then none else Table.get? members key :=
  Table.get?_foldl Table.get?_erase keys members key

/-- A member that is null states as little as one that is left out. -/
theorem stated?_nulled (keys : List Text) (members : Members) :
    stated? (nulled keys members) = stated? (without keys members) := by
  funext key
  rw [stated?, stated?, get?_nulled, get?_without]
  by_cases hkey : key ∈ keys
  · rw [if_pos hkey, if_pos hkey]
  · rw [if_neg hkey, if_neg hkey]

/-- A reader to which null gives nothing sees what is stated. -/
theorem bind_stated? {α : Type} {read : Value → Option α} (hnull : read .null = none)
    (members : Members) (key : Text) :
    (Table.get? members key).bind read = (stated? members key).bind read := by
  rw [stated?]
  split
  · rename_i hvalue
    rw [hvalue, Option.bind_some, hnull, Option.bind_none]
  · rfl

end Json.Members

namespace Rule

open Json.Members

/-- The key of whether the rest of the path is appended. -/
def appendKey : Text := "appendPath"

/-- Whether the rest of the path is appended, as an object says. -/
def appendsPath (members : Json.Members) : Bool :=
  ((members.get? appendKey).map isTruthy).getD true

/-- Two objects that state the same are read as one rule, but for the appended path. -/
theorem ofMembers_eq_of_stated? {members others : Json.Members}
    (h : stated? members = stated? others) (position : Nat) :
    ofMembers members position =
      { ofMembers others position with appendPath := appendsPath members } := by
  have hread {α : Type} (read : Json.Value → Option α) (hnull : read .null = none) (key : Text) :
      (members.get? key).bind read = (others.get? key).bind read := by
    rw [bind_stated? hnull, bind_stated? hnull, h]
  have hkind : RuleKind.ofValue (members.get? "type") = RuleKind.ofValue (others.get? "type") := by
    rw [RuleKind.ofValue, RuleKind.ofValue, hread Json.Value.text? rfl]
  have htarget : targetOf members = targetOf others := by
    change ((targetKeys.findSome? (stated? members)).bind Json.Value.text?).getD [] =
      ((targetKeys.findSome? (stated? others)).bind Json.Value.text?).getD []
    rw [h]
  rw [ofMembers, ofMembers, hkind, htarget, hread number? rfl,
    hread number? rfl]
  rfl

theorem appendsPath_nulled (keys : List Text) (members : Json.Members) :
    appendsPath (nulled keys members) =
      if appendKey ∈ keys then false else appendsPath members := by
  rw [appendsPath, get?_nulled]
  split <;> rfl

theorem appendsPath_without (keys : List Text) (members : Json.Members) :
    appendsPath (without keys members) =
      if appendKey ∈ keys then true else appendsPath members := by
  rw [appendsPath, get?_without]
  split <;> rfl

/-- Members that are set to null give the rule that they give when they are left out, unless
it is said in them whether the path is appended. Then only that differs: the path is appended
where nothing is said of it and not where null is. -/
theorem ofDeclared_nulled (keys : List Text) (members : Json.Members) (position : Nat) :
    (ofDeclared (.fields (nulled keys members)) position =
        ofDeclared (.fields (without keys members)) position ↔ appendKey ∉ keys) ∧
    ofDeclared (.fields (nulled keys members)) position =
      { ofDeclared (.fields (without keys members)) position with
        appendPath := if appendKey ∈ keys then false else appendsPath members } ∧
    (ofDeclared (.fields (without keys members)) position).appendPath =
      if appendKey ∈ keys then true else appendsPath members := by
  have hnulled := ofMembers_eq_of_stated? (stated?_nulled keys members) position
  rw [appendsPath_nulled] at hnulled
  have hwithout : (ofMembers (without keys members) position).appendPath =
      if appendKey ∈ keys then true else appendsPath members := appendsPath_without keys members
  refine ⟨?_, hnulled, hwithout⟩
  change ofMembers (nulled keys members) position = ofMembers (without keys members) position ↔ _
  constructor
  · intro hsame hkey
    have happend := congrArg Rule.appendPath hsame
    rw [hwithout, hnulled, if_pos hkey] at happend
    simp [if_pos hkey] at happend
  · intro hkey
    rw [hnulled]
    rw [if_neg hkey] at hwithout ⊢
    rw [← hwithout]

/-- A rule that leaves open whether the path is appended. -/
def movedMembers : Json.Members := [("to", .text "https://new.example")]

/-- A page below the base path is redirected with its path by a rule that leaves that open,
and without it by one where it is null. -/
theorem movedMembers_nulled :
    (ofDeclared (.fields (without [appendKey] movedMembers)) 1).appendPath = true ∧
      (ofDeclared (.fields (nulled [appendKey] movedMembers)) 1).appendPath = false ∧
      ofDeclared (.fields (nulled [appendKey] movedMembers)) 1 ≠
        ofDeclared (.fields (without [appendKey] movedMembers)) 1 := by
  have hopen : (ofDeclared (.fields (without [appendKey] movedMembers)) 1).appendPath = true := by
    decide
  have hnull : (ofDeclared (.fields (nulled [appendKey] movedMembers)) 1).appendPath = false := by
    decide
  refine ⟨hopen, hnull, fun hsame => ?_⟩
  rw [hsame, hopen] at hnull
  cases hnull

end Rule

end RuleGateway
