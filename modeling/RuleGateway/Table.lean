import RuleGateway.Text.Basic

/-!
# Tables

A table holds one value for each of its keys, in the order in which the keys
first appeared. Setting a key that is there replaces its value in place. The
two laws `get?_set` and `get?_erase` say what a look-up sees afterwards.
-/

namespace RuleGateway

/-- Keys with their values, each key once, in order of first appearance. -/
abbrev Table (α : Type) := List (Text × α)

namespace Table

variable {α : Type}

/-- The value of a key. -/
def get? : Table α → Text → Option α
  | [], _ => none
  | (k, value) :: rest, key => if k = key then some value else get? rest key

/-- The table with the key set. -/
def set : Table α → Text → α → Table α
  | [], key, value => [(key, value)]
  | (k, old) :: rest, key, value =>
    if k = key then (k, value) :: rest else (k, old) :: set rest key value

/-- The table without the key. -/
def erase (table : Table α) (key : Text) : Table α := table.filter (·.1 != key)

@[simp] theorem get?_set (table : Table α) (key other : Text) (value : α) :
    get? (set table key value) other = if key = other then some value else get? table other := by
  induction table with
  | nil => simp [set, get?]
  | cons entry rest ih =>
    obtain ⟨k, old⟩ := entry
    by_cases hk : k = key
    · subst hk
      by_cases ho : k = other <;> simp [set, get?, ho]
    · by_cases ho : k = other
      · subst ho
        simp [set, get?, hk, Ne.symm hk]
      · simp [set, get?, hk, ho, ih]

@[simp] theorem get?_erase (table : Table α) (key other : Text) :
    get? (erase table key) other = if key = other then none else get? table other := by
  induction table with
  | nil => simp [erase, get?]
  | cons entry rest ih =>
    obtain ⟨k, old⟩ := entry
    simp only [erase] at ih ⊢
    by_cases hk : k = key
    · subst hk
      by_cases ho : k = other
      · simp [ho] at ih ⊢
        exact ih
      · simpa [get?, ho] using ih
    · by_cases ho : k = other
      · subst ho
        simp [get?, hk, Ne.symm hk]
      · simp [get?, hk, ho, ih]

end Table

end RuleGateway
