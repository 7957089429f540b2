import RuleGateway.Number.Binary64
import RuleGateway.Table

/-!
# JSON values

A value as a document gives it. Objects keep their members in the order of
first appearance, because the order of rules depends on it, and hold each key
once: a later member of the same key replaces the value in place. Whole numbers
within 64 bits stay whole; every other number is a double.
-/

namespace RuleGateway.Json

/-- A number as it was written: whole, or a double. -/
inductive Number where
  | whole (value : Int)
  | real (value : Binary64)
  deriving DecidableEq, Repr

/-- The number as the nearest double. -/
def Number.toBinary64 : Number → Binary64
  | whole value => Binary64.ofInt value
  | real value => value

/-- A JSON value. -/
inductive Value where
  | null
  | bool (value : Bool)
  | number (value : Number)
  | text (value : Text)
  | list (items : List Value)
  | object (members : List (Text × Value))
  deriving Repr

/-- The members of an object in order, each key once. -/
abbrev Members := Table Value

/-- The members of an object. -/
def Value.members? : Value → Option Members
  | object members => some members
  | _ => none

/-- The characters of a text value. -/
def Value.text? : Value → Option Text
  | text value => some value
  | _ => none

end RuleGateway.Json
