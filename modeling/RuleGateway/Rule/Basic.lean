import RuleGateway.Json.Reader

/-!
# Rules

A rule says where requests at its base path go. It is declared as a bare target
or as an object with optional fields, and every declared shape is read into one
record. Reading is lenient: a field that cannot be read has its default, and a
rule without a target is kept but answers nothing.
-/

namespace RuleGateway

/-- How a rule applies: to its base path and all below it, to its base path
alone, or as a proxy. -/
inductive RuleKind where
  | subtree
  | exact
  | proxy
  deriving DecidableEq, Repr

/-- The word for a kind of rule. -/
def RuleKind.name : RuleKind → Text
  | subtree => "prefix"
  | exact => "exact"
  | proxy => "proxy"

/-- The kind that a declared value names; anything unknown is a subtree rule. -/
def RuleKind.ofValue (value : Option Json.Value) : RuleKind :=
  match value.bind Json.Value.text? with
  | none => .subtree
  | some word =>
    if word = "exact".toList then .exact
    else if word = "proxy".toList then .proxy
    else .subtree

/-- A rule as it was declared. -/
inductive Declared where
  | target (text : Text)
  | fields (members : Json.Members)

/-- A rule. Among rules of one base path the lower priority comes first. -/
structure Rule where
  kind : RuleKind
  target : Text
  appendPath : Bool
  status : Nat
  priority : Binary64
  deriving DecidableEq, Repr

namespace Rule

/-- The status of a redirect whose rule names none. -/
def defaultStatus : Nat := 302

/-- A position as a priority. Positions are counted in signed words of 64 bits. -/
def priorityOf (position : Nat) : Binary64 :=
  Binary64.ofInt (Int.bmod position (Nat.pow 2 64))

/-- The rule of a bare target, at its place among the rules of its base path. -/
def ofTarget (target : Text) (position : Nat) : Rule :=
  { kind := .subtree, target, appendPath := true, status := defaultStatus,
    priority := priorityOf position }

/-- The finite number that a value stands for: a number, a text that writes
one between blanks, or a truth value as one or zero. -/
def number? : Json.Value → Option Binary64
  | .number n => if n.toBinary64.isFinite then some n.toBinary64 else none
  | .text text => Decimal.parse? (Text.trim text)
  | .bool b => some { negative := false, magnitude := Binary64.ofNat (if b then 1 else 0) }
  | _ => none

/-- Whether a value counts as true: not null, false, zero or the empty text. -/
def isTruthy : Json.Value → Bool
  | .null => false
  | .bool b => b
  | .number n => n.toBinary64.magnitude ≠ 0
  | .text text => !text.isEmpty
  | .list _ | .object _ => true

/-- A number as a status, if it is a whole one from 100 to 599. -/
def status? (x : Binary64) : Option Nat := do
  let n ← x.toNat?
  if 100 ≤ n ∧ n ≤ 599 then some n else none

/-- The keys that may hold the target, the first that is not null deciding. -/
def targetKeys : List Text := ["target", "to", "url"]

/-- The target of a declared object; empty when there is none or it is no text. -/
def targetOf (members : Json.Members) : Text :=
  let found := targetKeys.findSome? fun key =>
    match members.get? key with
    | some .null => none
    | other => other
  (found.bind Json.Value.text?).getD []

/-- The rule of a declared object. -/
def ofMembers (members : Json.Members) (position : Nat) : Rule :=
  { kind := .ofValue (members.get? "type")
    target := targetOf members
    appendPath := ((members.get? "appendPath").map isTruthy).getD true
    status := (((members.get? "status").bind number?).bind status?).getD defaultStatus
    priority := ((members.get? "priority").bind number?).getD (priorityOf position) }

/-- The rule of a declaration, at its place among the rules of its base path
counted from one. -/
def ofDeclared (declared : Declared) (position : Nat) : Rule :=
  match declared with
  | .target text => ofTarget text position
  | .fields members => ofMembers members position

/-- Whether the rule has no target and so answers nothing. -/
def isInert (rule : Rule) : Bool := rule.target.isEmpty

end Rule

end RuleGateway
