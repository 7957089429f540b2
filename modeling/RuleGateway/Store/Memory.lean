import RuleGateway.Table

/-!
# Copies in memory

The gateway keeps a copy of each rule document that it obtained. A copy is fresh
until its time is over and is kept after that, because an old document is better
than none. Copies are replaced and never removed.
-/

namespace RuleGateway

/-- A copy of a document and the instant at which it stops being fresh, in
milliseconds. -/
structure Copy where
  text : Text
  expiresAt : Nat
  deriving DecidableEq, Repr

/-- Whether a copy is fresh at an instant. -/
def Copy.isFresh (copy : Copy) (now : Nat) : Bool := now < copy.expiresAt

/-- The copies by the address of their document. -/
abbrev Memory := Table Copy

namespace Memory

/-- The copy of a document if it is fresh. -/
def fresh? (memory : Memory) (url : Text) (now : Nat) : Option Copy :=
  (memory.get? url).filter (·.isFresh now)

end Memory

end RuleGateway
