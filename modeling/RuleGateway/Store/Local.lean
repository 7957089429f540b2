import RuleGateway.Clock
import RuleGateway.Table

/-!
# A cache in the process

Bodies under keys, each for a limited time. An entry whose time is over is never
given out. It is dropped when it is asked for or when the cache is cleaned up,
and neither can drop an entry that is alive.
-/

namespace RuleGateway

/-- A body and the instant at which its time is over. -/
structure LocalEntry where
  body : Bytes
  expiresAt : Nat
  deriving DecidableEq, Repr

/-- Whether the entry may be given out at an instant. -/
def LocalEntry.isAlive (entry : LocalEntry) (now : Nat) : Bool := now < entry.expiresAt

/-- The entries by key. -/
abbrev LocalCache := Table LocalEntry

namespace LocalCache

/-- The cache with a body stored for some time, none if that reaches past the
end of the clock. -/
def put? (cache : LocalCache) (key : Text) (body : Bytes) (ttl : Duration) (now : Nat) :
    Option LocalCache :=
  (Clock.after? now ttl).map fun expiresAt => cache.set key { body, expiresAt }

/-- The body under a key whose time is not over. -/
def alive? (cache : LocalCache) (key : Text) (now : Nat) : Option Bytes :=
  ((cache.get? key).filter (·.isAlive now)).map (·.body)

/-- The cache without the entry of a key, unless that is alive. -/
def evict (cache : LocalCache) (key : Text) (now : Nat) : LocalCache :=
  cache.filter fun (k, entry) => k != key || entry.isAlive now

/-- The body under a key, and the cache after the look-up. -/
def take (cache : LocalCache) (key : Text) (now : Nat) : Option Bytes × LocalCache :=
  (cache.alive? key now, cache.evict key now)

/-- The cache without the entries whose time is over. -/
def cleanup (cache : LocalCache) (now : Nat) : LocalCache :=
  cache.filter fun (_, entry) => entry.isAlive now

end LocalCache

end RuleGateway
