import RuleGateway.Duration
import RuleGateway.Backend.Network

/-!
# The platform

What the gateway runs on: a clock, a network, and perhaps a cache that outlives
the process. A platform is given as functions on its own state, so all that may
happen on it is covered: a cache that fails reads as one that holds nothing, a
write may take effect at once, later or never, and it may crash what waits for
it.
-/

namespace RuleGateway

/-- A body to be kept under a key for some time. -/
structure CacheWrite where
  key : Text
  body : Bytes
  ttl : Duration
  deriving DecidableEq, Repr

/-- How a write ends for what waits for it. -/
inductive WriteEnd where
  | returned
  | crashed
  deriving DecidableEq, Repr

/-- A cache of the platform: what it holds under a key, and how it takes a
write. -/
structure PlatformCache (σ : Type) where
  read : Text → σ → Option Bytes × σ
  write : CacheWrite → σ → WriteEnd × σ

/-- A platform with its state. -/
structure Platform (σ : Type) where
  now : σ → Nat
  network : Network σ
  cache : Option (PlatformCache σ) := none

end RuleGateway
