import RuleGateway.Duration

/-!
# The steady clock

The entries of a cache in the process are measured on a steady clock that counts
from the start of the machine and has a last instant. Some durations reach past
it, and what is to be kept for such a time cannot be kept at all.
-/

namespace RuleGateway.Clock

/-- The instant at which the clock is read where nothing depends on it but that
it is early: a day after the start of the machine, in milliseconds. -/
def early : Nat := 86400000

/-- One past the last instant: the seconds are counted in 63 bits. -/
def limit : Nat := Nat.pow 2 63 * 1000

/-- The instant some time after another, if the clock can tell it. -/
def after? (now : Nat) (time : Duration) : Option Nat :=
  if now + time.millis < limit then some (now + time.millis) else none

end RuleGateway.Clock
