import RuleGateway.Store.Local
import RuleGateway.Store.Platform

/-!
# Scripted platforms

A platform that plays a script: each address has a list of answers, given one
after the other with the last one repeated, and the clock stands where it was
set. What was sent and what was written is kept, so that a run can be looked at
afterwards. Writes to the cache are waited for, or done by someone who does not
report back, or put off until they are asked for.
-/

namespace RuleGateway

/-- The kinds of cache that a script may have. A cache may refuse to be read or
to be written; a local one forgets what its time is over for. -/
inductive ScriptCache where
  | shared (readable writable : Bool)
  | local
  deriving DecidableEq, Repr

/-- Who does the writes to the cache. -/
inductive Writing where
  | inline
  | detached
  | deferred
  deriving DecidableEq, Repr

/-- The state of a scripted platform. -/
structure Script where
  answers : Table (List Answer) := []
  sent : List Outbound := []
  clock : Nat := 0
  kind : Option ScriptCache := none
  shared : Table Bytes := []
  entries : LocalCache := []
  writes : List CacheWrite := []
  writing : Writing := .inline
  deferred : List CacheWrite := []

namespace Script

/-- The key of the answers for all addresses without answers of their own. -/
def anyAddress : Text := "*"

/-- The key under which the answers for an address are found. -/
def keyOf (script : Script) (url : Text) : Text :=
  if (script.answers.get? url).isSome then url else anyAddress

/-- The answers after the first one was given. -/
def rest : List Answer → List Answer
  | [last] => [last]
  | answers => answers.drop 1

/-- The network of a script. -/
def network : Network Script := fun request script =>
  let script := { script with sent := script.sent ++ [request] }
  let key := script.keyOf request.url
  match script.answers.get? key with
  | some (answer :: answers) =>
    (answer, { script with answers := script.answers.set key (rest (answer :: answers)) })
  | _ =>
    ({ result := .failure (.transport ("no route to ".toList ++ request.url)) }, script)

/-- What the cache holds under a key. -/
def read (key : Text) (script : Script) : Option Bytes × Script :=
  match script.kind with
  | some (.shared readable _) => (if readable then script.shared.get? key else none, script)
  | some .local =>
    let (body, entries) := script.entries.take key Clock.early
    (body, { script with entries })
  | none => (none, script)

/-- The script after a write is carried out, none if that crashes. -/
def perform? (script : Script) (write : CacheWrite) : Option Script :=
  match script.kind with
  | some (.shared _ writable) =>
    some { script with
      writes := script.writes ++ [write],
      shared := if writable then script.shared.set write.key write.body else script.shared }
  | some .local =>
    (script.entries.put? write.key write.body write.ttl Clock.early).map fun entries =>
      { script with entries }
  | none => some script

/-- The script after a write is asked for. -/
def write (write : CacheWrite) (script : Script) : WriteEnd × Script :=
  match script.writing, script.perform? write with
  | .deferred, _ => (.returned, { script with deferred := script.deferred ++ [write] })
  | _, some script => (.returned, script)
  | .detached, none => (.returned, script)
  | .inline, none => (.crashed, script)

/-- The script after all writes that were put off, none if one of them
crashes. -/
def flush? (script : Script) : Option Script :=
  script.deferred.foldlM perform? { script with deferred := [] }

/-- The script without its record of what was sent and written. -/
def forget (script : Script) : Script := { script with sent := [], writes := [] }

/-- The platform of a script. -/
def platform (script : Script) : Platform Script :=
  { now := Script.clock, network,
    cache := script.kind.map fun _ => { read, write } }

end Script

end RuleGateway
