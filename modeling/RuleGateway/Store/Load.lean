import RuleGateway.Metric
import RuleGateway.Rule.Slots
import RuleGateway.Store.Memory
import RuleGateway.Store.Platform

/-!
# Loading the rule document

A document is taken from the first place that has it: a fresh copy in memory,
the cache of the platform, the network, and in the end a copy that is no longer
fresh. Each place is a function of its own on the copies in memory, since a load
may wait between them while other loads go on; `Loader.load` is the load that
nothing else runs beside.
-/

namespace RuleGateway

/-- How long copies stay fresh and how long a fetch may take. -/
structure Loader where
  ttl : Duration
  fetchTimeout : Duration := .ofSecs 30
  deriving DecidableEq, Repr

/-- What came of a load: a document and its source, nothing, or a crash of the
network's client or of the platform's cache. -/
inductive Loaded where
  | served (document : RuleDocument) (source : Provenance)
  | unavailable
  | crashed

namespace Loader

/-- One past the last instant of the clock. -/
def clockEnd : Nat := Nat.pow 2 64

/-- When a copy obtained at an instant stops being fresh. The clock and the time
are words of 64 bits, and the sum stays at the last instant. -/
def expiry (loader : Loader) (now : Nat) : Nat :=
  min (now + loader.ttl.millis % clockEnd) (clockEnd - 1)

/-- The document that a text is, if it is one. -/
def document? (text : Text) : Option RuleDocument := (RuleDocument.parse text).toOption

/-- The copies with one obtained at an instant. -/
def keep (loader : Loader) (memory : Memory) (url : Text) (now : Nat) (text : Text) : Memory :=
  memory.set url { text, expiresAt := loader.expiry now }

/-- The document of a fresh copy. -/
def fromMemory? (memory : Memory) (url : Text) (now : Nat) : Option RuleDocument :=
  (memory.fresh? url now).bind fun copy => document? copy.text

/-- The document in a body of the platform's cache, and the copies after that. -/
def fromCache? (loader : Loader) (memory : Memory) (url : Text) (now : Nat) (body : Bytes) :
    Option (RuleDocument × Memory) :=
  let text := Utf8.decodeLossy body
  (document? text).map (·, loader.keep memory url now text)

/-- The text of a reply that came in time and reports success. -/
def replyText? (loader : Loader) (answer : Answer) : Option Text :=
  if loader.fetchTimeout.millis < answer.delay then none
  else
    match answer.result with
    | .reply reply =>
      if 200 ≤ reply.status ∧ reply.status < 300 then some (Utf8.decodeLossy reply.body) else none
    | _ => none

/-- The document in an answer of the network, the copies after that, and the
write for the platform's cache. -/
def fromAnswer? (loader : Loader) (memory : Memory) (url : Text) (now : Nat) (answer : Answer) :
    Option (RuleDocument × Memory × CacheWrite) := do
  let text ← loader.replyText? answer
  let document ← document? text
  pure (document, loader.keep memory url now text,
    { key := url, body := Utf8.encode text, ttl := loader.ttl })

/-- The document of a copy that may not be fresh. -/
def fromStale? (memory : Memory) (url : Text) : Option RuleDocument :=
  (memory.get? url).bind fun copy => document? copy.text

/-- Whether an answer is a crash before the time for it is over. -/
def isCrash (loader : Loader) (answer : Answer) : Bool :=
  answer.result == .crash && !(loader.fetchTimeout.millis < answer.delay)

variable {σ : Type}

/-- The load from the network on. -/
def fetch (loader : Loader) (platform : Platform σ) (url : Text) (now : Nat) (memory : Memory)
    (state : σ) : Loaded × Memory × σ :=
  let (answer, state) := platform.network (.get url) state
  if loader.isCrash answer then (.crashed, memory, state)
  else
    match loader.fromAnswer? memory url now answer with
    | some (document, memory, write) =>
      let (ending, state) :=
        match platform.cache with
        | some cache => cache.write write state
        | none => (.returned, state)
      match ending with
      | .returned => (.served document .network, memory, state)
      | .crashed => (.crashed, memory, state)
    | none =>
      match fromStale? memory url with
      | some document => (.served document .stale, memory, state)
      | none => (.unavailable, memory, state)

/-- The load from the platform's cache on. -/
def loadPastMemory (loader : Loader) (platform : Platform σ) (url : Text) (now : Nat)
    (memory : Memory) (state : σ) : Loaded × Memory × σ :=
  match platform.cache with
  | none => loader.fetch platform url now memory state
  | some cache =>
    let (body, state) := cache.read url state
    match body.bind (loader.fromCache? memory url now) with
    | some (document, memory) => (.served document .cache, memory, state)
    | none => loader.fetch platform url now memory state

/-- A load. -/
def load (loader : Loader) (platform : Platform σ) (url : Text) (memory : Memory) (state : σ) :
    Loaded × Memory × σ :=
  let now := platform.now state
  match fromMemory? memory url now with
  | some document => (.served document .memory, memory, state)
  | none => loader.loadPastMemory platform url now memory state

end Loader

/-- What is recorded for a load. A load that crashed is not. -/
def Loaded.measurements : Loaded → List Measurement
  | served _ source => [.documentLoad (some source)]
  | unavailable => [.documentLoad none]
  | crashed => []

end RuleGateway
