import Mathlib.Logic.Function.Basic
import RuleGateway.Proofs.Store.Effects

/-!
# Loads side by side

A load waits twice, for the cache of the platform and for the network, and other
loads go on in between: in the same process, which shares the copies in memory, or
in other processes, which share the platform's cache. `opening`, `afterRead` and
`afterAnswer` are a load cut at its waits, and `load_eq_stages` says that they are
the load when nothing comes in between. A `Cluster` carries out such steps in any
order. `Moves` lists what one step can do, and everything about runs is derived
from that list.
-/

namespace RuleGateway

/-- Where a load stands: it waits for the platform's cache or for the network, or it
is over. -/
inductive Stage where
  | reading
  | fetching
  | ended (loaded : Loaded)

namespace Loader

/-- Where a load stands after its look at the clock and into memory. -/
def opening (memory : Memory) (url : Text) (now : Nat) : Stage :=
  match fromMemory? memory url now with
  | some document => .ended (.served document .memory)
  | none => .reading

/-- Where a load stands when the platform's cache has answered, and the copies then. -/
def afterRead (loader : Loader) (memory : Memory) (url : Text) (now : Nat)
    (body : Option Bytes) : Stage × Memory :=
  match body.bind (loader.fromCache? memory url now) with
  | some (document, kept) => (.ended (.served document .cache), kept)
  | none => (.fetching, memory)

/-- What comes of a load when the network has answered, the copies then, and the
write that is left to do. -/
def afterAnswer (loader : Loader) (memory : Memory) (url : Text) (now : Nat) (answer : Answer) :
    Loaded × Memory × Option CacheWrite :=
  if loader.isCrash answer then (.crashed, memory, none)
  else
    match loader.fromAnswer? memory url now answer with
    | some (document, kept, write) => (.served document .network, kept, some write)
    | none =>
      match fromStale? memory url with
      | some document => (.served document .stale, memory, none)
      | none => (.unavailable, memory, none)

section Stages

variable {σ : Type} (loader : Loader) (platform : Platform σ) (url : Text) (now : Nat)
variable (memory : Memory) (state : σ)

/-- The load from the network on is the answer and then the write. -/
theorem fetch_eq_stages :
    loader.fetch platform url now memory state =
      let (answer, reached) := platform.network (.get url) state
      match loader.afterAnswer memory url now answer with
      | (loaded, kept, none) => (loaded, kept, reached)
      | (loaded, kept, some write) =>
        let (ending, last) := writeCache platform write reached
        match ending with
        | .returned => (loaded, kept, last)
        | .crashed => (.crashed, kept, last) := by
  obtain ⟨answer, reached, hanswer⟩ :
      ∃ answer reached, platform.network (.get url) state = (answer, reached) := ⟨_, _, rfl⟩
  simp only [fetch, afterAnswer, hanswer]
  by_cases hcrash : loader.isCrash answer
  · simp only [if_pos hcrash]
  · simp only [if_neg hcrash]
    cases loader.fromAnswer? memory url now answer with
    | none => cases fromStale? memory url <;> rfl
    | some found =>
      obtain ⟨document, kept, write⟩ := found
      unfold writeCache
      cases platform.cache with
      | none => rfl
      | some cache =>
        obtain ⟨ending, last, hwrite⟩ : ∃ ending last, cache.write write reached = (ending, last) :=
          ⟨_, _, rfl⟩
        cases ending with
        | returned => simp only [hwrite]
        | crashed => simp only [hwrite]

/-- A load is its stages with nothing in between. -/
theorem load_eq_stages :
    loader.load platform url memory state =
      match opening memory url (platform.now state) with
      | .ended loaded => (loaded, memory, state)
      | _ =>
        let (body, reached) := readCache platform url state
        match loader.afterRead memory url (platform.now state) body with
        | (.ended loaded, kept) => (loaded, kept, reached)
        | (_, kept) => loader.fetch platform url (platform.now state) kept reached := by
  simp only [load, opening]
  cases fromMemory? memory url (platform.now state) with
  | some document => rfl
  | none =>
    unfold readCache loadPastMemory
    cases platform.cache with
    | none => rfl
    | some cache =>
      simp only [afterRead]
      cases (cache.read url state).1.bind (loader.fromCache? memory url (platform.now state)) with
      | none => rfl
      | some found => rfl

variable {url now memory} in
theorem opening_eq_ended {loaded : Loaded} (h : opening memory url now = .ended loaded) :
    ∃ document, loaded = .served document .memory ∧ fromMemory? memory url now = some document := by
  rw [opening] at h
  split at h
  · rename_i document hfresh
    cases h
    exact ⟨document, rfl, hfresh⟩
  · contradiction

/-- A load ends with the answer of the platform's cache if that has a document, which
is kept. -/
theorem afterRead_cases (body : Option Bytes) :
    (∃ bytes document, body = some bytes ∧ document? (Utf8.decodeLossy bytes) = some document ∧
      loader.afterRead memory url now body =
        (.ended (.served document .cache),
          loader.keep memory url now (Utf8.decodeLossy bytes))) ∨
    loader.afterRead memory url now body = (.fetching, memory) := by
  rw [afterRead]
  cases body with
  | none => exact .inr rfl
  | some bytes =>
    rw [Option.bind_some, fromCache?]
    cases hdocument : document? (Utf8.decodeLossy bytes) with
    | none => exact .inr rfl
    | some document => exact .inl ⟨bytes, document, rfl, hdocument, rfl⟩

/-- A load ends with the answer of the network: with the document in it, which is kept
and left to be written, or else with an old copy or with nothing. -/
theorem afterAnswer_cases (answer : Answer) :
    (∃ text document, loader.Obtains answer text document ∧
      loader.afterAnswer memory url now answer =
        (.served document .network, loader.keep memory url now text,
          some (loader.writeOf url text))) ∨
    ∃ loaded, loader.afterAnswer memory url now answer = (loaded, memory, none) ∧
      ∀ document source, loaded = .served document source → source = .stale := by
  rw [afterAnswer]
  by_cases hcrash : loader.isCrash answer
  · rw [if_pos hcrash]
    exact .inr ⟨.crashed, rfl, nofun⟩
  · rw [if_neg hcrash]
    cases htext : loader.answerText? answer with
    | none =>
      rw [fromAnswer?_of_none htext]
      dsimp only
      cases fromStale? memory url with
      | none => exact .inr ⟨.unavailable, rfl, nofun⟩
      | some document => exact .inr ⟨.served document .stale, rfl, fun _ _ h => by cases h; rfl⟩
    | some text =>
      obtain ⟨document, hdocument, hfrom⟩ := fromAnswer?_of_text memory url now htext
      rw [hfrom]
      exact .inl ⟨text, document, obtains_iff.2 ⟨htext, hdocument⟩, rfl⟩

end Stages

end Loader

/-- A load on its way: the process that it runs in, its address, the instant at which
it read the clock, where it stands, and when it came there. It is noted which version
of the document it ended with. -/
structure Flight (ι : Type) where
  process : ι
  url : Text
  begun : Nat
  stage : Stage
  lastStep : Nat
  version : Option Nat

/-- Whether a load has ended. -/
def Flight.hasEnded {ι : Type} (flight : Flight ι) : Bool :=
  match flight.stage with
  | .ended _ => true
  | _ => false

/-- A document that the network gave: the write that brings it into the platform's
cache, when it was fetched, and when the write was carried out. -/
structure Version where
  write : CacheWrite
  fetchedAt : Nat
  writtenAt : Option Nat := none

/-- The instant from which a version ages: that of its fetch or that of its write,
whichever is later. -/
def Version.settledAt (version : Version) : Nat :=
  max version.fetchedAt (version.writtenAt.getD 0)

/-- Processes with a common cache of the platform, in the middle of their loads. The
last two fields are notes that no step reads: which load left each copy in memory, and
which version each entry of the platform's cache is. -/
structure Traffic (ι κ : Type) where
  clock : Nat
  cache : κ
  memories : ι → Memory := fun _ => []
  flights : List (Flight ι) := []
  versions : List Version := []
  keeper : ι → Text → Option Nat := fun _ _ => none
  cached : Text → Option Nat := fun _ => none

/-- What may happen next: time passes, a load begins, a load that waits is answered, a
write that is left is carried out, or the platform's cache is cleaned up. -/
inductive Event (ι : Type) where
  | wait (time : Nat)
  | begin (process : ι) (url : Text)
  | read (flight : Nat)
  | reply (flight : Nat) (answer : Answer)
  | write (version : Nat)
  | cleanup

/-- What processes have in common: how long documents are kept, and the platform's
cache as it is at an instant. -/
structure Cluster (ι κ : Type) where
  ttl : Duration
  fetchTimeout : ι → Duration
  cache : Nat → PlatformCache κ
  cleanup : Nat → κ → κ := fun _ cache => cache

variable {ι κ : Type}

namespace Traffic

/-- The version that the copy of a document in the memory of a process is. -/
def versionOf? (traffic : Traffic ι κ) (process : ι) (url : Text) : Option Nat :=
  (traffic.keeper process url).bind fun n => traffic.flights[n]?.bind (·.version)

/-- The traffic with a load come to another stage. -/
def advance (traffic : Traffic ι κ) (n : Nat) (flight : Flight ι) (stage : Stage)
    (version : Option Nat) : Traffic ι κ :=
  { traffic with
    flights := traffic.flights.set n { flight with stage, lastStep := traffic.clock, version } }

/-- The traffic with a copy that a load leaves in the memory of its process. -/
def keep [DecidableEq ι] (traffic : Traffic ι κ) (n : Nat) (flight : Flight ι)
    (memory : Memory) : Traffic ι κ :=
  { traffic with
    memories := Function.update traffic.memories flight.process memory
    keeper := fun process url =>
      if process = flight.process ∧ url = flight.url then some n else traffic.keeper process url }

end Traffic

namespace Cluster

variable [DecidableEq ι] (cluster : Cluster ι κ) (traffic : Traffic ι κ)

/-- How a process loads. -/
def loader (process : ι) : Loader :=
  { ttl := cluster.ttl, fetchTimeout := cluster.fetchTimeout process }

/-- The beginning of a load. -/
def begin (process : ι) (url : Text) : Traffic ι κ :=
  let stage := Loader.opening (traffic.memories process) url traffic.clock
  { traffic with
    flights := traffic.flights ++
      [{ process, url, begun := traffic.clock, stage, lastStep := traffic.clock,
         version := traffic.versionOf? process url }] }

/-- The write of a version to the platform's cache. -/
def write (v : Nat) (version : Version) : Traffic ι κ :=
  match (cluster.cache traffic.clock).write version.write traffic.cache with
  | (.returned, cache) =>
    { traffic with
      cache
      versions := traffic.versions.set v { version with writtenAt := some traffic.clock }
      cached := Function.update traffic.cached version.write.key (some v) }
  | (.crashed, cache) => { traffic with cache }

/-- The step of a load that the platform's cache answers. -/
def read (n : Nat) (flight : Flight ι) : Traffic ι κ :=
  let (body, cache) := (cluster.cache traffic.clock).read flight.url traffic.cache
  let traffic := { traffic with cache }
  match (cluster.loader flight.process).afterRead (traffic.memories flight.process) flight.url
      flight.begun body with
  | (.ended loaded, memory) =>
    (traffic.keep n flight memory).advance n flight (.ended loaded) (traffic.cached flight.url)
  | (stage, _) => traffic.advance n flight stage flight.version

/-- The step of a load that the network answers. -/
def reply (n : Nat) (flight : Flight ι) (answer : Answer) : Traffic ι κ :=
  match (cluster.loader flight.process).afterAnswer (traffic.memories flight.process) flight.url
      flight.begun answer with
  | (loaded, memory, some write) =>
    { (traffic.keep n flight memory).advance n flight (.ended loaded)
        (some traffic.versions.length) with
      versions := traffic.versions ++ [{ write, fetchedAt := traffic.clock }] }
  | (loaded, _, none) =>
    traffic.advance n flight (.ended loaded) (traffic.versionOf? flight.process flight.url)

/-- What an event does. One for which nothing waits does nothing. -/
def step : Event ι → Traffic ι κ
  | .wait time => { traffic with clock := traffic.clock + time }
  | .begin process url => begin traffic process url
  | .read n =>
    match traffic.flights[n]? with
    | none => traffic
    | some flight =>
      match flight.stage with
      | .reading => cluster.read traffic n flight
      | _ => traffic
  | .reply n answer =>
    match traffic.flights[n]? with
    | none => traffic
    | some flight =>
      match flight.stage with
      | .fetching => cluster.reply traffic n flight answer
      | _ => traffic
  | .write v =>
    match traffic.versions[v]? with
    | none => traffic
    | some version =>
      if version.writtenAt.isNone then cluster.write traffic v version else traffic
  | .cleanup => { traffic with cache := cluster.cleanup traffic.clock traffic.cache }

/-- What a sequence of events does. -/
def run (events : List (Event ι)) : Traffic ι κ := events.foldl cluster.step traffic

/-- What one step can do to the traffic. -/
inductive Moves (cluster : Cluster ι κ) (traffic : Traffic ι κ) : Traffic ι κ → Prop
  | idle : Moves cluster traffic traffic
  | waits (time : Nat) : Moves cluster traffic { traffic with clock := traffic.clock + time }
  | begins (process : ι) (url : Text) : Moves cluster traffic (begin traffic process url)
  | misses {n : Nat} {flight : Flight ι} {body : Option Bytes} {cache : κ}
      (hflight : traffic.flights[n]? = some flight) (hstage : flight.stage = .reading)
      (hread : (cluster.cache traffic.clock).read flight.url traffic.cache = (body, cache)) :
    Moves cluster traffic
      (({ traffic with cache } : Traffic ι κ).advance n flight .fetching flight.version)
  | hits {n : Nat} {flight : Flight ι} {bytes : Bytes} {cache : κ} {document : RuleDocument}
      (hflight : traffic.flights[n]? = some flight) (hstage : flight.stage = .reading)
      (hread : (cluster.cache traffic.clock).read flight.url traffic.cache = (some bytes, cache))
      (hdocument : Loader.document? (Utf8.decodeLossy bytes) = some document) :
    Moves cluster traffic
      ((({ traffic with cache } : Traffic ι κ).keep n flight
        ((cluster.loader flight.process).keep (traffic.memories flight.process) flight.url
          flight.begun (Utf8.decodeLossy bytes))).advance n flight
        (.ended (.served document .cache)) (traffic.cached flight.url))
  | obtains {n : Nat} {flight : Flight ι} {text : Text} {document : RuleDocument}
      (hflight : traffic.flights[n]? = some flight) (hstage : flight.stage = .fetching)
      (hdocument : Loader.document? text = some document) :
    Moves cluster traffic
      { (traffic.keep n flight
          ((cluster.loader flight.process).keep (traffic.memories flight.process) flight.url
            flight.begun text)).advance n flight (.ended (.served document .network))
          (some traffic.versions.length) with
        versions := traffic.versions ++
          [{ write := (cluster.loader flight.process).writeOf flight.url text,
             fetchedAt := traffic.clock }] }
  | fails {n : Nat} {flight : Flight ι} {loaded : Loaded}
      (hflight : traffic.flights[n]? = some flight) (hstage : flight.stage = .fetching)
      (hloaded : ∀ document source, loaded = .served document source → source = .stale) :
    Moves cluster traffic
      (traffic.advance n flight (.ended loaded) (traffic.versionOf? flight.process flight.url))
  | writes {v : Nat} {version : Version} {cache : κ}
      (hversion : traffic.versions[v]? = some version) (hpending : version.writtenAt = none)
      (hwrite : (cluster.cache traffic.clock).write version.write traffic.cache =
        (.returned, cache)) :
    Moves cluster traffic
      { traffic with
        cache
        versions := traffic.versions.set v { version with writtenAt := some traffic.clock }
        cached := Function.update traffic.cached version.write.key (some v) }
  | drops {version : Version} {cache : κ}
      (hwrite : (cluster.cache traffic.clock).write version.write traffic.cache =
        (.crashed, cache)) :
    Moves cluster traffic { traffic with cache }
  | cleans :
    Moves cluster traffic { traffic with cache := cluster.cleanup traffic.clock traffic.cache }

theorem read_moves {n : Nat} {flight : Flight ι} (hflight : traffic.flights[n]? = some flight)
    (hstage : flight.stage = .reading) : Moves cluster traffic (cluster.read traffic n flight) := by
  obtain ⟨body, cache, hread⟩ : ∃ body cache,
      (cluster.cache traffic.clock).read flight.url traffic.cache = (body, cache) := ⟨_, _, rfl⟩
  simp only [read, hread]
  rcases Loader.afterRead_cases (cluster.loader flight.process) flight.url flight.begun
    (traffic.memories flight.process) body with
    ⟨bytes, document, rfl, hdocument, hafter⟩ | hafter
  · simp only [hafter]
    exact .hits hflight hstage hread hdocument
  · simp only [hafter]
    exact .misses hflight hstage hread

theorem reply_moves {n : Nat} {flight : Flight ι} (hflight : traffic.flights[n]? = some flight)
    (hstage : flight.stage = .fetching) (answer : Answer) :
    Moves cluster traffic (cluster.reply traffic n flight answer) := by
  rw [reply]
  rcases Loader.afterAnswer_cases (cluster.loader flight.process) flight.url flight.begun
    (traffic.memories flight.process) answer with
    ⟨text, document, hobtains, hafter⟩ | ⟨loaded, hafter, hloaded⟩
  · rw [hafter]
    exact .obtains hflight hstage (Loader.obtains_iff.1 hobtains).2
  · rw [hafter]
    exact .fails hflight hstage hloaded

theorem write_moves {v : Nat} {version : Version} (hversion : traffic.versions[v]? = some version)
    (hpending : version.writtenAt = none) :
    Moves cluster traffic (cluster.write traffic v version) := by
  obtain ⟨ending, cache, hwrite⟩ : ∃ ending cache,
      (cluster.cache traffic.clock).write version.write traffic.cache = (ending, cache) :=
    ⟨_, _, rfl⟩
  simp only [write, hwrite]
  cases ending with
  | returned => exact .writes hversion hpending hwrite
  | crashed => exact .drops hwrite

theorem step_moves (event : Event ι) : Moves cluster traffic (cluster.step traffic event) := by
  cases event with
  | wait time => exact .waits time
  | begin process url => exact .begins process url
  | cleanup => exact .cleans
  | read n =>
    simp only [step]
    split
    · exact .idle
    · rename_i flight hflight
      split
      · rename_i hstage
        exact cluster.read_moves traffic hflight hstage
      · exact .idle
  | reply n answer =>
    simp only [step]
    split
    · exact .idle
    · rename_i flight hflight
      split
      · rename_i hstage
        exact cluster.reply_moves traffic hflight hstage answer
      · exact .idle
  | write v =>
    simp only [step]
    split
    · exact .idle
    · rename_i version hversion
      split
      · rename_i hpending
        exact cluster.write_moves traffic hversion (Option.isNone_iff_eq_none.1 hpending)
      · exact .idle

end Cluster

section Carries

variable {α : Type} {R : α → α → Prop}

/-- Each entry of a list is found at its place in a later list, as something that it may
have become. -/
def Carries (R : α → α → Prop) (before after : List α) : Prop :=
  ∀ (n : Nat) (x : α), before[n]? = some x → ∃ y, after[n]? = some y ∧ R x y

variable (hrefl : ∀ x, R x x)

include hrefl

theorem Carries.refl (xs : List α) : Carries R xs xs :=
  fun _ x hx => ⟨x, hx, hrefl x⟩

theorem Carries.append (xs ys : List α) : Carries R xs (xs ++ ys) := by
  intro n x hx
  have hlt : n < xs.length := (List.getElem?_eq_some_iff.1 hx).1
  exact ⟨x, by rw [List.getElem?_append_left hlt, hx], hrefl x⟩

theorem Carries.set {xs : List α} {n : Nat} {x y : α} (hx : xs[n]? = some x) (hxy : R x y) :
    Carries R xs (xs.set n y) := by
  intro m z hz
  have hlt : m < xs.length := (List.getElem?_eq_some_iff.1 hz).1
  rw [List.getElem?_set]
  by_cases hnm : n = m
  · subst hnm
    cases hx.symm.trans hz
    exact ⟨y, by rw [if_pos rfl, if_pos hlt], hxy⟩
  · exact ⟨z, by rw [if_neg hnm, hz], hrefl z⟩

end Carries

theorem Carries.trans {α : Type} {R : α → α → Prop} {xs ys zs : List α}
    (htrans : ∀ x y z, R x y → R y z → R x z) (hxy : Carries R xs ys) (hyz : Carries R ys zs) :
    Carries R xs zs := by
  intro n x hx
  obtain ⟨y, hy, hRxy⟩ := hxy n x hx
  obtain ⟨z, hz, hRyz⟩ := hyz n y hy
  exact ⟨z, hz, htrans x y z hRxy hRyz⟩

/-- A load that has gone on is the same load, and one that is over does not change. -/
structure Flight.Continues (flight later : Flight ι) : Prop where
  process : later.process = flight.process
  url : later.url = flight.url
  begun : later.begun = flight.begun
  ended : flight.hasEnded → later = flight

/-- A version stays the document that it is, and it may be settled later than it was. -/
structure Version.Continues (version later : Version) : Prop where
  write : later.write = version.write
  fetchedAt : later.fetchedAt = version.fetchedAt
  settledAt : version.settledAt ≤ later.settledAt

theorem Flight.Continues.refl (flight : Flight ι) : flight.Continues flight :=
  ⟨rfl, rfl, rfl, fun _ => rfl⟩

theorem Flight.Continues.trans {flight later last : Flight ι} (h : flight.Continues later)
    (h' : later.Continues last) : flight.Continues last where
  process := h'.process.trans h.process
  url := h'.url.trans h.url
  begun := h'.begun.trans h.begun
  ended hended := by
    have hlater := h.ended hended
    subst hlater
    exact h'.ended hended

theorem Version.Continues.refl (version : Version) : version.Continues version :=
  ⟨rfl, rfl, Nat.le_refl _⟩

theorem Version.Continues.trans {version later last : Version} (h : version.Continues later)
    (h' : later.Continues last) : version.Continues last :=
  ⟨h'.write.trans h.write, h'.fetchedAt.trans h.fetchedAt,
    Nat.le_trans h.settledAt h'.settledAt⟩

theorem Version.continues_written {version : Version} (h : version.writtenAt = none)
    (instant : Nat) : version.Continues { version with writtenAt := some instant } := by
  refine ⟨rfl, rfl, ?_⟩
  simp only [settledAt, h, Option.getD_none, Option.getD_some]
  omega

theorem Flight.continues_of_open {flight : Flight ι} (h : flight.hasEnded = false) (stage : Stage)
    (lastStep : Nat) (version : Option Nat) :
    flight.Continues { flight with stage, lastStep, version } :=
  ⟨rfl, rfl, rfl, fun hended => absurd hended (by simp [h])⟩

theorem Flight.hasEnded_of_reading {flight : Flight ι} (h : flight.stage = .reading) :
    flight.hasEnded = false := by
  rw [hasEnded, h]

theorem Flight.hasEnded_of_fetching {flight : Flight ι} (h : flight.stage = .fetching) :
    flight.hasEnded = false := by
  rw [hasEnded, h]

namespace Traffic

/-- What every step respects: the clock does not go back, loads and versions stay what
they are, and loads that are new begin now. -/
structure Grows (before after : Traffic ι κ) : Prop where
  clock : before.clock ≤ after.clock
  flights : Carries Flight.Continues before.flights after.flights
  newer : ∀ (n : Nat) (flight : Flight ι), before.flights[n]? = none →
    after.flights[n]? = some flight → before.clock ≤ flight.begun ∧ flight.begun ≤ after.clock
  versions : Carries Version.Continues before.versions after.versions

namespace Grows

variable {before after last : Traffic ι κ}

theorem of_eq (hclock : before.clock ≤ after.clock) (hflights : after.flights = before.flights)
    (hversions : after.versions = before.versions) : Grows before after where
  clock := hclock
  flights := hflights ▸ Carries.refl Flight.Continues.refl _
  newer n flight hbefore hafter := by
    rw [hflights, hbefore] at hafter
    contradiction
  versions := hversions ▸ Carries.refl Version.Continues.refl _

theorem refl (traffic : Traffic ι κ) : Grows traffic traffic := of_eq (Nat.le_refl _) rfl rfl

theorem trans (h : Grows before after) (h' : Grows after last) : Grows before last where
  clock := Nat.le_trans h.clock h'.clock
  flights := h.flights.trans (fun _ _ _ => Flight.Continues.trans) h'.flights
  versions := h.versions.trans (fun _ _ _ => Version.Continues.trans) h'.versions
  newer n flight hbefore hlast := by
    cases hafter : after.flights[n]? with
    | none =>
      have hnewer := h'.newer n flight hafter hlast
      exact ⟨Nat.le_trans h.clock hnewer.1, hnewer.2⟩
    | some earlier =>
      obtain ⟨same, hsame, hcontinues⟩ := h'.flights n earlier hafter
      cases hlast.symm.trans hsame
      have hnewer := h.newer n earlier hbefore hafter
      rw [hcontinues.begun]
      exact ⟨hnewer.1, Nat.le_trans hnewer.2 h'.clock⟩

/-- A load that has not ended may go on. -/
theorem of_advance {n : Nat} {flight : Flight ι} {stage : Stage} {lastStep : Nat}
    {version : Option Nat} (hflight : before.flights[n]? = some flight)
    (hopen : flight.hasEnded = false) (hclock : before.clock ≤ after.clock)
    (hflights : after.flights = before.flights.set n { flight with stage, lastStep, version })
    (hversions : Carries Version.Continues before.versions after.versions) :
    Grows before after where
  clock := hclock
  flights := hflights ▸ Carries.set Flight.Continues.refl hflight
    (Flight.continues_of_open hopen stage lastStep version)
  newer m other hbefore hafter := by
    rw [hflights, List.getElem?_eq_none_iff.2] at hafter
    · contradiction
    · rw [List.length_set]
      exact List.getElem?_eq_none_iff.1 hbefore
  versions := hversions

end Grows

end Traffic

namespace Cluster

variable [DecidableEq ι] {cluster : Cluster ι κ} {traffic after : Traffic ι κ}

theorem Moves.grows (h : Moves cluster traffic after) : traffic.Grows after := by
  have hsame : Carries Version.Continues traffic.versions traffic.versions :=
    Carries.refl Version.Continues.refl _
  cases h with
  | idle => exact .refl traffic
  | waits time => exact .of_eq (Nat.le_add_right ..) rfl rfl
  | begins process url =>
    refine ⟨Nat.le_refl _, Carries.append Flight.Continues.refl _ _, ?_, hsame⟩
    intro n flight hbefore hafter
    rw [begin, List.getElem?_append_right (List.getElem?_eq_none_iff.1 hbefore),
      List.getElem?_singleton, Option.ite_none_right_eq_some] at hafter
    cases hafter.2
    exact ⟨Nat.le_refl _, Nat.le_refl _⟩
  | misses hflight hstage =>
    exact .of_advance hflight (Flight.hasEnded_of_reading hstage) (Nat.le_refl _) rfl hsame
  | hits hflight hstage =>
    exact .of_advance hflight (Flight.hasEnded_of_reading hstage) (Nat.le_refl _) rfl hsame
  | obtains hflight hstage =>
    exact .of_advance hflight (Flight.hasEnded_of_fetching hstage) (Nat.le_refl _) rfl
      (Carries.append Version.Continues.refl _ _)
  | fails hflight hstage =>
    exact .of_advance hflight (Flight.hasEnded_of_fetching hstage) (Nat.le_refl _) rfl hsame
  | writes hversion hpending =>
    exact ⟨Nat.le_refl _, Carries.refl Flight.Continues.refl _,
      fun n flight hbefore hafter => by simp [hbefore] at hafter,
      Carries.set Version.Continues.refl hversion (Version.continues_written hpending _)⟩
  | drops => exact .of_eq (Nat.le_refl _) rfl rfl
  | cleans => exact .of_eq (Nat.le_refl _) rfl rfl

/-- Where a text that a load ends with is from: it was in the platform's cache, or it is
a version of its own, which the network just gave. -/
inductive Origin (cluster : Cluster ι κ) (before after : Traffic ι κ)
    (flight landed : Flight ι) (text : Text) : Prop
  | cache {bytes : Bytes} {cache : κ}
      (hread : (cluster.cache before.clock).read flight.url before.cache = (some bytes, cache))
      (htext : Utf8.decodeLossy bytes = text)
      (hversion : landed.version = before.cached flight.url)
  | network (hversion : landed.version = some before.versions.length)
      (hversions : after.versions = before.versions ++
        [{ write := (cluster.loader flight.process).writeOf flight.url text,
           fetchedAt := before.clock }])

/-- A load that ends with a document obtained anew: its text is kept for the address of
the load, with the expiry for the instant at which the load began. -/
structure Stores (cluster : Cluster ι κ) (before after : Traffic ι κ) (n : Nat)
    (flight landed : Flight ι) (text : Text) : Prop where
  waiting : before.flights[n]? = some flight
  opened : flight.hasEnded = false
  settled : after.flights[n]? = some landed
  ended : landed.hasEnded
  memories : after.memories = Function.update before.memories flight.process
    ((cluster.loader flight.process).keep (before.memories flight.process) flight.url flight.begun
      text)
  keeper : after.keeper = fun process url =>
    if process = flight.process ∧ url = flight.url then some n else before.keeper process url
  origin : Origin cluster before after flight landed text

namespace Stores

variable {n : Nat} {flight landed : Flight ι} {text : Text} {process : ι} {url : Text}

theorem get?_here (h : Stores cluster traffic after n flight landed text) :
    (after.memories flight.process).get? flight.url =
      some { text, expiresAt := (cluster.loader flight.process).expiry flight.begun } := by
  rw [h.memories, Function.update_self, Loader.keep, Table.get?_set, if_pos rfl]

theorem get?_other (h : Stores cluster traffic after n flight landed text)
    (hother : ¬ (process = flight.process ∧ url = flight.url)) :
    (after.memories process).get? url = (traffic.memories process).get? url := by
  rw [h.memories]
  by_cases hprocess : process = flight.process
  · subst hprocess
    have hurl : flight.url ≠ url := fun heq => hother ⟨rfl, heq.symm⟩
    rw [Function.update_self, Loader.keep, Table.get?_set, if_neg hurl]
  · rw [Function.update_of_ne hprocess]

theorem keeper_here (h : Stores cluster traffic after n flight landed text) :
    after.keeper flight.process flight.url = some n := by
  rw [h.keeper]
  exact if_pos ⟨rfl, rfl⟩

theorem keeper_other (h : Stores cluster traffic after n flight landed text)
    (hother : ¬ (process = flight.process ∧ url = flight.url)) :
    after.keeper process url = traffic.keeper process url := by
  rw [h.keeper]
  exact if_neg hother

end Stores

/-- A step leaves the copies in memory as they are, or a load ends and stores one. -/
theorem Moves.memories_cases (h : Moves cluster traffic after) :
    (after.memories = traffic.memories ∧ after.keeper = traffic.keeper) ∨
    ∃ n flight landed text, Stores cluster traffic after n flight landed text := by
  have hset {n : Nat} {flight : Flight ι} (hflight : traffic.flights[n]? = some flight)
      (landed : Flight ι) : (traffic.flights.set n landed)[n]? = some landed := by
    rw [List.getElem?_set_self (List.getElem?_eq_some_iff.1 hflight).1]
  cases h with
  | hits hflight hstage =>
    exact .inr ⟨_, _, _, _, hflight, Flight.hasEnded_of_reading hstage, hset hflight _,
      rfl, rfl, rfl, .cache ‹_› rfl rfl⟩
  | obtains hflight hstage =>
    exact .inr ⟨_, _, _, _, hflight, Flight.hasEnded_of_fetching hstage, hset hflight _,
      rfl, rfl, rfl, .network rfl rfl⟩
  | idle | waits | begins | misses | fails | writes | drops | cleans => exact .inl ⟨rfl, rfl⟩

/-- A copy in memory is that of a load which has ended, with the expiry for the instant
at which the load began. -/
structure LeftBy (cluster : Cluster ι κ) (traffic : Traffic ι κ) (process : ι) (url : Text)
    (copy : Copy) (n : Nat) (flight : Flight ι) : Prop where
  keeper : traffic.keeper process url = some n
  found : traffic.flights[n]? = some flight
  sameProcess : flight.process = process
  sameUrl : flight.url = url
  ended : flight.hasEnded
  expiry : copy.expiresAt = (cluster.loader process).expiry flight.begun

omit [DecidableEq ι] in
/-- A copy that a step does not touch stays that of its load. -/
theorem LeftBy.grows {process : ι} {url : Text} {copy : Copy} {n : Nat} {flight : Flight ι}
    (h : LeftBy cluster traffic process url copy n flight) (hgrows : traffic.Grows after)
    (hkeeper : after.keeper process url = traffic.keeper process url) :
    LeftBy cluster after process url copy n flight := by
  obtain ⟨later, hlater, hcontinues⟩ := hgrows.flights n flight h.found
  cases hcontinues.ended h.ended
  exact ⟨hkeeper.trans h.keeper, hlater, h.sameProcess, h.sameUrl, h.ended, h.expiry⟩

theorem Stores.leftBy {n : Nat} {flight landed : Flight ι} {text : Text}
    (h : Stores cluster traffic after n flight landed text) (hgrows : traffic.Grows after) :
    LeftBy cluster after flight.process flight.url
      { text, expiresAt := (cluster.loader flight.process).expiry flight.begun } n landed := by
  obtain ⟨later, hlater, hcontinues⟩ := hgrows.flights n flight h.waiting
  cases h.settled.symm.trans hlater
  exact ⟨h.keeper_here, h.settled, hcontinues.process, hcontinues.url, h.ended, by
    rw [hcontinues.begun]⟩

omit [DecidableEq ι] in
theorem LeftBy.versionOf? {process : ι} {url : Text} {copy : Copy} {n : Nat} {flight : Flight ι}
    (h : LeftBy cluster traffic process url copy n flight) :
    traffic.versionOf? process url = flight.version := by
  rw [Traffic.versionOf?, h.keeper, Option.bind_some, h.found, Option.bind_some]

variable (cluster traffic) in
/-- What each step keeps, a run keeps. -/
theorem run_induction {P : Traffic ι κ → Prop} (events : List (Event ι)) (hstart : P traffic)
    (hstep : ∀ before after, Moves cluster before after → P before → P after) :
    P (cluster.run traffic events) := by
  induction events generalizing traffic with
  | nil => exact hstart
  | cons event events ih =>
    exact ih (cluster.step traffic event)
      (hstep _ _ (cluster.step_moves traffic event) hstart)

variable (cluster traffic) in
theorem run_grows (events : List (Event ι)) : traffic.Grows (cluster.run traffic events) :=
  cluster.run_induction traffic events (.refl traffic) fun _ _ hmoves hgrows =>
    hgrows.trans hmoves.grows

variable (cluster) in
/-- No load has begun later than now. -/
theorem run_begun_le (clock : Nat) (cache : κ) (events : List (Event ι)) {n : Nat}
    {flight : Flight ι}
    (h : (cluster.run { clock, cache } events).flights[n]? = some flight) :
    flight.begun ≤ (cluster.run { clock, cache } events).clock :=
  ((cluster.run_grows { clock, cache } events).newer n flight rfl h).2

end Cluster

end RuleGateway
