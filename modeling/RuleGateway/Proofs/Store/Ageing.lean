import RuleGateway.Proofs.Store.Interleaving
import RuleGateway.Proofs.Store.Retention
import RuleGateway.Proofs.Text.WellFormed
import RuleGateway.Store.Local

/-!
# How long a version lasts

Processes that share a cache of the kind in `LocalCache` hand freshness on to each
other. An entry of that cache is alive for the time to live after the write of it, and
a load that finds it keeps a copy for the time to live once more. That is all: a copy
is never taken from a copy. So the bound for an entry is one time to live past the
instant at which its version was settled, the bound for a copy is two, and `Keeps` says
that all steps respect both.
-/

namespace RuleGateway

namespace LocalCache

/-- The cache in the process as the platform's cache at an instant. -/
def asOf (now : Nat) : PlatformCache LocalCache where
  read key cache := cache.take key now
  write write cache :=
    match cache.put? write.key write.body write.ttl now with
    | some cache => (.returned, cache)
    | none => (.crashed, cache)

variable {cache after : LocalCache} {now : Nat}

theorem sublist_of_read {key : Text} {body : Option Bytes}
    (h : (asOf now).read key cache = (body, after)) : after.Sublist cache := by
  simp only [asOf, take, Prod.mk.injEq] at h
  rw [← h.2]
  exact List.filter_sublist

/-- What is read is the body of an entry that is alive. -/
theorem entry_of_read {key : Text} {body : Bytes}
    (h : (asOf now).read key cache = (some body, after)) :
    ∃ entry, cache.get? key = some entry ∧ entry.body = body ∧ now < entry.expiresAt := by
  simp only [asOf, take, alive?, Prod.mk.injEq, Option.map_eq_some_iff] at h
  obtain ⟨⟨entry, hentry, hbody⟩, -⟩ := h
  rw [Option.filter_eq_some_iff] at hentry
  exact ⟨entry, hentry.1, hbody, of_decide_eq_true hentry.2⟩

theorem eq_set_of_write {write : CacheWrite}
    (h : (asOf now).write write cache = (.returned, after)) :
    after = cache.set write.key { body := write.body, expiresAt := now + write.ttl.millis } := by
  simp only [asOf, put?, Clock.after?] at h
  split at h
  · rename_i stored hstored
    cases h
    rw [Option.map_eq_some_iff] at hstored
    obtain ⟨expiresAt, hexpiry, rfl⟩ := hstored
    rw [Option.ite_none_right_eq_some] at hexpiry
    rw [← Option.some.inj hexpiry.2]
  · cases h

theorem eq_of_crashed {write : CacheWrite}
    (h : (asOf now).write write cache = (.crashed, after)) : after = cache := by
  simp only [asOf] at h
  split at h <;> cases h
  rfl

end LocalCache

namespace Loader

variable (loader : Loader)

theorem expiry_le (now : Nat) : loader.expiry now ≤ now + loader.ttl.millis := by
  have hmod : loader.ttl.millis % clockEnd ≤ loader.ttl.millis := Nat.mod_le ..
  unfold expiry
  omega

end Loader

/-- What all entries of a list have and a new one has, all have when the new one takes the
place of another. -/
theorem forall_mem_set {α : Type} {p : α → Prop} {xs : List α} {n : Nat} {x : α}
    (h : ∀ y ∈ xs, p y) (hx : p x) : ∀ y ∈ xs.set n x, p y := by
  intro y hy
  rcases List.mem_or_eq_of_mem_set hy with hold | rfl
  · exact h y hold
  · exact hx

variable {ι κ : Type}

/-- An instant lies no more than a span behind the one at which a version was settled,
and the version is that text for an address. -/
def Traffic.Dates (traffic : Traffic ι κ) (v? : Option Nat) (url text : Text)
    (instant span : Nat) : Prop :=
  ∃ v version, v? = some v ∧ traffic.versions[v]? = some version ∧ version.write.key = url ∧
    Utf8.decodeLossy version.write.body = text ∧ instant ≤ version.settledAt + span

namespace Traffic.Dates

variable {before after : Traffic ι κ} {v? : Option Nat} {url text : Text}
variable {instant later span more : Nat}

theorem grows (h : before.Dates v? url text instant span) (hgrows : before.Grows after) :
    after.Dates v? url text instant span := by
  obtain ⟨v, version, hv, hversion, hkey, htext, hinstant⟩ := h
  obtain ⟨same, hsame, hcontinues⟩ := hgrows.versions v version hversion
  rw [← hcontinues.write] at hkey htext
  exact ⟨v, same, hv, hsame, hkey, htext,
    Nat.le_trans hinstant (Nat.add_le_add_right hcontinues.settledAt span)⟩

theorem extend (h : before.Dates v? url text instant span) (hle : later ≤ instant + more) :
    before.Dates v? url text later (span + more) := by
  obtain ⟨v, version, hv, hversion, hkey, htext, hinstant⟩ := h
  exact ⟨v, version, hv, hversion, hkey, htext, by omega⟩

end Traffic.Dates

namespace Cluster

/-- Processes that share a cache of the kind in `LocalCache`. -/
def sharing (ttl : Duration) (fetchTimeout : ι → Duration) : Cluster ι LocalCache :=
  { ttl, fetchTimeout, cache := LocalCache.asOf, cleanup := fun now cache => cache.cleanup now }

variable [DecidableEq ι] {ttl : Duration} {fetchTimeout : ι → Duration}
variable {traffic after : Traffic ι LocalCache}

/-- Loads end no earlier than they began, and versions are written with the time to live
of the processes. -/
structure Timely (ttl : Duration) (traffic : Traffic ι LocalCache) : Prop where
  flights : ∀ flight ∈ traffic.flights,
    flight.begun ≤ flight.lastStep ∧ flight.lastStep ≤ traffic.clock
  writes : ∀ version ∈ traffic.versions, version.write.ttl = ttl

omit [DecidableEq ι] in
theorem Timely.advance (h : Timely ttl traffic) {n : Nat} {flight : Flight ι}
    (hflight : traffic.flights[n]? = some flight) (stage : Stage) (version : Option Nat) :
    ∀ moved ∈ traffic.flights.set n { flight with stage, lastStep := traffic.clock, version },
      moved.begun ≤ moved.lastStep ∧ moved.lastStep ≤ traffic.clock := by
  have htimes := h.flights flight (List.mem_of_getElem? hflight)
  exact forall_mem_set h.flights ⟨Nat.le_trans htimes.1 htimes.2, Nat.le_refl _⟩

theorem Timely.step (hmoves : Moves (sharing ttl fetchTimeout) traffic after)
    (h : Timely ttl traffic) : Timely ttl after := by
  cases hmoves with
  | idle | drops | cleans => exact ⟨h.flights, h.writes⟩
  | waits time =>
    exact ⟨fun flight hflight => ⟨(h.flights flight hflight).1,
      Nat.le_trans (h.flights flight hflight).2 (Nat.le_add_right ..)⟩, h.writes⟩
  | begins process url =>
    exact ⟨List.forall_mem_append.2
      ⟨h.flights, List.forall_mem_singleton.2 ⟨Nat.le_refl _, Nat.le_refl _⟩⟩, h.writes⟩
  | misses hflight | hits hflight | fails hflight => exact ⟨h.advance hflight _ _, h.writes⟩
  | obtains hflight =>
    exact ⟨h.advance hflight _ _,
      List.forall_mem_append.2 ⟨h.writes, List.forall_mem_singleton.2 rfl⟩⟩
  | @writes v version cache hversion =>
    exact ⟨h.flights, forall_mem_set h.writes (h.writes version (List.mem_of_getElem? hversion))⟩

/-- The cache has each key once, and its entries are alive no longer than one time to
live after their versions were settled. -/
structure Stocked (ttl : Duration) (traffic : Traffic ι LocalCache) : Prop where
  distinct : (traffic.cache.map (·.1)).Nodup
  entries : ∀ (key : Text) (entry : LocalEntry), traffic.cache.get? key = some entry →
    traffic.Dates (traffic.cached key) key (Utf8.decodeLossy entry.body) entry.expiresAt
      ttl.millis

omit [DecidableEq ι] in
/-- What remains of the cache stays as good as it was. -/
theorem Stocked.sublist (h : Stocked ttl traffic) (hgrows : traffic.Grows after)
    (hcache : after.cache.Sublist traffic.cache) (hcached : after.cached = traffic.cached) :
    Stocked ttl after where
  distinct := (hcache.map _).nodup h.distinct
  entries key entry hentry := by
    rw [hcached]
    exact (h.entries key entry (Table.get?_of_sublist h.distinct hcache hentry)).grows hgrows

theorem Stocked.step (hmoves : Moves (sharing ttl fetchTimeout) traffic after)
    (htimely : Timely ttl traffic) (h : Stocked ttl traffic) : Stocked ttl after := by
  have hgrows := hmoves.grows
  cases hmoves with
  | idle | waits | begins | obtains | fails =>
    exact h.sublist hgrows (List.Sublist.refl _) rfl
  | misses hflight hstage hread | hits hflight hstage hread =>
    exact h.sublist hgrows (LocalCache.sublist_of_read hread) rfl
  | drops hwrite =>
    exact h.sublist hgrows (LocalCache.eq_of_crashed hwrite ▸ List.Sublist.refl _) rfl
  | cleans => exact h.sublist hgrows List.filter_sublist rfl
  | @writes v version cache hversion hpending hwrite =>
    cases LocalCache.eq_set_of_write hwrite
    refine ⟨Table.nodup_keys_set h.distinct _ _, fun key entry hentry => ?_⟩
    simp only [Table.get?_set] at hentry ⊢
    split at hentry
    · rename_i hkey
      cases hentry
      subst hkey
      rw [Function.update_self, htimely.writes version (List.mem_of_getElem? hversion)]
      refine ⟨v, { version with writtenAt := some traffic.clock }, rfl, ?_, rfl, rfl,
        Nat.add_le_add_right (Nat.le_max_right ..) _⟩
      rw [List.getElem?_set_self (List.getElem?_eq_some_iff.1 hversion).1]
    · rename_i hkey
      rw [Function.update_of_ne (Ne.symm hkey)]
      exact (h.entries key entry hentry).grows hgrows

/-- Copies are fresh no longer than two times to live after their versions were settled. -/
def Shelved (ttl : Duration) (fetchTimeout : ι → Duration) (traffic : Traffic ι LocalCache) :
    Prop :=
  ∀ (process : ι) (url : Text) (copy : Copy), (traffic.memories process).get? url = some copy →
    ∃ n flight, LeftBy (sharing ttl fetchTimeout) traffic process url copy n flight ∧
      traffic.Dates flight.version url copy.text copy.expiresAt (ttl.millis + ttl.millis)

omit [DecidableEq ι] in
/-- A text that a load ends with is that of a version, and the load began no later than
one time to live after the version was settled. -/
theorem Origin.dates {flight landed : Flight ι} {text : Text}
    (h : Origin (sharing ttl fetchTimeout) traffic after flight landed text)
    (hstocked : Stocked ttl traffic) (hgrows : traffic.Grows after)
    (hbegun : flight.begun ≤ traffic.clock) :
    after.Dates landed.version flight.url text flight.begun ttl.millis := by
  cases h with
  | cache hread htext hversion =>
    obtain ⟨entry, hentry, rfl, halive⟩ := LocalCache.entry_of_read hread
    rw [hversion, ← htext]
    have hearlier : flight.begun ≤ entry.expiresAt + 0 := by omega
    exact ((hstocked.entries flight.url entry hentry).grows hgrows).extend hearlier
  | network hversion hversions =>
    refine ⟨traffic.versions.length, _, hversion, by rw [hversions, List.getElem?_concat_length],
      rfl, Utf8.decodeLossy_encode text, ?_⟩
    have hfetched := Nat.le_max_left traffic.clock 0
    exact Nat.le_add_right_of_le (Nat.le_trans hbegun hfetched)

theorem Shelved.step (hmoves : Moves (sharing ttl fetchTimeout) traffic after)
    (htimely : Timely ttl traffic) (hstocked : Stocked ttl traffic)
    (h : Shelved ttl fetchTimeout traffic) : Shelved ttl fetchTimeout after := by
  have hgrows := hmoves.grows
  intro process url copy hcopy
  rcases hmoves.memories_cases with ⟨hmemories, hkeeper⟩ | ⟨n, flight, landed, text, hstores⟩
  · rw [hmemories] at hcopy
    obtain ⟨n, flight, hleft, hdates⟩ := h process url copy hcopy
    exact ⟨n, flight, hleft.grows hgrows (by rw [hkeeper]), hdates.grows hgrows⟩
  · by_cases hhere : process = flight.process ∧ url = flight.url
    · obtain ⟨rfl, rfl⟩ := hhere
      cases hstores.get?_here.symm.trans hcopy
      have htimes := htimely.flights flight (List.mem_of_getElem? hstores.waiting)
      have hdates := hstores.origin.dates hstocked hgrows (Nat.le_trans htimes.1 htimes.2)
      exact ⟨n, landed, hstores.leftBy hgrows, hdates.extend (Loader.expiry_le _ _)⟩
    · rw [hstores.get?_other hhere] at hcopy
      obtain ⟨m, holder, hleft, hdates⟩ := h process url copy hcopy
      exact ⟨m, holder, hleft.grows hgrows (hstores.keeper_other hhere), hdates.grows hgrows⟩

/-- What a load that was served is noted with: one that the network served ended when its
version was fetched, and one that a cache served ended less than two times to live after its
version was settled. -/
structure Sourced (ttl : Duration) (traffic : Traffic ι LocalCache) (flight : Flight ι) :
    Prop where
  fetched : ∀ document, flight.stage = .ended (.served document .network) →
    ∃ v version, flight.version = some v ∧ traffic.versions[v]? = some version ∧
      version.fetchedAt = flight.lastStep ∧ version.write.key = flight.url ∧
      Loader.document? (Utf8.decodeLossy version.write.body) = some document
  kept : ∀ document source, flight.stage = .ended (.served document source) →
    source = .memory ∨ source = .cache →
    ∃ text, Loader.document? text = some document ∧
      traffic.Dates flight.version flight.url text (flight.lastStep + 1) (ttl.millis + ttl.millis)

omit [DecidableEq ι] in
theorem Sourced.grows {flight : Flight ι} (h : Sourced ttl traffic flight)
    (hgrows : traffic.Grows after) : Sourced ttl after flight where
  fetched document hstage := by
    obtain ⟨v, version, hv, hversion, hfetched, hkey, hdocument⟩ := h.fetched document hstage
    obtain ⟨same, hsame, hcontinues⟩ := hgrows.versions v version hversion
    rw [← hcontinues.write] at hkey hdocument
    exact ⟨v, same, hv, hsame, hcontinues.fetchedAt.trans hfetched, hkey, hdocument⟩
  kept document source hstage hsource := by
    obtain ⟨text, hdocument, hdates⟩ := h.kept document source hstage hsource
    exact ⟨text, hdocument, hdates.grows hgrows⟩

omit [DecidableEq ι] in
theorem sourced_of_not_served {flight : Flight ι}
    (h : ∀ document source, flight.stage = .ended (.served document source) → source = .stale) :
    Sourced ttl traffic flight where
  fetched document hstage := nomatch h document .network hstage
  kept document source hstage hsource := by
    cases h document source hstage
    rcases hsource with hsource | hsource <;> cases hsource

/-- A load that begins and finds a fresh copy ends with a version that is young enough. -/
theorem sourced_of_begin (h : Shelved ttl fetchTimeout traffic) (process : ι) (url : Text) :
    Sourced ttl (begin traffic process url)
      { process, url, begun := traffic.clock,
        stage := Loader.opening (traffic.memories process) url traffic.clock,
        lastStep := traffic.clock, version := traffic.versionOf? process url } where
  fetched document hstage := by
    obtain ⟨_, heq, -⟩ := Loader.opening_eq_ended hstage
    cases heq
  kept document source hstage hsource := by
    obtain ⟨_, heq, hfresh⟩ := Loader.opening_eq_ended hstage
    cases heq
    obtain ⟨copy, hcopy, hdocument⟩ := Option.bind_eq_some_iff.1 hfresh
    rw [Memory.fresh?, Option.filter_eq_some_iff] at hcopy
    obtain ⟨n, flight, hleft, hdates⟩ := h process url copy hcopy.1
    refine ⟨copy.text, hdocument, ?_⟩
    rw [← hleft.versionOf?] at hdates
    have hmoves : Moves (sharing ttl fetchTimeout) traffic (begin traffic process url) :=
      .begins process url
    have hfresh : traffic.clock + 1 ≤ copy.expiresAt + 0 := of_decide_eq_true hcopy.2
    exact (hdates.grows hmoves.grows).extend hfresh

theorem Sourced.step (hmoves : Moves (sharing ttl fetchTimeout) traffic after)
    (hstocked : Stocked ttl traffic)
    (hshelved : Shelved ttl fetchTimeout traffic)
    (h : ∀ flight ∈ traffic.flights, Sourced ttl traffic flight) :
    ∀ flight ∈ after.flights, Sourced ttl after flight := by
  have hgrows := hmoves.grows
  have hold (flight : Flight ι) (hflight : flight ∈ traffic.flights) : Sourced ttl after flight :=
    (h flight hflight).grows hgrows
  cases hmoves with
  | idle | waits | writes | drops | cleans => exact hold
  | begins process url =>
    exact List.forall_mem_append.2
      ⟨hold, List.forall_mem_singleton.2 (sourced_of_begin hshelved process url)⟩
  | misses hflight hstage hread =>
    exact forall_mem_set hold (sourced_of_not_served nofun)
  | hits hflight hstage hread hdocument =>
    refine forall_mem_set hold ⟨nofun, fun document source hserved _ => ?_⟩
    cases hserved
    obtain ⟨entry, hentry, rfl, halive⟩ := LocalCache.entry_of_read hread
    exact ⟨_, hdocument,
      ((hstocked.entries _ entry hentry).grows hgrows).extend (Nat.le_add_right_of_le halive)⟩
  | obtains hflight hstage hdocument =>
    refine forall_mem_set hold
      ⟨fun document hserved => ?_, fun document source hserved hsource => ?_⟩
    · cases hserved
      refine ⟨_, _, rfl, List.getElem?_concat_length, rfl, rfl, ?_⟩
      rwa [Loader.writeOf, Utf8.decodeLossy_encode]
    · cases hserved
      rcases hsource with hsource | hsource <;> cases hsource
  | fails hflight hstage hloaded =>
    refine forall_mem_set hold (sourced_of_not_served fun document source hserved => ?_)
    cases hserved
    exact hloaded document source rfl

/-- What all steps keep. -/
structure Keeps (ttl : Duration) (fetchTimeout : ι → Duration) (traffic : Traffic ι LocalCache) :
    Prop where
  timely : Timely ttl traffic
  stocked : Stocked ttl traffic
  shelved : Shelved ttl fetchTimeout traffic
  sourced : ∀ flight ∈ traffic.flights, Sourced ttl traffic flight

variable (ttl fetchTimeout) in
theorem run_keeps (clock : Nat) (events : List (Event ι)) :
    Keeps ttl fetchTimeout ((sharing ttl fetchTimeout).run { clock, cache := [] } events) := by
  refine run_induction (sharing ttl fetchTimeout) { clock, cache := [] } events ?_ ?_
  · exact ⟨⟨nofun, nofun⟩, ⟨List.nodup_nil, nofun⟩, nofun, nofun⟩
  · intro before after hmoves h
    exact ⟨h.timely.step hmoves, h.stocked.step hmoves h.timely,
      h.shelved.step hmoves h.timely h.stocked,
      Sourced.step hmoves h.stocked h.shelved h.sourced⟩

/-- Each document that the network gave is a version, and two times to live after a version
was settled, no load is served with it from a copy or from the platform's cache, and no copy
of it is fresh. -/
structure Expires (ttl : Duration) (traffic : Traffic ι LocalCache) : Prop where
  fetched : ∀ flight ∈ traffic.flights, ∀ document,
    flight.stage = .ended (.served document .network) →
    ∃ v version, flight.version = some v ∧ traffic.versions[v]? = some version ∧
      version.fetchedAt = flight.lastStep ∧ version.write.key = flight.url ∧
      Loader.document? (Utf8.decodeLossy version.write.body) = some document
  served : ∀ flight ∈ traffic.flights, ∀ document source,
    flight.stage = .ended (.served document source) → source = .memory ∨ source = .cache →
    ∃ v version, flight.version = some v ∧ traffic.versions[v]? = some version ∧
      version.write.key = flight.url ∧
      Loader.document? (Utf8.decodeLossy version.write.body) = some document ∧
      flight.begun ≤ flight.lastStep ∧ flight.lastStep < version.settledAt + 2 * ttl.millis
  copies : ∀ (process : ι) (url : Text) (copy : Copy),
    (traffic.memories process).get? url = some copy →
    ∃ v version, traffic.versionOf? process url = some v ∧
      traffic.versions[v]? = some version ∧ version.write.key = url ∧
      copy.text = Utf8.decodeLossy version.write.body ∧
      ∀ now, version.settledAt + 2 * ttl.millis ≤ now → copy.isFresh now = false

/-- Whatever loads do, and whenever writes are carried out, no version outlives two times
to live. -/
theorem run_expires (ttl : Duration) (fetchTimeout : ι → Duration) (clock : Nat)
    (events : List (Event ι)) :
    Expires ttl ((sharing ttl fetchTimeout).run { clock, cache := [] } events) := by
  have hkeeps := run_keeps ttl fetchTimeout clock events
  constructor
  case fetched =>
    exact fun flight hflight => (hkeeps.sourced flight hflight).fetched
  case served =>
    intro flight hflight document source hstage hsource
    obtain ⟨text, hdocument, v, version, hv, hversion, hkey, rfl, hlast⟩ :=
      (hkeeps.sourced flight hflight).kept document source hstage hsource
    exact ⟨v, version, hv, hversion, hkey, hdocument, (hkeeps.timely.flights flight hflight).1,
      by omega⟩
  case copies =>
    intro process url copy hcopy
    obtain ⟨n, flight, hleft, v, version, hv, hversion, hkey, htext, hexpiry⟩ :=
      hkeeps.shelved process url copy hcopy
    refine ⟨v, version, hleft.versionOf?.trans hv, hversion, hkey, htext.symm, ?_⟩
    intro now hnow
    exact decide_eq_false (by omega)

end Cluster

end RuleGateway
