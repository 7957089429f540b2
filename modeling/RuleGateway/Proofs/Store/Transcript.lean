import RuleGateway.Proofs.Backend.Transcript
import RuleGateway.Proofs.Store.Load

/-!
# Transcripts of a platform

A platform whose network keeps a record is the same platform for a load: the
clock and the cache do not see the record. A load asks the network once if
neither memory nor the platform's cache has the document, and not at all
otherwise.
-/

namespace RuleGateway

variable {σ : Type}

/-- The cache of a platform whose network keeps a record. -/
def PlatformCache.logged (cache : PlatformCache σ) : PlatformCache (σ × Transcript) where
  read key state :=
    let (body, next) := cache.read key state.1
    (body, (next, state.2))
  write write state :=
    let (ending, next) := cache.write write state.1
    (ending, (next, state.2))

/-- The platform with a record of the requests and answers of its network. -/
def Platform.logged (platform : Platform σ) : Platform (σ × Transcript) where
  now state := platform.now state.1
  network := platform.network.logged
  cache := platform.cache.map PlatformCache.logged

namespace Loader

variable (loader : Loader) (platform : Platform σ) (url : Text) (memory : Memory) (state : σ)

/-- The requests and answers of a load. -/
def transcript : Transcript :=
  if (fromMemory? memory url (platform.now state)).isSome ∨ (cacheText? platform url state).isSome
  then []
  else [(.get url, (platform.network (.get url) (readCache platform url state).2).1)]

theorem fetch_logged (now : Nat) (earlier : Transcript) :
    loader.fetch platform.logged url now memory (state, earlier) =
      let fetched := loader.fetch platform url now memory state
      (fetched.1, fetched.2.1,
        (fetched.2.2, earlier ++ [(.get url, (platform.network (.get url) state).1)])) := by
  obtain ⟨answer, after, hanswer⟩ :
      ∃ answer after, platform.network (.get url) state = (answer, after) := ⟨_, _, rfl⟩
  have hlogged : platform.logged.network (.get url) (state, earlier) =
      (answer, (after, earlier ++ [(.get url, answer)])) := Network.logged_apply hanswer earlier
  rw [fetch, fetch, hlogged, hanswer]
  dsimp only
  split
  · rfl
  · split
    · rename_i document kept write _
      cases hcache : platform.cache with
      | none =>
        simp only [Platform.logged, hcache, Option.map_none]
      | some cache =>
        obtain ⟨ending, last, hwrite⟩ : ∃ ending last, cache.write write after = (ending, last) :=
          ⟨_, _, rfl⟩
        simp only [Platform.logged, PlatformCache.logged, hcache, Option.map_some, hwrite]
        cases ending <;> rfl
    · split <;> rfl

theorem readCache_logged (earlier : Transcript) :
    readCache platform.logged url (state, earlier) =
      ((readCache platform url state).1, ((readCache platform url state).2, earlier)) := by
  unfold readCache Platform.logged
  cases platform.cache <;> rfl

theorem cacheText?_logged (earlier : Transcript) :
    cacheText? platform.logged url (state, earlier) = cacheText? platform url state := by
  rw [cacheText?, readCache_logged, cacheText?]

/-- A record changes nothing about a load, and it grows by the requests of the
load. -/
theorem load_logged (earlier : Transcript) :
    loader.load platform.logged url memory (state, earlier) =
      let loaded := loader.load platform url memory state
      (loaded.1, loaded.2.1,
        (loaded.2.2, earlier ++ transcript platform url memory state)) := by
  have hnow : platform.logged.now (state, earlier) = platform.now state := rfl
  have hcache := cacheText?_logged platform url state earlier
  cases hfresh : fromMemory? memory url (platform.now state) with
  | some document =>
    rw [load_of_fresh loader platform.logged url memory (state, earlier) hfresh,
      load_of_fresh loader platform url memory state hfresh]
    simp [transcript, hfresh]
  | none =>
    rw [load_of_not_fresh loader platform.logged url memory (state, earlier) hfresh,
      load_of_not_fresh loader platform url memory state hfresh, hnow]
    cases hcached : cacheText? platform url state with
    | some text =>
      obtain ⟨document, hdocument, hload⟩ :=
        loadPastMemory_of_cached loader platform url memory state (platform.now state) hcached
      obtain ⟨same, hsame, hlogged⟩ :=
        loadPastMemory_of_cached loader platform.logged url memory (state, earlier)
          (platform.now state) (hcache.trans hcached)
      cases hdocument.symm.trans hsame
      rw [hload, hlogged, readCache_logged]
      simp [transcript, hcached]
    | none =>
      rw [loadPastMemory_of_not_cached loader platform url memory state (platform.now state)
          hcached,
        loadPastMemory_of_not_cached loader platform.logged url memory (state, earlier)
          (platform.now state) (hcache.trans hcached),
        readCache_logged, fetch_logged]
      simp [transcript, hfresh, hcached]

end Loader

end RuleGateway
