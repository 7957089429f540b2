import Mathlib.Data.List.Induction
import Mathlib.Logic.Function.Basic
import RuleGateway.Proofs.Table
import RuleGateway.Store.Local
import RuleGateway.Text.Utf8

/-!
# A map whose entries expire

Entries leave the cache in the process where they are asked for, where it is cleaned up
and where another takes their place. None of this shows: at every instant the cache gives
what a map would that keeps the last body of each key until its time is over (`Agrees`),
and a get that is cut into its steps, with anything in between, drops no entry that is
alive (`Shared.Holds`). The exception is a put whose time reaches past the last instant of
the clock. It crashes and stores nothing (`run_answers`).
-/

namespace RuleGateway.LocalCache

section Agreement

/-- The entry if it is alive. -/
def aliveOf (entry : Option LocalEntry) (now : Nat) : Option LocalEntry :=
  entry.filter (·.isAlive now)

theorem isAlive_of_le {entry : LocalEntry} {now later : Nat} (hle : now ≤ later)
    (h : entry.isAlive later) : entry.isAlive now :=
  decide_eq_true (Nat.lt_of_le_of_lt hle (of_decide_eq_true h))

/-- To leave out nothing that is alive makes no difference. -/
theorem aliveOf_filter {kept : LocalEntry → Bool} {now : Nat}
    (h : ∀ entry : LocalEntry, entry.isAlive now → kept entry) (entry : Option LocalEntry) :
    aliveOf (entry.filter kept) now = aliveOf entry now := by
  cases entry with
  | none => rfl
  | some entry =>
    rw [Option.filter_some]
    split
    · rfl
    · rename_i hdropped
      have hdead : ¬ entry.isAlive now = true := fun halive => hdropped (h entry halive)
      rw [aliveOf, aliveOf, Option.filter_some, if_neg hdead, Option.filter_none]

theorem aliveOf_later {now later : Nat} (hle : now ≤ later) (entry : Option LocalEntry) :
    aliveOf (aliveOf entry now) later = aliveOf entry later :=
  aliveOf_filter (fun _ => isAlive_of_le hle) entry

/-- Whether a cache has each key once, and at an instant gives the entries that are kept for
the keys as far as they are alive. -/
structure Agrees (cache : LocalCache) (kept : Text → Option LocalEntry) (now : Nat) : Prop where
  distinct : (cache.map (·.1)).Nodup
  alive : ∀ key, aliveOf (cache.get? key) now = aliveOf (kept key) now

variable {cache : LocalCache} {kept : Text → Option LocalEntry} {now later instant : Nat}

theorem agrees_empty (now : Nat) : Agrees [] (fun _ => none) now where
  distinct := List.nodup_nil
  alive _ := rfl

theorem Agrees.mono (h : Agrees cache kept now) (hle : now ≤ later) : Agrees cache kept later where
  distinct := h.distinct
  alive key := by rw [← aliveOf_later hle, h.alive, aliveOf_later hle]

theorem Agrees.set (h : Agrees cache kept now) (key : Text) (entry : LocalEntry) :
    Agrees (cache.set key entry) (Function.update kept key (some entry)) now where
  distinct := Table.nodup_keys_set h.distinct key entry
  alive other := by
    rw [Table.get?_set]
    by_cases hkey : key = other
    · rw [if_pos hkey, ← hkey, Function.update_self]
    · rw [if_neg hkey, Function.update_of_ne (Ne.symm hkey), h.alive]

/-- Entries that are not alive may be dropped. -/
theorem Agrees.filter (h : Agrees cache kept now) {stays : Text × LocalEntry → Bool}
    (hstays : ∀ key (entry : LocalEntry), entry.isAlive now → stays (key, entry)) :
    Agrees (cache.filter stays) kept now where
  distinct := (List.filter_sublist.map _).nodup h.distinct
  alive key := by
    rw [Table.get?_filter h.distinct, aliveOf_filter (hstays key), h.alive]

theorem Agrees.evict (h : Agrees cache kept now) (key : Text) (hle : instant ≤ now) :
    Agrees (cache.evict key instant) kept now :=
  h.filter fun _ _ halive => by
    rw [Bool.or_eq_true]
    exact .inr (isAlive_of_le hle halive)

/-- To drop an entry that is alive or is not there is to drop nothing. -/
theorem Agrees.evict_eq_self (h : Agrees cache kept now) (key : Text) (instant : Nat)
    (halive : ∀ entry, cache.get? key = some entry → entry.isAlive instant) :
    cache.evict key instant = cache := by
  refine List.filter_eq_self.2 fun (k, entry) hmem => ?_
  change (k != key || entry.isAlive instant) = true
  by_cases hk : k = key
  · have hentry := halive entry (hk ▸ Table.get?_of_mem h.distinct hmem)
    rw [hentry, Bool.or_true]
  · rw [bne_iff_ne.2 hk, Bool.true_or]

theorem Agrees.cleanup (h : Agrees cache kept now) (hle : instant ≤ now) :
    Agrees (cache.cleanup instant) kept now :=
  h.filter fun _ _ halive => isAlive_of_le hle halive

theorem Agrees.alive? (h : Agrees cache kept now) (key : Text) :
    cache.alive? key now = (aliveOf (kept key) now).map (·.body) :=
  congrArg (Option.map _) (h.alive key)

end Agreement

section Calls

/-- A put: the body for a key, for how long, and when. -/
structure Put where
  time : Nat
  key : Text
  body : Bytes
  ttl : Duration

/-- Whether the clock can tell when the time of a put is over. -/
def Put.IsTold (put : Put) : Prop := put.time + put.ttl.millis < Clock.limit

instance (put : Put) : Decidable put.IsTold := inferInstanceAs (Decidable (_ < _))

/-- Whether the time of a put is not over at an instant. -/
def Put.isAlive (put : Put) (now : Nat) : Bool := now < put.time + put.ttl.millis

/-- The entry that a put stores. -/
def Put.entry (put : Put) : LocalEntry :=
  { body := put.body, expiresAt := put.time + put.ttl.millis }

/-- A call of the cache. -/
inductive Call where
  | put (put : Put)
  | get (time : Nat) (key : Text)
  | cleanup (time : Nat)

/-- When a call is made. -/
def Call.time : Call → Nat
  | .put made => made.time
  | .get time _ | .cleanup time => time

/-- The put that a call is. -/
def Call.put? : Call → Option Put
  | .put made => some made
  | .get _ _ | .cleanup _ => none

/-- The cache after a call. A put that crashes leaves it as it is. -/
def Call.perform (cache : LocalCache) : Call → LocalCache
  | .put made => (cache.put? made.key made.body made.ttl made.time).getD cache
  | .get time key => (cache.take key time).2
  | .cleanup time => cache.cleanup time

/-- The cache after some calls. -/
def run (calls : List Call) : LocalCache := calls.foldl Call.perform []

/-- The puts among some calls. -/
def puts (calls : List Call) : List Put := calls.filterMap Call.put?

/-- The last put of a key. -/
def last? (puts : List Put) (key : Text) : Option Put := (puts.filter (·.key == key)).getLast?

/-- The body that a map gives at an instant if it keeps the last body of each key for its
time. -/
def kept? (puts : List Put) (key : Text) (now : Nat) : Option Bytes :=
  ((last? puts key).filter (·.isAlive now)).map (·.body)

/-- Whether calls were made one after the other up to an instant that the clock can tell. -/
structure IsHistory (calls : List Call) (now : Nat) : Prop where
  ordered : calls.Pairwise fun earlier later => earlier.time ≤ later.time
  past : ∀ call ∈ calls, call.time ≤ now
  told : now < Clock.limit

variable {calls : List Call} {now : Nat}

theorem IsHistory.dropLast {call : Call} (h : IsHistory (calls ++ [call]) now) :
    IsHistory calls call.time := by
  obtain ⟨hordered, -, hbetween⟩ := List.pairwise_append.1 h.ordered
  have hcall := h.past call (List.mem_append_right calls List.mem_cons_self)
  exact ⟨hordered, fun other hother => hbetween other hother call List.mem_cons_self,
    Nat.lt_of_le_of_lt hcall h.told⟩

/-- The puts that were carried out. -/
def stored (calls : List Call) : List Put := (puts calls).filter (·.IsTold)

/-- What a map keeps for each key after a call: the entry of the last put that was carried
out. -/
def Call.keep (kept : Text → Option LocalEntry) : Call → Text → Option LocalEntry
  | .put made => if made.IsTold then Function.update kept made.key (some made.entry) else kept
  | .get _ _ | .cleanup _ => kept

/-- What a map keeps for each key after some calls. -/
def keptEntries (calls : List Call) : Text → Option LocalEntry :=
  calls.foldl Call.keep fun _ => none

theorem last?_concat (puts : List Put) (put : Put) (key : Text) :
    last? (puts ++ [put]) key = if key = put.key then some put else last? puts key := by
  rw [last?, List.filter_append]
  by_cases hkey : key = put.key
  · have hsame : [put].filter (·.key == key) = [put] := by simp [hkey]
    rw [hsame, List.getLast?_concat, if_pos hkey]
  · have hother : [put].filter (·.key == key) = [] := by simp [Ne.symm hkey]
    rw [hother, List.append_nil, if_neg hkey, last?]

theorem filter_isTold (put : Put) :
    [put].filter (·.IsTold) = if put.IsTold then [put] else [] := by
  by_cases h : put.IsTold <;> simp [h]

theorem stored_concat (calls : List Call) (call : Call) :
    stored (calls ++ [call]) = stored calls ++ (call.put?.toList.filter (·.IsTold)) := by
  rw [stored, puts, List.filterMap_append, List.filter_append]
  cases call <;> rfl

/-- The map keeps the entries of the puts that were carried out last. -/
theorem keptEntries_eq (calls : List Call) (key : Text) :
    keptEntries calls key = (last? (stored calls) key).map Put.entry := by
  induction calls using List.reverseRecOn with
  | nil => rfl
  | append_singleton calls call ih =>
    rw [keptEntries, List.foldl_append, ← keptEntries, stored_concat]
    cases call with
    | put made =>
      simp only [List.foldl_cons, List.foldl_nil, Call.keep, Call.put?, Option.toList_some,
        filter_isTold]
      by_cases htold : made.IsTold
      · rw [if_pos htold, if_pos htold, last?_concat, Function.update_apply, ih]
        split <;> rfl
      · rw [if_neg htold, if_neg htold, List.append_nil, ih]
    | get time other => simpa [Call.keep, Call.put?] using ih
    | cleanup time => simpa [Call.keep, Call.put?] using ih

/-- One call of the cache is one of the map. -/
theorem Agrees.perform {cache : LocalCache} {kept : Text → Option LocalEntry} (call : Call)
    (h : Agrees cache kept call.time) :
    Agrees (call.perform cache) (call.keep kept) call.time := by
  cases call with
  | put made =>
    rw [Call.perform, LocalCache.put?, Clock.after?, Call.keep]
    by_cases htold : made.IsTold
    · rw [if_pos htold, if_pos (show _ < _ from htold)]
      exact h.set made.key made.entry
    · rw [if_neg htold, if_neg (show ¬ _ < _ from htold)]
      exact h
  | get time key => exact h.evict key (Nat.le_refl _)
  | cleanup time => exact h.cleanup (Nat.le_refl _)

/-- The cache agrees with the last put of each key that was carried out. -/
theorem run_agrees (h : IsHistory calls now) : Agrees (run calls) (keptEntries calls) now := by
  induction calls using List.reverseRecOn generalizing now with
  | nil => exact agrees_empty now
  | append_singleton calls call ih =>
    have hcall := h.past call (List.mem_append_right calls List.mem_cons_self)
    rw [run, keptEntries, List.foldl_append, List.foldl_append]
    exact ((ih h.dropLast).perform call).mono hcall

/-- A get gives the body that was stored last, if its time is not over. -/
theorem take_run (h : IsHistory calls now) (key : Text) :
    ((run calls).take key now).1 = kept? (stored calls) key now := by
  have halive := (run_agrees h).alive? key
  rw [keptEntries_eq] at halive
  refine halive.trans ?_
  rw [kept?, aliveOf, Option.filter_map, Option.map_map]
  rfl

/-- The last put of a key, if it was carried out, is the last that was. -/
theorem last?_stored {key : Text} {put : Put} (h : last? (puts calls) key = some put)
    (htold : put.IsTold) : last? (stored calls) key = some put := by
  obtain ⟨front, hfront⟩ := List.getLast?_eq_some_iff.1 h
  rw [last?, stored, List.filter_comm, hfront, List.filter_append, filter_isTold, if_pos htold,
    List.getLast?_concat]

theorem last?_stored_of_none {key : Text} (h : last? (puts calls) key = none) :
    last? (stored calls) key = none := by
  rw [last?, List.getLast?_eq_none_iff] at h ⊢
  rw [stored, List.filter_comm, h, List.filter_nil]

/-- A put whose end the clock cannot tell would be alive at every instant. -/
theorem isAlive_of_not_isTold {put : Put} (h : ¬ put.IsTold) (hnow : now < Clock.limit) :
    put.isAlive now :=
  decide_eq_true (Nat.lt_of_lt_of_le hnow (Nat.not_lt.1 h))

/-- A get gives the last body of the key for its time, unless the put of it crashed and no
earlier one of the same body is alive. -/
theorem take_run_iff (h : IsHistory calls now) (key : Text) :
    ((run calls).take key now).1 = kept? (puts calls) key now ↔
      ∀ put, last? (puts calls) key = some put →
        put.IsTold ∨ kept? (stored calls) key now = some put.body := by
  rw [take_run h]
  cases hlast : last? (puts calls) key with
  | none =>
    have hstored := last?_stored_of_none hlast
    simp [kept?, hlast, hstored]
  | some put =>
    by_cases htold : put.IsTold
    · have hstored := last?_stored hlast htold
      simp [kept?, hlast, hstored, htold]
    · have halive := isAlive_of_not_isTold htold h.told
      have hkept : kept? (puts calls) key now = some put.body := by
        simp [kept?, hlast, halive]
      rw [hkept]
      simp [htold]

end Calls

section Sharing

/-- Where a get stands: it has read the clock, it has found an entry whose time is over, or
it has an answer. -/
inductive SearchStage where
  | begun
  | late
  | ended (answer : Option Bytes)
  deriving DecidableEq

/-- A get on its way: the key, what it read from the clock, and where it stands. -/
structure Search where
  key : Text
  readAt : Nat
  stage : SearchStage := .begun

/-- What a get finds. Whether an entry is alive is told by what the get had read from the
clock. -/
def Search.found (search : Search) (cache : LocalCache) : SearchStage :=
  match cache.get? search.key with
  | some entry => if entry.isAlive search.readAt then .ended (some entry.body) else .late
  | none => .ended none

/-- A cache with the gets that are on their way. The last field is a note that no step
reads: what a map keeps for each key. -/
structure Shared where
  clock : Nat
  cache : LocalCache := []
  searches : List Search := []
  kept : Text → Option LocalEntry := fun _ => none

/-- What may happen next: time passes, another call is made and carried out, a get begins,
looks for its entry, or drops the one that it has found. -/
inductive Event where
  | wait (time : Nat)
  | put (key : Text) (body : Bytes) (ttl : Duration)
  | cleanup
  | begin (key : Text)
  | look (search : Nat)
  | evict (search : Nat)

namespace Shared

variable (shared : Shared)

/-- The get of a number if it stands at some stage. -/
def search? (n : Nat) (stage : SearchStage) : Option Search :=
  shared.searches[n]?.filter (·.stage = stage)

/-- The cache with one more get. -/
def join (search : Search) : Shared :=
  { shared with searches := shared.searches ++ [search] }

/-- The cache with a get come to another stage. -/
def advance (n : Nat) (search : Search) (stage : SearchStage) : Shared :=
  { shared with searches := shared.searches.set n { search with stage } }

/-- The cache after a call that is carried out at once. -/
def perform (call : Call) : Shared :=
  { shared with cache := call.perform shared.cache, kept := call.keep shared.kept }

/-- The end of a get whose entry was not alive. -/
def evict (n : Nat) (search : Search) : Shared :=
  { shared.advance n search (.ended none) with
    cache := shared.cache.evict search.key search.readAt }

/-- What an event does. One for which nothing waits does nothing. -/
def step : Event → Shared
  | .wait time => { shared with clock := shared.clock + time }
  | .put key body ttl => shared.perform (.put { time := shared.clock, key, body, ttl })
  | .cleanup => shared.perform (.cleanup shared.clock)
  | .begin key => shared.join { key, readAt := shared.clock }
  | .look n =>
    match shared.search? n .begun with
    | some search => shared.advance n search (search.found shared.cache)
    | none => shared
  | .evict n =>
    match shared.search? n .late with
    | some search => shared.evict n search
    | none => shared

/-- What a sequence of events does. -/
def run (events : List Event) : Shared := events.foldl step shared

/-- What all steps keep: the cache is that of a map, and gets have read the clock before. -/
structure Holds (shared : Shared) : Prop where
  agrees : Agrees shared.cache shared.kept shared.clock
  past : ∀ search ∈ shared.searches, search.readAt ≤ shared.clock

variable {shared : Shared} {n : Nat} {search : Search}

theorem mem_of_search? {stage : SearchStage} (h : shared.search? n stage = some search) :
    search ∈ shared.searches :=
  List.mem_of_getElem? (Option.filter_eq_some_iff.1 h).1

theorem Holds.advance (h : Holds shared) (hmem : search ∈ shared.searches) (stage : SearchStage) :
    Holds (shared.advance n search stage) where
  agrees := h.agrees
  past other hother := by
    rcases List.mem_or_eq_of_mem_set hother with hother | rfl
    · exact h.past other hother
    · exact h.past search hmem

/-- One event. A get drops by what it has read from the clock, and by then an entry that is
dropped is not alive any more. -/
theorem Holds.step (h : Holds shared) (event : Event) : Holds (shared.step event) := by
  cases event with
  | wait time =>
    have hle : shared.clock ≤ shared.clock + time := Nat.le_add_right _ _
    exact ⟨h.agrees.mono hle, fun search hsearch => Nat.le_trans (h.past search hsearch) hle⟩
  | put key body ttl =>
    exact ⟨h.agrees.perform (.put { time := shared.clock, key, body, ttl }), h.past⟩
  | cleanup => exact ⟨h.agrees.perform (.cleanup shared.clock), h.past⟩
  | begin key =>
    refine ⟨h.agrees, fun search hsearch => ?_⟩
    rcases List.mem_append.1 hsearch with hsearch | hsearch
    · exact h.past search hsearch
    · cases List.mem_singleton.1 hsearch
      exact Nat.le_refl _
  | look n =>
    rw [Shared.step]
    cases hsearch : shared.search? n .begun with
    | none => exact h
    | some search => exact h.advance (mem_of_search? hsearch) _
  | evict n =>
    rw [Shared.step]
    cases hsearch : shared.search? n .late with
    | none => exact h
    | some search =>
      have hmem := mem_of_search? hsearch
      exact ⟨h.agrees.evict search.key (h.past search hmem), (h.advance hmem _).past⟩

theorem Holds.run (h : Holds shared) (events : List Event) : Holds (shared.run events) := by
  induction events generalizing shared with
  | nil => exact h
  | cons event events ih => exact ih (h.step event)

theorem run_holds (clock : Nat) (events : List Event) :
    Holds (({ clock } : Shared).run events) :=
  Holds.run ⟨agrees_empty clock, fun _ h => absurd h List.not_mem_nil⟩ events

/-- An entry that the map keeps is there as long as it is alive. -/
theorem Holds.get?_of_kept (h : Holds shared) {key : Text} {entry : LocalEntry}
    (hkept : shared.kept key = some entry) (halive : entry.isAlive shared.clock) :
    shared.cache.get? key = some entry := by
  have hsame := h.agrees.alive key
  rw [hkept, aliveOf, aliveOf, Option.filter_some, if_pos halive] at hsame
  exact (Option.filter_eq_some_iff.1 hsame).1

/-- The end of a get drops no entry that is alive then. -/
theorem Holds.get?_evict (h : Holds shared) (n : Nat) {key : Text} {entry : LocalEntry}
    (hentry : shared.cache.get? key = some entry) (halive : entry.isAlive shared.clock) :
    (shared.step (.evict n)).cache.get? key = some entry := by
  rw [Shared.step]
  cases hsearch : shared.search? n .late with
  | none => exact hentry
  | some search =>
    have hread := isAlive_of_le (h.past search (mem_of_search? hsearch)) halive
    show (LocalCache.evict shared.cache search.key search.readAt).get? key = some entry
    have hstays : (key != search.key || entry.isAlive search.readAt) = true := by
      rw [hread, Bool.or_true]
    rw [LocalCache.evict, Table.get?_filter h.agrees.distinct, hentry, Option.filter_some]
    exact if_pos hstays

theorem search?_join (shared : Shared) (search : Search) (stage : SearchStage) :
    (shared.join search).search? shared.searches.length stage =
      if search.stage = stage then some search else none := by
  simp [search?, join, Option.filter_some]

theorem advance_join (shared : Shared) (search : Search) (stage : SearchStage) :
    (shared.join search).advance shared.searches.length search stage =
      shared.join { search with stage } := by
  simp [Shared.advance, join]

theorem step_look_join (shared : Shared) (key : Text) (readAt : Nat) :
    (shared.join { key, readAt }).step (.look shared.searches.length) =
      shared.join { key, readAt, stage := Search.found { key, readAt } shared.cache } := by
  rw [Shared.step, search?_join, if_pos rfl]
  exact advance_join shared _ _

theorem step_evict_join_ended (shared : Shared) (key : Text) (readAt : Nat)
    (answer : Option Bytes) :
    (shared.join { key, readAt, stage := .ended answer }).step (.evict shared.searches.length) =
      shared.join { key, readAt, stage := .ended answer } := by
  rw [Shared.step, search?_join, if_neg (by simp)]

theorem step_evict_join_late (shared : Shared) (key : Text) (readAt : Nat) :
    (shared.join { key, readAt, stage := .late }).step (.evict shared.searches.length) =
      { shared.join { key, readAt, stage := .ended none } with
        cache := shared.cache.evict key readAt } := by
  rw [Shared.step, search?_join, if_pos rfl]
  show Shared.evict _ _ _ = _
  rw [Shared.evict, advance_join]
  rfl

/-- The steps of a get with nothing in between are a get. -/
theorem Holds.run_take (h : Holds shared) (key : Text) :
    shared.run [.begin key, .look shared.searches.length, .evict shared.searches.length] =
      { shared.join
          { key, readAt := shared.clock,
            stage := .ended (shared.cache.take key shared.clock).1 } with
        cache := (shared.cache.take key shared.clock).2 } := by
  show ((shared.join { key, readAt := shared.clock }).step (.look shared.searches.length)).step
    (.evict shared.searches.length) = _
  rw [step_look_join, take, LocalCache.alive?, Search.found]
  cases hentry : shared.cache.get? key with
  | none =>
    have hsame := h.agrees.evict_eq_self key shared.clock (by simp [hentry])
    rw [hsame]
    exact step_evict_join_ended shared key shared.clock none
  | some entry =>
    by_cases halive : entry.isAlive shared.clock
    · have hsame := h.agrees.evict_eq_self key shared.clock (by simp [hentry, halive])
      simp only [halive, if_true, Option.filter_some, Option.map_some, hsame]
      exact step_evict_join_ended shared key shared.clock (some entry.body)
    · simp only [halive, Option.filter_some]
      exact step_evict_join_late shared key shared.clock

end Shared

end Sharing

/-- At any instant up to the last that the clock can tell, a get after any calls gives what
a map would that keeps the last body of each key for its time, unless the put of that body
crashed. Calls that are no puts make no difference. And where gets are cut into their steps
with anything in between, an entry is there while it is alive, and no get drops it. -/
theorem run_answers {calls : List Call} {now : Nat} (h : IsHistory calls now) :
    (∀ key, ((run calls).take key now).1 = kept? (puts calls) key now ↔
      ∀ put, last? (puts calls) key = some put →
        put.IsTold ∨ kept? (stored calls) key now = some put.body) ∧
    (∀ others, IsHistory others now → puts others = puts calls →
      ∀ key, ((run others).take key now).1 = ((run calls).take key now).1) ∧
    ∀ clock events n key (entry : LocalEntry),
      let shared := Shared.run { clock } events
      entry.isAlive shared.clock →
        (shared.kept key = some entry → shared.cache.get? key = some entry) ∧
        (shared.cache.get? key = some entry →
          (shared.step (.evict n)).cache.get? key = some entry) := by
  refine ⟨take_run_iff h, fun others hothers hputs key => ?_,
    fun clock events n key entry halive => ⟨fun hkept => ?_, fun hentry => ?_⟩⟩
  · rw [take_run hothers, take_run h, stored, stored, hputs]
  · exact (Shared.run_holds clock events).get?_of_kept hkept halive
  · exact (Shared.run_holds clock events).get?_evict n hentry halive

/-- A body that takes the place of another, with a shorter time. -/
def reloads : List Call :=
  [.put { time := 0, key := "rules", body := Utf8.encode "old", ttl := .ofSecs 60 },
    .put { time := 10, key := "rules", body := Utf8.encode "new", ttl := .ofSecs 1 },
    .cleanup 500,
    .get 900 "rules"]

/-- The second body is there in its last millisecond, with or without the other calls. -/
theorem reloads_answers :
    IsHistory reloads 1009 ∧
      ((run reloads).take "rules" 1009).1 = some (Utf8.encode "new") ∧
      ((run (reloads.take 2)).take "rules" 1009).1 = some (Utf8.encode "new") := by
  have hhistory : IsHistory reloads 1009 := ⟨by decide, by decide, by decide⟩
  have hfirst : IsHistory (reloads.take 2) 1009 := ⟨by decide, by decide, by decide⟩
  obtain ⟨hiff, hothers, -⟩ := run_answers hhistory
  have htold : ∀ put, last? (puts reloads) "rules" = some put →
      put.IsTold ∨ kept? (stored reloads) "rules" 1009 = some put.body := by
    intro put hput
    cases hput
    exact .inl (by decide)
  have hanswer := (hiff "rules").2 htold
  exact ⟨hhistory, hanswer, (hothers _ hfirst rfl "rules").trans hanswer⟩

/-- A put for longer than the clock counts. -/
def longPut : Put :=
  { time := Clock.early, key := "rules", body := Utf8.encode "kept"
    ttl := .ofSecs (Nat.pow 2 64 - 1) }

/-- The time of the put is not over, and its body is not there. -/
theorem longPut_is_lost :
    ¬ ∀ (calls : List Call) (now : Nat), IsHistory calls now →
      ∀ key, ((run calls).take key now).1 = kept? (puts calls) key now := by
  intro h
  have hhistory : IsHistory [.put longPut] Clock.early := ⟨by decide, by decide, by decide⟩
  have hanswer := h _ _ hhistory "rules"
  revert hanswer
  decide

end RuleGateway.LocalCache
