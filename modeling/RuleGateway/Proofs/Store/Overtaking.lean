import RuleGateway.Proofs.Store.Interleaving

/-!
# Loads that are overtaken

A load leaves its document with the expiry for the instant at which it began, whatever
is in memory when it ends. So a load that waits long enough is overtaken by one that
began after it, and puts its older copy back when it ends. Nothing else lowers an
expiry: a copy that expires before the one that was there earlier is that of a load
that was under way then and had begun before the load whose copy was there.
-/

namespace RuleGateway

theorem Loader.expiry_mono (loader : Loader) {now later : Nat} (h : now ≤ later) :
    loader.expiry now ≤ loader.expiry later := by
  unfold expiry
  omega

namespace Cluster

variable {ι κ : Type} [DecidableEq ι] {cluster : Cluster ι κ} {traffic after : Traffic ι κ}

/-- Each copy in memory was left by some load. -/
def Attributed (cluster : Cluster ι κ) (traffic : Traffic ι κ) : Prop :=
  ∀ (process : ι) (url : Text) (copy : Copy), (traffic.memories process).get? url = some copy →
    ∃ n flight, LeftBy cluster traffic process url copy n flight

theorem Attributed.step (hmoves : Moves cluster traffic after) (h : Attributed cluster traffic) :
    Attributed cluster after := by
  intro process url copy hcopy
  rcases hmoves.memories_cases with ⟨hmemories, hkeeper⟩ | ⟨n, flight, landed, text, hstores⟩
  · rw [hmemories] at hcopy
    obtain ⟨n, flight, hleft⟩ := h process url copy hcopy
    exact ⟨n, flight, hleft.grows hmoves.grows (by rw [hkeeper])⟩
  · by_cases hhere : process = flight.process ∧ url = flight.url
    · obtain ⟨rfl, rfl⟩ := hhere
      cases hstores.get?_here.symm.trans hcopy
      exact ⟨n, landed, hstores.leftBy hmoves.grows⟩
    · rw [hstores.get?_other hhere] at hcopy
      obtain ⟨m, holder, hleft⟩ := h process url copy hcopy
      exact ⟨m, holder, hleft.grows hmoves.grows (hstores.keeper_other hhere)⟩

variable (cluster) in
theorem run_attributed (clock : Nat) (cache : κ) (events : List (Event ι)) :
    Attributed cluster (cluster.run { clock, cache } events) :=
  cluster.run_induction { clock, cache } events
    (fun process url copy hcopy => by simp [Table.get?] at hcopy)
    fun _ _ => Attributed.step

/-- What a run does to a copy: it stays there or is replaced, and one that takes its
place is that of a load that had not ended before. -/
structure Replaces (before after : Traffic ι κ) : Prop where
  grows : before.Grows after
  isSome : ∀ (process : ι) (url : Text), ((before.memories process).get? url).isSome →
    ((after.memories process).get? url).isSome
  keeper : ∀ (process : ι) (url : Text) (n : Nat), after.keeper process url = some n →
    before.keeper process url = some n ∨
      ∀ flight : Flight ι, before.flights[n]? = some flight → flight.hasEnded = false

omit [DecidableEq ι] in
theorem Replaces.refl (traffic : Traffic ι κ) : Replaces traffic traffic :=
  ⟨.refl traffic, fun _ _ h => h, fun _ _ _ h => .inl h⟩

theorem Replaces.step {before : Traffic ι κ} (h : Replaces before traffic)
    (hmoves : Moves cluster traffic after) : Replaces before after := by
  have hgrows := h.grows.trans hmoves.grows
  rcases hmoves.memories_cases with ⟨hmemories, hkeeper⟩ | ⟨n, flight, landed, text, hstores⟩
  · exact ⟨hgrows, hmemories ▸ h.isSome, hkeeper ▸ h.keeper⟩
  · refine ⟨hgrows, fun process url hsome => ?_, fun process url m hm => ?_⟩
    all_goals by_cases hhere : process = flight.process ∧ url = flight.url
    · obtain ⟨rfl, rfl⟩ := hhere
      rw [hstores.get?_here]
      rfl
    · rw [hstores.get?_other hhere]
      exact h.isSome process url hsome
    · obtain ⟨rfl, rfl⟩ := hhere
      cases hstores.keeper_here.symm.trans hm
      refine .inr fun earlier hearlier => ?_
      -- A load that was over would not be waiting now.
      obtain ⟨same, hsame, hcontinues⟩ := h.grows.flights n earlier hearlier
      cases hstores.waiting.symm.trans hsame
      by_contra hended
      rw [Bool.not_eq_false] at hended
      cases hcontinues.ended hended
      rw [hstores.opened] at hended
      contradiction
    · rw [hstores.keeper_other hhere] at hm
      exact h.keeper process url m hm

variable (cluster) in
theorem run_replaces (traffic : Traffic ι κ) (events : List (Event ι)) :
    Replaces traffic (cluster.run traffic events) :=
  cluster.run_induction traffic events (.refl traffic) fun _ _ hmoves h => h.step hmoves

/-- A copy is never lost, and where a run lowers its expiry, the lower one is that of a
load that was under way when the run began and had begun before the load whose copy was
in memory then. -/
theorem lowered_by_overtaken (cluster : Cluster ι κ) (clock : Nat) (cache : κ)
    (events more : List (Event ι)) (process : ι) (url : Text) (earlier : Copy)
    (hearlier : ((cluster.run { clock, cache } events).memories process).get? url =
      some earlier) :
    let before := cluster.run { clock, cache } events
    let after := cluster.run before more
    ∃ later m holder n slow, (after.memories process).get? url = some later ∧
      LeftBy cluster before process url earlier m holder ∧
      LeftBy cluster after process url later n slow ∧
      (later.expiresAt < earlier.expiresAt →
        slow.begun < holder.begun ∧
          ∃ waiting, before.flights[n]? = some waiting ∧ waiting.hasEnded = false) := by
  intro before after
  have hreplaces : Replaces before after := cluster.run_replaces before more
  obtain ⟨later, hlater⟩ := Option.isSome_iff_exists.1
    (hreplaces.isSome process url (by rw [hearlier]; rfl))
  obtain ⟨m, holder, hholder⟩ := cluster.run_attributed clock cache events process url _ hearlier
  have hafter : after = cluster.run { clock, cache } (events ++ more) :=
    List.foldl_append.symm
  obtain ⟨n, slow, hslow⟩ :=
    cluster.run_attributed clock cache (events ++ more) process url later (hafter ▸ hlater)
  rw [← hafter] at hslow
  refine ⟨later, m, holder, n, slow, hlater, hholder, hslow, fun hlowered => ?_⟩
  have hbegun : slow.begun < holder.begun := by
    by_contra hle
    have hmono := (cluster.loader process).expiry_mono (Nat.le_of_not_lt hle)
    rw [← hholder.expiry, ← hslow.expiry] at hmono
    omega
  refine ⟨hbegun, ?_⟩
  cases hwaiting : before.flights[n]? with
  | none =>
    -- A load that begins after that moment begins after the holder too.
    have hslowBegun := (hreplaces.grows.newer n slow hwaiting hslow.found).1
    have hholderBegun : holder.begun ≤ before.clock :=
      cluster.run_begun_le clock cache events hholder.found
    omega
  | some waiting =>
    refine ⟨waiting, rfl, ?_⟩
    rcases hreplaces.keeper process url n hslow.keeper with hsame | hopen
    · -- The copy of the holder itself has the expiry that it had.
      cases hholder.keeper.symm.trans hsame
      obtain ⟨later', hlater', hcontinues⟩ := hreplaces.grows.flights m holder hholder.found
      cases hlater'.symm.trans hslow.found
      rw [hcontinues.begun] at hbegun
      exact absurd hbegun (Nat.lt_irrefl _)
    · exact hopen waiting hwaiting

section SlowLoad

/-- One process on a platform without a cache, with copies that stay fresh for a minute. -/
def alone : Cluster Unit Unit where
  ttl := .ofSecs 60
  fetchTimeout _ := .ofSecs 30
  cache _ := { read := fun _ state => (none, state), write := fun _ state => (.returned, state) }

/-- The network answers a load with a text. -/
def answered (n : Nat) (text : Text) : Event Unit :=
  .reply n { result := .reply { status := 200, body := Utf8.encode text } }

/-- A load begins, and one that begins a second after it is answered first. -/
def overtaking : List (Event Unit) :=
  [.begin () "http://rules/", .read 0, .wait 1000, .begin () "http://rules/", .read 1,
    answered 1 "{ }"]

/-- The copy in the memory of the process after events. -/
def copyAfter (events : List (Event Unit)) : Option Copy :=
  ((alone.run { clock := 0, cache := () } events).memories ()).get? "http://rules/"

theorem copyAfter_overtaking :
    copyAfter overtaking = some { text := "{ }", expiresAt := 61000 } := by
  decide +kernel

theorem copyAfter_overtaken :
    copyAfter (overtaking ++ [answered 0 "{}"]) = some { text := "{}", expiresAt := 60000 } := by
  decide +kernel

/-- Expiries do get lower: a slow load puts its copy in the place of a newer one. -/
theorem slowLoad_lowers :
    ¬ ∀ (events more : List (Event Unit)) (earlier later : Copy),
      copyAfter events = some earlier → copyAfter (events ++ more) = some later →
        earlier.expiresAt ≤ later.expiresAt := by
  intro hmono
  have hle := hmono overtaking [answered 0 "{}"] _ _ copyAfter_overtaking copyAfter_overtaken
  exact absurd hle (by decide)

/-- The slow load had begun before the one whose copy it replaces. -/
theorem slowLoad_began_before :
    let before := alone.run { clock := 0, cache := () } overtaking
    let after := alone.run before [answered 0 "{}"]
    ∃ m holder n slow,
      LeftBy alone before () "http://rules/" { text := "{ }", expiresAt := 61000 } m holder ∧
      LeftBy alone after () "http://rules/" { text := "{}", expiresAt := 60000 } n slow ∧
      slow.begun < holder.begun := by
  intro before after
  obtain ⟨later, m, holder, n, slow, hlater, hholder, hslow, hlowered⟩ :=
    lowered_by_overtaken alone 0 () overtaking [answered 0 "{}"] () "http://rules/" _
      copyAfter_overtaking
  cases copyAfter_overtaken.symm.trans hlater
  exact ⟨m, holder, n, slow, hholder, hslow, (hlowered (by decide)).1⟩

end SlowLoad

end Cluster

end RuleGateway
