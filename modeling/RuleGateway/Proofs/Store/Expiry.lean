import RuleGateway.Gateway
import RuleGateway.Proofs.Store.Effects
import RuleGateway.Settings.Validation

/-!
# How long a copy is kept for

Valid settings have a time to live above zero, but no bound from above: it may be any
number of seconds of 64 bits, which is more milliseconds than 64 bits hold. What is added to
the clock is the time to live without its higher bits. So a copy is kept for the time that
the settings say exactly where that makes no difference, and `obtained_keptFor` says for each
copy, in both directions, whether it does.
-/

namespace RuleGateway

namespace Settings

variable {settings : Settings} {environment : Table Text}

/-- Valid settings keep copies for some time. -/
theorem cacheTtl_pos (h : settings.validate environment = .ok ()) :
    0 < settings.source.cacheTtl.millis := by
  rw [Nat.pos_iff_ne_zero]
  intro hzero
  have hisZero : settings.source.cacheTtl.isZero = true := by
    rw [Duration.isZero, hzero]
    rfl
  rw [validate, hisZero] at h
  cases haddress : settings.listenAddress with
  | error problem =>
    rw [haddress] at h
    cases h
  | ok address =>
    rw [haddress] at h
    cases h

/-- The instant up to which a copy is to stay fresh that is stored at an instant. The sum is
exact, but the clock has a last instant. -/
def freshUntil (settings : Settings) (now : Nat) : Nat :=
  min (now + settings.source.cacheTtl.millis) (Nat.pow 2 64 - 1)

/-- The higher bits of the time to live make no difference: there are none, or the clock is at
its end without them. -/
def Fits (settings : Settings) (now : Nat) : Prop :=
  settings.source.cacheTtl.millis < Nat.pow 2 64 ∨
    Nat.pow 2 64 - 1 ≤ now + settings.source.cacheTtl.millis % Nat.pow 2 64

end Settings

namespace Loader

variable {loader : Loader} {now : Nat}

/-- The exact sum is what the words of 64 bits give, if the higher bits make no difference. -/
theorem expiry_eq_iff :
    loader.expiry now = min (now + loader.ttl.millis) (clockEnd - 1) ↔
      loader.ttl.millis < clockEnd ∨ clockEnd - 1 ≤ now + loader.ttl.millis % clockEnd := by
  have hend : 0 < clockEnd := by decide
  have hmod : loader.ttl.millis % clockEnd < clockEnd := Nat.mod_lt _ hend
  have hle : loader.ttl.millis % clockEnd ≤ loader.ttl.millis := Nat.mod_le ..
  by_cases hfits : loader.ttl.millis < clockEnd
  · rw [expiry, Nat.mod_eq_of_lt hfits]
    exact iff_of_true rfl (.inl hfits)
  · rw [expiry]
    omega

/-- What is noted in a copy is never later than the exact sum. So the copy is fresh before that
all the time only if it is what is noted. -/
theorem forall_lt_expiry_iff :
    (∀ time, now ≤ time → time < min (now + loader.ttl.millis) (clockEnd - 1) →
        time < loader.expiry now) ↔
      loader.expiry now = min (now + loader.ttl.millis) (clockEnd - 1) := by
  have hmod : loader.ttl.millis % clockEnd ≤ loader.ttl.millis := Nat.mod_le ..
  constructor
  · intro hfresh
    have hlast := hfresh (loader.expiry now)
    rw [expiry] at hlast ⊢
    omega
  · intro hexact time _ htime
    rwa [hexact]

/-- A copy is fresh at the instant at which it is stored, if that is not the last one and some
bit of the time to live is left. -/
theorem lt_expiry_iff :
    now < loader.expiry now ↔ now < clockEnd - 1 ∧ loader.ttl.millis % clockEnd ≠ 0 := by
  rw [expiry]
  omega

variable {σ : Type} {platform : Platform σ} {url text : Text} {memory : Memory} {state : σ}

/-- A text that a load obtains is in memory after it. -/
theorem get?_of_obtained (h : loader.obtained? platform url memory state = some text) :
    (loader.load platform url memory state).2.1.get? url =
      some { text, expiresAt := loader.expiry (platform.now state) } := by
  have hends := loader.load_ends platform url memory state
  rw [h] at hends
  rw [hends.of_some.1, keep, Table.get?_set, if_pos rfl]

theorem exists_document_of_obtained (h : loader.obtained? platform url memory state = some text) :
    ∃ document, document? text = some document := by
  have hends := loader.load_ends platform url memory state
  rw [h] at hends
  exact hends.of_some.2

/-- A load is served from memory, if there is a copy of a document and it is fresh. -/
theorem load_served_memory_iff {copy : Copy} {document : RuleDocument}
    (hcopy : memory.get? url = some copy) (hdocument : document? copy.text = some document) :
    (loader.load platform url memory state).1 = .served document .memory ↔
      platform.now state < copy.expiresAt := by
  constructor
  · intro hserved
    have hfresh := fromMemory?_of_memory loader platform url memory state hserved
    obtain ⟨found, hfound, -⟩ := Option.bind_eq_some_iff.1 hfresh
    obtain ⟨hget, halive⟩ := Option.filter_eq_some_iff.1 hfound
    cases hcopy.symm.trans hget
    exact of_decide_eq_true halive
  · intro halive
    have hkept : memory.fresh? url (platform.now state) = some copy :=
      Option.filter_eq_some_iff.2 ⟨hcopy, decide_eq_true halive⟩
    have hfresh : fromMemory? memory url (platform.now state) = some document :=
      Option.bind_eq_some_iff.2 ⟨copy, hkept, hdocument⟩
    rw [load_of_fresh loader platform url memory state hfresh]

end Loader

namespace Settings

variable {settings : Settings} {environment : Table Text} {url text : Text} {memory : Memory}
  {now : Nat}

theorem expiry_eq_freshUntil_iff :
    (Gateway.ofSettings settings environment).loader.expiry now = settings.freshUntil now ↔
      settings.Fits now :=
  Loader.expiry_eq_iff

/-- With a time to live above zero, some bits of it are left if it has no higher ones. -/
theorem lt_expiry_iff_of_valid (hvalid : settings.validate environment = .ok ()) :
    now < (Gateway.ofSettings settings environment).loader.expiry now ↔
      now < Nat.pow 2 64 - 1 ∧
        (settings.source.cacheTtl.millis < Nat.pow 2 64 ∨
          settings.source.cacheTtl.millis % Nat.pow 2 64 ≠ 0) := by
  have hpos : 0 < settings.source.cacheTtl.millis := cacheTtl_pos hvalid
  refine Loader.lt_expiry_iff.trans (and_congr_right' ⟨.inr, ?_⟩)
  rintro (hfits | hleft)
  · have hmod : settings.source.cacheTtl.millis % Nat.pow 2 64 = settings.source.cacheTtl.millis :=
      Nat.mod_eq_of_lt hfits
    intro hzero
    exact Nat.ne_of_gt hpos (hmod.symm.trans hzero)
  · exact hleft

/-- What a copy is kept for that was stored at an instant, with valid settings: up to the
exact instant, or fresh at all instants before that, if and only if the higher bits of the
time to live make no difference. A load at the same instant is served from it if the instant
is not the last one and the time to live has no higher bits or some others besides. -/
structure KeptFor (settings : Settings) (environment : Table Text) (url text : Text)
    (memory : Memory) (now : Nat) : Prop where
  stored : ∃ copy, memory.get? url = some copy ∧ copy.text = text ∧
    copy.expiresAt = min (now + settings.source.cacheTtl.millis % Nat.pow 2 64) (Nat.pow 2 64 - 1)
  exact_iff : (∃ copy, memory.get? url = some copy ∧
      copy.expiresAt = settings.freshUntil now) ↔ settings.Fits now
  fresh_iff : (∃ copy, memory.get? url = some copy ∧
      ∀ time, now ≤ time → time < settings.freshUntil now → copy.isFresh time) ↔
    settings.Fits now
  served_iff : ∀ {τ : Type} (next : Platform τ) (later : τ), next.now later = now →
    ((∃ document, Loader.document? text = some document ∧
        ((Gateway.ofSettings settings environment).loader.load next url memory later).1 =
          .served document .memory) ↔
      now < Nat.pow 2 64 - 1 ∧
        (settings.source.cacheTtl.millis < Nat.pow 2 64 ∨
          settings.source.cacheTtl.millis % Nat.pow 2 64 ≠ 0))

/-- Whatever a load with valid settings obtained and stored is kept for its time to live
without the higher bits of that. -/
theorem obtained_keptFor {σ : Type} {platform : Platform σ} {state : σ}
    (hvalid : settings.validate environment = .ok ())
    (hobtained : (Gateway.ofSettings settings environment).loader.obtained? platform url memory
      state = some text) :
    KeptFor settings environment url text
      ((Gateway.ofSettings settings environment).loader.load platform url memory state).2.1
      (platform.now state) := by
  have hcopy := Loader.get?_of_obtained hobtained
  obtain ⟨document, hdocument⟩ := Loader.exists_document_of_obtained hobtained
  have hexists {p : Copy → Prop} :
      (∃ copy, ((Gateway.ofSettings settings environment).loader.load platform url memory
          state).2.1.get? url = some copy ∧ p copy) ↔
        p { text, expiresAt :=
          (Gateway.ofSettings settings environment).loader.expiry (platform.now state) } := by
    rw [hcopy]
    simp only [Option.some.injEq, exists_eq_left']
  constructor
  case stored => exact ⟨_, hcopy, rfl, rfl⟩
  case exact_iff => exact hexists.trans expiry_eq_freshUntil_iff
  case fresh_iff =>
    refine hexists.trans ?_
    simp only [Copy.isFresh, decide_eq_true_eq]
    exact Loader.forall_lt_expiry_iff.trans expiry_eq_freshUntil_iff
  case served_iff =>
    intro τ next later hnow
    rw [← lt_expiry_iff_of_valid hvalid, hdocument]
    simp only [Option.some.injEq, exists_eq_left']
    refine (Loader.load_served_memory_iff hcopy hdocument).trans ?_
    rw [hnow]

end Settings

/-- Settings with a time to live. -/
def Settings.withTtl (ttl : Duration) : Settings :=
  { source := { url := some "http://[::1]/".toList, cacheTtl := ttl } }

/-- A platform on which it stays the first instant and every fetch gives an empty document. -/
def Platform.emptyRules : Platform Unit where
  now := fun _ => 0
  network := fun _ state =>
    ({ result := .reply { status := 200, body := Utf8.encode "\x7b\x7d".toList } }, state)

theorem Settings.minute_keptFor :
    (withTtl (.ofSecs 60)).validate [] = .ok () ∧
      (Gateway.ofSettings (withTtl (.ofSecs 60)) []).loader.obtained? .emptyRules
        "http://[::1]/".toList [] () = some "\x7b\x7d".toList ∧
      KeptFor (withTtl (.ofSecs 60)) [] "http://[::1]/".toList "\x7b\x7d".toList
        [("http://[::1]/".toList, ⟨"\x7b\x7d".toList, 60000⟩)] 0 := by
  have hvalid : (withTtl (.ofSecs 60)).validate [] = .ok () := rfl
  have hobtained : (Gateway.ofSettings (withTtl (.ofSecs 60)) []).loader.obtained? .emptyRules
      "http://[::1]/".toList [] () = some "\x7b\x7d".toList := by
    decide
  have hmemory : ((Gateway.ofSettings (withTtl (.ofSecs 60)) []).loader.load .emptyRules
      "http://[::1]/".toList [] ()).2.1 =
        [("http://[::1]/".toList, ⟨"\x7b\x7d".toList, 60000⟩)] := by
    decide
  refine ⟨hvalid, hobtained, ?_⟩
  rw [← hmemory]
  exact obtained_keptFor hvalid hobtained

/-- Two to the power of 61 seconds are 125 times two to the power of 64 milliseconds, of which
no lower bit is set: the copy is never fresh. -/
theorem Settings.longTtl_never_fresh :
    (withTtl (.ofSecs (Nat.pow 2 61))).validate [] = .ok () ∧
      (withTtl (.ofSecs (Nat.pow 2 61))).freshUntil 0 = Nat.pow 2 64 - 1 ∧
      ((Gateway.ofSettings (withTtl (.ofSecs (Nat.pow 2 61))) []).loader.load .emptyRules
        "http://[::1]/".toList [] ()).2.1 =
          [("http://[::1]/".toList, ⟨"\x7b\x7d".toList, 0⟩)] ∧
      ((Gateway.ofSettings (withTtl (.ofSecs (Nat.pow 2 61))) []).loader.load .emptyRules
        "http://[::1]/".toList [("http://[::1]/".toList, ⟨"\x7b\x7d".toList, 0⟩)]
          ()).1.measurements = [.documentLoad (some .network)] := by
  exact ⟨rfl, by decide, by decide, by decide⟩

end RuleGateway
