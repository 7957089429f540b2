import RuleGateway.Store.Load

/-!
# How a load ends

A load either obtains a text from the cache of the platform or from the network,
or it does not. What it makes of the copies in memory follows from that alone:
`Ends` lists the ways in which a load can end, and `load_ends` says that there is
no other. The definition of a load is taken apart only in the equations before
it, one for each place that a document can come from.
-/

namespace RuleGateway.Loader

theorem document?_eq_some_iff {text : Text} {document : RuleDocument} :
    document? text = some document ↔ RuleDocument.parse text = .ok document := by
  rw [document?]
  cases RuleDocument.parse text <;> simp [Except.toOption]

/-- Whether a text is a rule document. -/
def isDocument (text : Text) : Bool := (document? text).isSome

theorem isDocument_iff {text : Text} :
    isDocument text ↔ ∃ document, document? text = some document :=
  Option.isSome_iff_exists

/-- The text of a document in an answer that came in time and reports success. -/
def answerText? (loader : Loader) (answer : Answer) : Option Text :=
  (loader.replyText? answer).filter isDocument

variable {σ : Type}

/-- What the platform's cache reads as under a key, and the state after that. -/
def readCache (platform : Platform σ) (url : Text) (state : σ) : Option Bytes × σ :=
  match platform.cache with
  | none => (none, state)
  | some cache => cache.read url state

/-- The text of a document in the platform's cache. -/
def cacheText? (platform : Platform σ) (url : Text) (state : σ) : Option Text :=
  ((readCache platform url state).1.map Utf8.decodeLossy).filter isDocument

/-- The text of the document that a load obtains from the platform's cache or
from the network, none if it does not come to that or nothing valid is there. -/
def obtained? (loader : Loader) (platform : Platform σ) (url : Text) (memory : Memory)
    (state : σ) : Option Text :=
  if (fromMemory? memory url (platform.now state)).isSome then none
  else
    (cacheText? platform url state).or
      (loader.answerText? (platform.network (.get url) (readCache platform url state).2).1)

/-- How a load can end, given what it obtained: with a fresh copy, with the text
that it obtained and that it kept, with an old copy, or with nothing. A crash
leaves the copies as they would be without it. -/
inductive Ends (loader : Loader) (memory : Memory) (url : Text) (now : Nat) :
    Option Text → Loaded → Memory → Prop
  | fresh {document : RuleDocument} (h : fromMemory? memory url now = some document) :
    Ends loader memory url now none (.served document .memory) memory
  | obtained {text : Text} {document : RuleDocument} {source : Provenance}
      (hdocument : document? text = some document)
      (hsource : source = .cache ∨ source = .network) :
    Ends loader memory url now (some text) (.served document source)
      (loader.keep memory url now text)
  | crashedLater {text : Text} {document : RuleDocument}
      (hdocument : document? text = some document) :
    Ends loader memory url now (some text) .crashed (loader.keep memory url now text)
  | crashed : Ends loader memory url now none .crashed memory
  | stale {document : RuleDocument} (h : fromStale? memory url = some document) :
    Ends loader memory url now none (.served document .stale) memory
  | unavailable (h : fromStale? memory url = none) :
    Ends loader memory url now none .unavailable memory

namespace Ends

variable {loader : Loader} {memory after : Memory} {url text : Text} {now : Nat} {loaded : Loaded}

theorem of_some (h : Ends loader memory url now (some text) loaded after) :
    after = loader.keep memory url now text ∧ ∃ document, document? text = some document := by
  cases h with
  | obtained hdocument => exact ⟨rfl, _, hdocument⟩
  | crashedLater hdocument => exact ⟨rfl, _, hdocument⟩

theorem of_none (h : Ends loader memory url now none loaded after) : after = memory := by
  cases h <;> rfl

/-- A load that gives a document leaves a copy for its address. -/
theorem isSome_of_served {document : RuleDocument} {source : Provenance} {obtained : Option Text}
    (h : Ends loader memory url now obtained (.served document source) after) :
    (after.get? url).isSome := by
  cases h with
  | fresh hfresh =>
    obtain ⟨copy, hcopy, -⟩ := Option.bind_eq_some_iff.1 hfresh
    exact Option.isSome_of_eq_some (Option.filter_eq_some_iff.1 hcopy).1
  | obtained => simp [keep]
  | stale hstale =>
    obtain ⟨copy, hcopy, -⟩ := Option.bind_eq_some_iff.1 hstale
    exact Option.isSome_of_eq_some hcopy

/-- A load that neither crashes nor finds an old copy missing gives a document. -/
theorem served_of_stale {obtained : Option Text}
    (h : Ends loader memory url now obtained loaded after) (hcrashed : loaded ≠ .crashed)
    (hstale : (fromStale? memory url).isSome) :
    ∃ document source, loaded = .served document source := by
  cases h with
  | fresh | obtained | stale => exact ⟨_, _, rfl⟩
  | crashedLater | crashed => exact absurd rfl hcrashed
  | unavailable hnone => simp [hnone] at hstale

theorem fromStale?_of_stale {document : RuleDocument} {obtained : Option Text}
    (h : Ends loader memory url now obtained (.served document .stale) after) :
    fromStale? memory url = some document := by
  cases h with
  | obtained _ hsource => rcases hsource with h | h <;> cases h
  | stale hstale => exact hstale

/-- A document of the platform's cache or of the network is the one in the text
that was obtained. -/
theorem obtained_of_source {document : RuleDocument} {source : Provenance}
    {obtained : Option Text}
    (h : Ends loader memory url now obtained (.served document source) after)
    (hsource : source = .cache ∨ source = .network) :
    ∃ text, obtained = some text ∧ document? text = some document := by
  cases h with
  | fresh | stale => rcases hsource with h | h <;> cases h
  | obtained hdocument => exact ⟨_, rfl, hdocument⟩

end Ends

section Answer

variable {loader : Loader} {memory : Memory} {url text : Text} {now : Nat} {answer : Answer}

theorem fromAnswer?_of_text (memory : Memory) (url : Text) (now : Nat)
    (h : loader.answerText? answer = some text) :
    ∃ document, document? text = some document ∧
      loader.fromAnswer? memory url now answer =
        some (document, loader.keep memory url now text,
          { key := url, body := Utf8.encode text, ttl := loader.ttl }) := by
  obtain ⟨htext, hvalid⟩ := Option.filter_eq_some_iff.1 h
  obtain ⟨document, hdocument⟩ := isDocument_iff.1 hvalid
  refine ⟨document, hdocument, ?_⟩
  rw [fromAnswer?, htext]
  simp [hdocument]

theorem fromAnswer?_of_none (h : loader.answerText? answer = none) :
    loader.fromAnswer? memory url now answer = none := by
  rw [fromAnswer?]
  cases htext : loader.replyText? answer with
  | none => rfl
  | some text =>
    rw [answerText?, htext, Option.filter_eq_none_iff] at h
    have hnone : document? text = none := by simpa [isDocument] using h text rfl
    simp [hnone]

theorem answerText?_of_isCrash (h : loader.isCrash answer) : loader.answerText? answer = none := by
  have hcrash : answer.result = .crash := eq_of_beq (Bool.and_eq_true_iff.1 h).1
  rw [answerText?, replyText?, hcrash]
  split <;> rfl

end Answer

variable (loader : Loader) (platform : Platform σ) (url : Text) (memory : Memory) (state : σ)

theorem fetch_ends (now : Nat) :
    Ends loader memory url now (loader.answerText? (platform.network (.get url) state).1)
      (loader.fetch platform url now memory state).1
      (loader.fetch platform url now memory state).2.1 := by
  rw [fetch]
  generalize platform.network (.get url) state = answered
  obtain ⟨answer, after⟩ := answered
  by_cases hcrash : loader.isCrash answer
  · rw [answerText?_of_isCrash hcrash]
    simp only [if_pos hcrash]
    exact .crashed
  · simp only [if_neg hcrash]
    cases htext : loader.answerText? answer with
    | some text =>
      obtain ⟨document, hdocument, hanswer⟩ :=
        fromAnswer?_of_text memory url now htext
      simp only [hanswer]
      split
      · exact .obtained hdocument (.inr rfl)
      · exact .crashedLater hdocument
    | none =>
      simp only [fromAnswer?_of_none htext]
      cases hstale : fromStale? memory url with
      | some document => exact .stale hstale
      | none => exact .unavailable hstale

theorem load_of_fresh {document : RuleDocument}
    (h : fromMemory? memory url (platform.now state) = some document) :
    loader.load platform url memory state = (.served document .memory, memory, state) := by
  simp only [load, h]

theorem load_of_not_fresh (h : fromMemory? memory url (platform.now state) = none) :
    loader.load platform url memory state =
      loader.loadPastMemory platform url (platform.now state) memory state := by
  simp only [load, h]

/-- A document in the platform's cache is served, and the network is not asked. -/
theorem loadPastMemory_of_cached {text : Text} (now : Nat)
    (h : cacheText? platform url state = some text) :
    ∃ document, document? text = some document ∧
      loader.loadPastMemory platform url now memory state =
        (.served document .cache, loader.keep memory url now text,
          (readCache platform url state).2) := by
  obtain ⟨htext, hvalid⟩ := Option.filter_eq_some_iff.1 h
  obtain ⟨body, hbody, rfl⟩ := Option.map_eq_some_iff.1 htext
  obtain ⟨document, hdocument⟩ := isDocument_iff.1 hvalid
  refine ⟨document, hdocument, ?_⟩
  unfold readCache at hbody ⊢
  unfold loadPastMemory
  cases hcache : platform.cache with
  | none => simp [hcache] at hbody
  | some cache =>
    simp only [hcache] at hbody
    simp only [hbody, Option.bind_some, fromCache?, hdocument, Option.map_some]

/-- Without a document there, the network is asked. -/
theorem loadPastMemory_of_not_cached (now : Nat) (h : cacheText? platform url state = none) :
    loader.loadPastMemory platform url now memory state =
      loader.fetch platform url now memory (readCache platform url state).2 := by
  unfold cacheText? at h
  unfold readCache at h ⊢
  unfold loadPastMemory
  cases hcache : platform.cache with
  | none => rfl
  | some cache =>
    simp only [hcache] at h
    cases hbody : (cache.read url state).1 with
    | none => simp only [hbody, Option.bind_none]
    | some body =>
      rw [hbody, Option.map_some, Option.filter_eq_none_iff] at h
      have hnone : document? (Utf8.decodeLossy body) = none := by
        simpa [isDocument] using h _ rfl
      simp only [hbody, Option.bind_some, fromCache?, hnone, Option.map_none]

theorem load_ends :
    Ends loader memory url (platform.now state) (loader.obtained? platform url memory state)
      (loader.load platform url memory state).1 (loader.load platform url memory state).2.1 := by
  rw [obtained?]
  cases hfresh : fromMemory? memory url (platform.now state) with
  | some document =>
    rw [load_of_fresh loader platform url memory state hfresh]
    exact .fresh hfresh
  | none =>
    rw [load_of_not_fresh loader platform url memory state hfresh]
    cases hcached : cacheText? platform url state with
    | some text =>
      obtain ⟨document, hdocument, hload⟩ :=
        loadPastMemory_of_cached loader platform url memory state (platform.now state) hcached
      rw [hload]
      exact .obtained hdocument (.inl rfl)
    | none =>
      rw [loadPastMemory_of_not_cached loader platform url memory state (platform.now state)
        hcached]
      exact fetch_ends loader platform url memory (readCache platform url state).2
        (platform.now state)

end RuleGateway.Loader
