import RuleGateway.Proofs.Store.Load

/-!
# The effects of a load

A platform that keeps a journal notes every look-up in its cache, every request
with its answer and every write, and is the same platform for a load. What a
load did can then be read off: `Course` lists the courses that a load can take,
one for each source that it can report, with the copies it leaves in memory and
what the platform was asked for. `load_accounted` says that every load takes one
of them, and that how writes end makes no difference to a load that gives a
document.
-/

namespace RuleGateway

variable {σ : Type}

/-- What a platform is asked for, and what came of it. -/
inductive Effect where
  | read (key : Text) (body : Option Bytes)
  | fetch (request : Outbound) (answer : Answer)
  | write (write : CacheWrite) (ending : WriteEnd)
  deriving DecidableEq, Repr

/-- Effects in the order in which they came about. -/
abbrev Journal := List Effect

/-- The cache of a platform that keeps a journal. -/
def PlatformCache.journaled (cache : PlatformCache σ) : PlatformCache (σ × Journal) where
  read key state :=
    let (body, next) := cache.read key state.1
    (body, (next, state.2 ++ [.read key body]))
  write write state :=
    let (ending, next) := cache.write write state.1
    (ending, (next, state.2 ++ [.write write ending]))

/-- The platform with a journal. -/
def Platform.journaled (platform : Platform σ) : Platform (σ × Journal) where
  now state := platform.now state.1
  network request state :=
    let (answer, next) := platform.network request state.1
    (answer, (next, state.2 ++ [.fetch request answer]))
  cache := platform.cache.map PlatformCache.journaled

/-- The platform with another way of taking writes. -/
def Platform.withWrite (platform : Platform σ) (write : CacheWrite → σ → WriteEnd × σ) :
    Platform σ :=
  { platform with cache := platform.cache.map fun cache => { cache with write } }

/-- What was done without a journal, with the effects that it adds to an earlier
one. -/
def Journal.adding {α β : Type} (added earlier : Journal) (done : α × β × σ) :
    α × β × (σ × Journal) :=
  (done.1, done.2.1, (done.2.2, earlier ++ added))

namespace Loader

/-- The answer came in time, reports success and holds a text that is a
document. -/
def Obtains (loader : Loader) (answer : Answer) (text : Text) (document : RuleDocument) : Prop :=
  answer.delay ≤ loader.fetchTimeout.millis ∧
    ∃ reply, answer.result = .reply reply ∧ 200 ≤ reply.status ∧ reply.status < 300 ∧
      text = Utf8.decodeLossy reply.body ∧ RuleDocument.parse text = .ok document

/-- The write that keeps a text in the platform's cache. -/
def writeOf (loader : Loader) (url text : Text) : CacheWrite :=
  { key := url, body := Utf8.encode text, ttl := loader.ttl }

/-- How a write to the platform's cache ends, and the state after that. Without a
cache there is nothing to wait for. -/
def writeCache (platform : Platform σ) (write : CacheWrite) (state : σ) : WriteEnd × σ :=
  match platform.cache with
  | none => (.returned, state)
  | some cache => cache.write write state

/-- What comes of a document from the network when the write of it has ended. -/
def delivered (document : RuleDocument) : WriteEnd → Loaded
  | .returned => .served document .network
  | .crashed => .crashed

/-- The look-up in the platform's cache, if there is one. -/
def lookups (platform : Platform σ) (url : Text) (state : σ) : Journal :=
  platform.cache.toList.map fun cache => .read url (cache.read url state).1

/-- The write to the platform's cache, if there is one. -/
def writes (platform : Platform σ) (write : CacheWrite) (ending : WriteEnd) : Journal :=
  platform.cache.toList.map fun _ => .write write ending

section Fetch

variable {loader : Loader} {platform : Platform σ} {url text : Text} {memory : Memory}
variable {state after last : σ} {answer : Answer} {document : RuleDocument} {ending : WriteEnd}

theorem obtains_iff :
    loader.Obtains answer text document ↔
      loader.answerText? answer = some text ∧ document? text = some document := by
  have hparse (text : Text) :
      document? text = some document ↔ RuleDocument.parse text = .ok document :=
    document?_eq_some_iff
  unfold Obtains answerText?
  rw [Option.filter_eq_some_iff, hparse]
  constructor
  · rintro ⟨htime, reply, hresult, hlow, hhigh, htext, hdocument⟩
    refine ⟨⟨?_, isDocument_iff.2 ⟨document, (hparse text).2 hdocument⟩⟩, hdocument⟩
    simp only [replyText?, if_neg (Nat.not_lt.2 htime), hresult, if_pos (And.intro hlow hhigh),
      htext]
  · rintro ⟨⟨htext, -⟩, hdocument⟩
    rw [replyText?] at htext
    split at htext
    · contradiction
    · rename_i htime
      split at htext
      · rename_i reply hresult
        obtain ⟨hstatus, htext⟩ := Option.ite_none_right_eq_some.1 htext
        cases htext
        exact ⟨Nat.not_lt.1 htime, reply, hresult, hstatus.1, hstatus.2, rfl, hdocument⟩
      · contradiction

theorem not_obtains_of_none (h : loader.answerText? answer = none) (text : Text)
    (document : RuleDocument) : ¬ loader.Obtains answer text document := by
  intro hobtains
  rw [(obtains_iff.1 hobtains).1] at h
  contradiction

variable (now : Nat) (hanswer : platform.network (.get url) state = (answer, after))

include hanswer

theorem fetch_of_crash (h : loader.isCrash answer) :
    loader.fetch platform url now memory state = (.crashed, memory, after) := by
  simp only [fetch, hanswer, if_pos h]

/-- A document from the network is kept, and a cache of the platform is written
to. -/
theorem fetch_of_obtains (h : loader.Obtains answer text document)
    (hwrite : writeCache platform (loader.writeOf url text) after = (ending, last)) :
    loader.fetch platform url now memory state =
      (delivered document ending, loader.keep memory url now text, last) := by
  obtain ⟨htext, hdocument⟩ := obtains_iff.1 h
  obtain ⟨same, hsame, hfrom⟩ := fromAnswer?_of_text memory url now htext
  cases hdocument.symm.trans hsame
  have hcrash : ¬ loader.isCrash answer := by
    intro hcrash
    rw [answerText?_of_isCrash hcrash] at htext
    contradiction
  simp only [fetch, hanswer, if_neg hcrash, hfrom]
  unfold writeCache at hwrite
  cases hcache : platform.cache with
  | none =>
    simp only [hcache, Prod.mk.injEq] at hwrite
    obtain ⟨rfl, rfl⟩ := hwrite
    rfl
  | some cache =>
    simp only [hcache, writeOf] at hwrite
    simp only [hwrite]
    cases ending <;> rfl

/-- Without a document from the network an old copy is taken, if there is one. -/
theorem fetch_of_failed (hcrash : ¬ loader.isCrash answer)
    (h : loader.answerText? answer = none) :
    loader.fetch platform url now memory state =
      (match fromStale? memory url with
        | some document => .served document .stale
        | none => .unavailable,
        memory, after) := by
  simp only [fetch, hanswer, if_neg hcrash, fromAnswer?_of_none h]
  cases fromStale? memory url <;> rfl

end Fetch

section Journaled

variable (platform : Platform σ) (url : Text) (state : σ) (earlier : Journal)

theorem readCache_journaled :
    readCache platform.journaled url (state, earlier) =
      ((readCache platform url state).1,
        ((readCache platform url state).2, earlier ++ lookups platform url state)) := by
  unfold readCache lookups Platform.journaled
  cases platform.cache with
  | none => simp
  | some cache => rfl

theorem writeCache_journaled (write : CacheWrite) :
    writeCache platform.journaled write (state, earlier) =
      let (ending, last) := writeCache platform write state
      (ending, (last, earlier ++ writes platform write ending)) := by
  unfold writeCache writes Platform.journaled
  cases platform.cache with
  | none => simp
  | some cache => rfl

theorem cacheText?_journaled :
    cacheText? platform.journaled url (state, earlier) = cacheText? platform url state := by
  rw [cacheText?, readCache_journaled, cacheText?]

/-- A document in the platform's cache was looked up there. -/
theorem lookups_of_cached {platform : Platform σ} {url text : Text} {state : σ}
    (h : cacheText? platform url state = some text) :
    ∃ body, lookups platform url state = [.read url (some body)] ∧
      text = Utf8.decodeLossy body := by
  obtain ⟨htext, -⟩ := Option.filter_eq_some_iff.1 h
  obtain ⟨body, hbody, rfl⟩ := Option.map_eq_some_iff.1 htext
  refine ⟨body, ?_, rfl⟩
  unfold readCache at hbody
  unfold lookups
  cases hcache : platform.cache with
  | none => simp [hcache] at hbody
  | some cache => simpa [hcache] using hbody

end Journaled

/-- The courses that a load can take: the source that it reports, the copies that
it leaves, and what it asked the platform for. A crash is the only other end. -/
inductive Course (loader : Loader) (platform : Platform σ) (url : Text) (memory : Memory)
    (state : σ) : Loaded → Memory → Journal → Prop
  | memory {copy : Copy} {document : RuleDocument} (hcopy : memory.get? url = some copy)
      (hfresh : platform.now state < copy.expiresAt)
      (hdocument : RuleDocument.parse copy.text = .ok document) :
    Course loader platform url memory state (.served document .memory) memory []
  | cache {body : Bytes} {document : RuleDocument}
      (hlookup : lookups platform url state = [.read url (some body)])
      (hdocument : RuleDocument.parse (Utf8.decodeLossy body) = .ok document) :
    Course loader platform url memory state (.served document .cache)
      (memory.set url
        { text := Utf8.decodeLossy body, expiresAt := loader.expiry (platform.now state) })
      [.read url (some body)]
  | network {answer : Answer} {text : Text} {document : RuleDocument}
      (hanswer : loader.Obtains answer text document) :
    Course loader platform url memory state (.served document .network)
      (memory.set url { text, expiresAt := loader.expiry (platform.now state) })
      (lookups platform url state ++
        .fetch (.get url) answer :: writes platform (loader.writeOf url text) .returned)
  | stale {answer : Answer} {copy : Copy} {document : RuleDocument}
      (hanswer : ∀ text document, ¬ loader.Obtains answer text document)
      (hcopy : memory.get? url = some copy)
      (hdocument : RuleDocument.parse copy.text = .ok document) :
    Course loader platform url memory state (.served document .stale) memory
      (lookups platform url state ++ [.fetch (.get url) answer])
  | unavailable {answer : Answer}
      (hanswer : ∀ text document, ¬ loader.Obtains answer text document)
      (hcopy : ∀ copy, memory.get? url = some copy →
        ∀ document, RuleDocument.parse copy.text ≠ .ok document) :
    Course loader platform url memory state .unavailable memory
      (lookups platform url state ++ [.fetch (.get url) answer])
  | crashed {answer : Answer} (hanswer : answer.result = .crash) :
    Course loader platform url memory state .crashed memory
      (lookups platform url state ++ [.fetch (.get url) answer])
  | crashedLater {answer : Answer} {text : Text} {document : RuleDocument}
      (hanswer : loader.Obtains answer text document) :
    Course loader platform url memory state .crashed
      (memory.set url { text, expiresAt := loader.expiry (platform.now state) })
      (lookups platform url state ++
        .fetch (.get url) answer :: writes platform (loader.writeOf url text) .crashed)

variable (loader : Loader) (platform : Platform σ) (url : Text) (memory : Memory) (state : σ)

/-- A load that comes to the network takes the course that the answer leaves. -/
theorem fetch_course (reached : σ) :
    ∃ added,
      Course loader platform url memory state
        (loader.fetch platform url (platform.now state) memory reached).1
        (loader.fetch platform url (platform.now state) memory reached).2.1
        (lookups platform url state ++ added) ∧
      ∀ earlier,
        loader.fetch platform.journaled url (platform.now state) memory (reached, earlier) =
          added.adding earlier
            (loader.fetch platform url (platform.now state) memory reached) := by
  obtain ⟨answer, after, hanswer⟩ :
      ∃ answer after, platform.network (.get url) reached = (answer, after) := ⟨_, _, rfl⟩
  have hnoted (earlier : Journal) : platform.journaled.network (.get url) (reached, earlier) =
      (answer, (after, earlier ++ [.fetch (.get url) answer])) := by
    simp only [Platform.journaled, hanswer]
  by_cases hcrash : loader.isCrash answer
  · refine ⟨[.fetch (.get url) answer], ?_, fun earlier => ?_⟩
    · rw [fetch_of_crash _ hanswer hcrash]
      exact .crashed (eq_of_beq (Bool.and_eq_true_iff.1 hcrash).1)
    · rw [fetch_of_crash _ hanswer hcrash, fetch_of_crash _ (hnoted earlier) hcrash]
      rfl
  cases htext : loader.answerText? answer with
  | none =>
    have hfailed := not_obtains_of_none htext
    refine ⟨[.fetch (.get url) answer], ?_, fun earlier => ?_⟩
    · rw [fetch_of_failed _ hanswer hcrash htext]
      cases hstale : fromStale? memory url with
      | some document =>
        obtain ⟨copy, hcopy, hdocument⟩ := Option.bind_eq_some_iff.1 hstale
        exact .stale hfailed hcopy (document?_eq_some_iff.1 hdocument)
      | none =>
        refine .unavailable hfailed fun copy hcopy document hdocument => ?_
        rw [fromStale?, hcopy, Option.bind_some, document?_eq_some_iff.2 hdocument] at hstale
        contradiction
    · rw [fetch_of_failed _ hanswer hcrash htext, fetch_of_failed _ (hnoted earlier) hcrash htext]
      rfl
  | some text =>
    obtain ⟨document, hdocument, -⟩ := fromAnswer?_of_text memory url 0 htext
    have hobtains : loader.Obtains answer text document := obtains_iff.2 ⟨htext, hdocument⟩
    obtain ⟨ending, last, hwrite⟩ : ∃ ending last,
        writeCache platform (loader.writeOf url text) after = (ending, last) := ⟨_, _, rfl⟩
    refine ⟨.fetch (.get url) answer :: writes platform (loader.writeOf url text) ending, ?_,
      fun earlier => ?_⟩
    · rw [fetch_of_obtains _ hanswer hobtains hwrite]
      cases ending with
      | returned => exact .network hobtains
      | crashed => exact .crashedLater hobtains
    · have hwritten := writeCache_journaled platform after
        (earlier ++ [.fetch (.get url) answer]) (loader.writeOf url text)
      rw [hwrite] at hwritten
      rw [fetch_of_obtains _ hanswer hobtains hwrite,
        fetch_of_obtains _ (hnoted earlier) hobtains hwritten]
      simp [Journal.adding]

/-- A load takes one of the courses, and a journal changes nothing about it. -/
theorem load_course :
    ∃ journal,
      Course loader platform url memory state (loader.load platform url memory state).1
        (loader.load platform url memory state).2.1 journal ∧
      ∀ earlier,
        loader.load platform.journaled url memory (state, earlier) =
          journal.adding earlier (loader.load platform url memory state) := by
  cases hfresh : fromMemory? memory url (platform.now state) with
  | some document =>
    have hload := load_of_fresh loader platform url memory state hfresh
    refine ⟨[], ?_, fun earlier => ?_⟩
    · rw [hload]
      obtain ⟨copy, hcopy, hdocument⟩ := Option.bind_eq_some_iff.1 hfresh
      obtain ⟨hcopy, hexpiry⟩ := Option.filter_eq_some_iff.1 hcopy
      exact .memory hcopy (of_decide_eq_true hexpiry) (document?_eq_some_iff.1 hdocument)
    · rw [hload, load_of_fresh loader platform.journaled url memory (state, earlier) hfresh]
      simp [Journal.adding]
  | none =>
    have hload := load_of_not_fresh loader platform url memory state hfresh
    have hnoted (earlier : Journal) :=
      load_of_not_fresh loader platform.journaled url memory (state, earlier) hfresh
    have hcache := cacheText?_journaled platform url state
    cases hcached : cacheText? platform url state with
    | some text =>
      obtain ⟨document, hdocument, hpast⟩ :=
        loadPastMemory_of_cached loader platform url memory state (platform.now state) hcached
      obtain ⟨body, hlookup, rfl⟩ := lookups_of_cached hcached
      refine ⟨[.read url (some body)], ?_, fun earlier => ?_⟩
      · rw [hload, hpast]
        exact .cache hlookup (document?_eq_some_iff.1 hdocument)
      · obtain ⟨same, hsame, hpast'⟩ :=
          loadPastMemory_of_cached loader platform.journaled url memory (state, earlier)
            (platform.now state) ((hcache earlier).trans hcached)
        cases hdocument.symm.trans hsame
        rw [hload, hpast, hnoted]
        refine hpast'.trans ?_
        rw [readCache_journaled, hlookup]
        rfl
    | none =>
      obtain ⟨added, hcourse, hadded⟩ := fetch_course loader platform url memory state
        (readCache platform url state).2
      have hpast := loadPastMemory_of_not_cached loader platform url memory state
        (platform.now state) hcached
      refine ⟨lookups platform url state ++ added, ?_, fun earlier => ?_⟩
      · rw [hload, hpast]
        exact hcourse
      · rw [hload, hpast, hnoted]
        refine (loadPastMemory_of_not_cached loader platform.journaled url memory (state, earlier)
          _ ((hcache earlier).trans hcached)).trans ?_
        rw [readCache_journaled]
        refine (hadded _).trans ?_
        simp [Journal.adding]

namespace Course

variable {loader platform url memory state}
variable {loaded : Loaded} {after : Memory} {journal : Journal}

/-- No course touches the copies of other addresses. -/
theorem get?_other (h : Course loader platform url memory state loaded after journal)
    {other : Text} (hother : other ≠ url) : after.get? other = memory.get? other := by
  cases h with
  | memory | stale | unavailable | crashed => rfl
  | cache | network | crashedLater => rw [Table.get?_set, if_neg hother.symm]

/-- A document of the platform's cache or of the network is the one in the copy
that is left. -/
theorem exists_copy {document : RuleDocument} {source : Provenance}
    (h : Course loader platform url memory state (.served document source) after journal)
    (hsource : source = .cache ∨ source = .network) :
    ∃ copy, after.get? url = some copy ∧
      copy.expiresAt = loader.expiry (platform.now state) ∧
      RuleDocument.parse copy.text = .ok document := by
  cases h with
  | memory | stale => rcases hsource with hsource | hsource <;> contradiction
  | cache hlookup hdocument =>
    exact ⟨_, (Table.get?_set ..).trans (if_pos rfl), rfl, hdocument⟩
  | network hanswer =>
    obtain ⟨-, -, -, -, -, -, hdocument⟩ := hanswer
    exact ⟨_, (Table.get?_set ..).trans (if_pos rfl), rfl, hdocument⟩

end Course

section WithWrite

variable {loader platform url memory state}
variable {write : CacheWrite → σ → WriteEnd × σ}

theorem readCache_withWrite :
    readCache (platform.withWrite write) url state = readCache platform url state := by
  unfold readCache Platform.withWrite
  cases platform.cache <;> rfl

theorem cacheText?_withWrite :
    cacheText? (platform.withWrite write) url state = cacheText? platform url state := by
  rw [cacheText?, readCache_withWrite, cacheText?]

variable (hwrite : ∀ asked before, (write asked before).1 = .returned)

include hwrite

theorem exists_writeCache_withWrite (asked : CacheWrite) :
    ∃ last, writeCache (platform.withWrite write) asked state = (.returned, last) := by
  unfold writeCache Platform.withWrite
  cases platform.cache with
  | none => exact ⟨_, rfl⟩
  | some cache => exact ⟨_, Prod.ext (hwrite asked state) rfl⟩

/-- From the network on, a document that is given is given with any other writes
that end. -/
theorem fetch_withWrite {now : Nat} {document : RuleDocument} {source : Provenance}
    (hserved : (loader.fetch platform url now memory state).1 = .served document source) :
    (loader.fetch (platform.withWrite write) url now memory state).1 = .served document source ∧
      (loader.fetch (platform.withWrite write) url now memory state).2.1 =
        (loader.fetch platform url now memory state).2.1 := by
  obtain ⟨answer, after, hanswer⟩ :
      ∃ answer after, platform.network (.get url) state = (answer, after) := ⟨_, _, rfl⟩
  have hsame : (platform.withWrite write).network (.get url) state = (answer, after) := hanswer
  by_cases hcrash : loader.isCrash answer
  · rw [fetch_of_crash _ hanswer hcrash] at hserved
    contradiction
  cases htext : loader.answerText? answer with
  | none =>
    rw [fetch_of_failed _ hanswer hcrash htext] at hserved ⊢
    rw [fetch_of_failed _ hsame hcrash htext]
    exact ⟨hserved, rfl⟩
  | some text =>
    obtain ⟨found, hfound, -⟩ := fromAnswer?_of_text memory url 0 htext
    have hobtains : loader.Obtains answer text found := obtains_iff.2 ⟨htext, hfound⟩
    obtain ⟨ending, last, hended⟩ : ∃ ending last,
        writeCache platform (loader.writeOf url text) after = (ending, last) := ⟨_, _, rfl⟩
    obtain ⟨last', hended'⟩ : ∃ last,
        writeCache (platform.withWrite write) (loader.writeOf url text) after = (.returned, last) :=
      exists_writeCache_withWrite hwrite (loader.writeOf url text)
    rw [fetch_of_obtains _ hanswer hobtains hended] at hserved ⊢
    rw [fetch_of_obtains _ hsame hobtains hended']
    cases ending with
    | returned => exact ⟨hserved, rfl⟩
    | crashed => contradiction

/-- How writes end makes no difference to a load that gives a document. -/
theorem load_withWrite {document : RuleDocument} {source : Provenance}
    (hserved : (loader.load platform url memory state).1 = .served document source) :
    (loader.load (platform.withWrite write) url memory state).1 = .served document source ∧
      (loader.load (platform.withWrite write) url memory state).2.1 =
        (loader.load platform url memory state).2.1 := by
  have hcache : cacheText? (platform.withWrite write) url state = cacheText? platform url state :=
    cacheText?_withWrite
  cases hfresh : fromMemory? memory url (platform.now state) with
  | some found =>
    rw [load_of_fresh loader platform url memory state hfresh] at hserved ⊢
    rw [load_of_fresh loader (platform.withWrite write) url memory state hfresh]
    exact ⟨hserved, rfl⟩
  | none =>
    rw [load_of_not_fresh loader platform url memory state hfresh] at hserved ⊢
    rw [load_of_not_fresh loader (platform.withWrite write) url memory state hfresh]
    cases hcached : cacheText? platform url state with
    | some text =>
      obtain ⟨found, hfound, hpast⟩ :=
        loadPastMemory_of_cached loader platform url memory state (platform.now state) hcached
      obtain ⟨same, hsame, hpast'⟩ := loadPastMemory_of_cached loader (platform.withWrite write)
        url memory state ((platform.withWrite write).now state) (hcache.trans hcached)
      cases hfound.symm.trans hsame
      rw [hpast] at hserved ⊢
      rw [hpast']
      exact ⟨hserved, rfl⟩
    | none =>
      rw [loadPastMemory_of_not_cached loader platform url memory state _ hcached] at hserved ⊢
      rw [loadPastMemory_of_not_cached loader (platform.withWrite write) url memory state _
        (hcache.trans hcached), readCache_withWrite]
      exact fetch_withWrite hwrite hserved

end WithWrite

/-- What a load accounts for: it takes one of the courses, with exactly the
effects of it in the journal; a document from memory leaves the platform as it
is; the copies of other addresses stay; a document obtained anew is the one in the
copy that is kept from now on; and no write that ends, well or not, changes the
document, its source or the copies. -/
structure Accounted (loader : Loader) (platform : Platform σ) (url : Text) (memory : Memory)
    (state : σ) : Prop where
  course : ∃ journal,
    Course loader platform url memory state (loader.load platform url memory state).1
      (loader.load platform url memory state).2.1 journal ∧
    ∀ earlier,
      loader.load platform.journaled url memory (state, earlier) =
        journal.adding earlier (loader.load platform url memory state)
  untouched : ∀ document,
    (loader.load platform url memory state).1 = .served document .memory →
    (loader.load platform url memory state).2 = (memory, state)
  others : ∀ other, other ≠ url →
    (loader.load platform url memory state).2.1.get? other = memory.get? other
  stored : ∀ document source, source = .cache ∨ source = .network →
    (loader.load platform url memory state).1 = .served document source →
    ∃ copy, (loader.load platform url memory state).2.1.get? url = some copy ∧
      copy.expiresAt = loader.expiry (platform.now state) ∧
      RuleDocument.parse copy.text = .ok document
  writes_free : ∀ document source write,
    (loader.load platform url memory state).1 = .served document source →
    (∀ asked before, (write asked before).1 = .returned) →
    (loader.load (platform.withWrite write) url memory state).1 = .served document source ∧
      (loader.load (platform.withWrite write) url memory state).2.1 =
        (loader.load platform url memory state).2.1

/-- A document that is reported as fresh from memory was found there. -/
theorem fromMemory?_of_memory {document : RuleDocument}
    (h : (loader.load platform url memory state).1 = .served document .memory) :
    fromMemory? memory url (platform.now state) = some document := by
  obtain ⟨journal, hcourse, -⟩ := load_course loader platform url memory state
  rw [h] at hcourse
  generalize (loader.load platform url memory state).2.1 = after at hcourse
  cases hcourse with
  | memory hcopy hfresh hdocument =>
    exact Option.bind_eq_some_iff.2
      ⟨_, Option.filter_eq_some_iff.2 ⟨hcopy, decide_eq_true hfresh⟩,
        document?_eq_some_iff.2 hdocument⟩

theorem load_accounted : Accounted loader platform url memory state := by
  obtain ⟨journal, hcourse, hjournal⟩ := load_course loader platform url memory state
  constructor
  case course => exact ⟨journal, hcourse, hjournal⟩
  case untouched =>
    intro document hserved
    rw [load_of_fresh loader platform url memory state
      (fromMemory?_of_memory loader platform url memory state hserved)]
  case others =>
    intro other hother
    exact hcourse.get?_other hother
  case stored =>
    intro document source hsource hserved
    rw [hserved] at hcourse
    exact hcourse.exists_copy hsource
  case writes_free =>
    intro document source write hserved hwrite
    exact load_withWrite hwrite hserved

end Loader

end RuleGateway
