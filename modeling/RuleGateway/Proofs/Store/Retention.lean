import Mathlib.Data.List.Induction
import RuleGateway.Proofs.Store.Load
import RuleGateway.Proofs.Table

/-!
# What a run of loads retains

Loads that follow each other share the copies in memory and nothing else: each
finds the platform as it happens to be then, with any time on the clock and
anything in its cache. `memoryAfter` is what such a run leaves in memory. The
invariant is that the copy for an address is the text most recently obtained for
it, and `Retains` collects what follows for the loads themselves.
-/

namespace RuleGateway

/-- A load of a run: the address of the document, and the platform as the load
finds it. -/
structure Call (σ : Type) where
  url : Text
  platform : Platform σ
  state : σ

namespace Loader

variable {σ : Type} (loader : Loader)

/-- The copies in memory after a run of loads. -/
def memoryAfter (calls : List (Call σ)) : Memory :=
  calls.foldl (fun memory call => (loader.load call.platform call.url memory call.state).2.1) []

/-- What a load gives after a run of others. -/
def loadedAfter (calls : List (Call σ)) (call : Call σ) : Loaded :=
  (loader.load call.platform call.url (loader.memoryAfter calls) call.state).1

/-- The text that a load after a run of others obtains. -/
def obtainedAfter? (calls : List (Call σ)) (call : Call σ) : Option Text :=
  loader.obtained? call.platform call.url (loader.memoryAfter calls) call.state

/-- A text is the latest one for an address: some load of the run obtained it,
and no load of the address after that obtained another. -/
def Latest (calls : List (Call σ)) (url text : Text) : Prop :=
  ∃ before call after, calls = before ++ call :: after ∧ call.url = url ∧
    loader.obtainedAfter? before call = some text ∧
    ∀ between later rest, after = between ++ later :: rest → later.url = url →
      loader.obtainedAfter? (before ++ call :: between) later = none

theorem memoryAfter_snoc (calls : List (Call σ)) (call : Call σ) :
    loader.memoryAfter (calls ++ [call]) =
      (loader.load call.platform call.url (loader.memoryAfter calls) call.state).2.1 := by
  simp [memoryAfter]

/-- How a load of a run ends. -/
theorem loadedAfter_ends (calls : List (Call σ)) (call : Call σ) :
    Ends loader (loader.memoryAfter calls) call.url (call.platform.now call.state)
      (loader.obtainedAfter? calls call) (loader.loadedAfter calls call)
      (loader.memoryAfter (calls ++ [call])) := by
  rw [memoryAfter_snoc]
  exact loader.load_ends call.platform call.url (loader.memoryAfter calls) call.state

variable {loader} {calls : List (Call σ)} {call : Call σ} {url text : Text}

/-- The copies after a load, given what it obtained. -/
theorem memoryAfter_of_obtained (h : loader.obtainedAfter? calls call = some text) :
    loader.memoryAfter (calls ++ [call]) =
      loader.keep (loader.memoryAfter calls) call.url (call.platform.now call.state) text :=
  (h ▸ loader.loadedAfter_ends calls call).of_some.1

theorem memoryAfter_of_not_obtained (h : loader.obtainedAfter? calls call = none) :
    loader.memoryAfter (calls ++ [call]) = loader.memoryAfter calls :=
  (h ▸ loader.loadedAfter_ends calls call).of_none

theorem isDocument_of_obtained (h : loader.obtainedAfter? calls call = some text) :
    ∃ document, document? text = some document :=
  (h ▸ loader.loadedAfter_ends calls call).of_some.2

theorem Latest.here (h : loader.obtainedAfter? calls call = some text) :
    loader.Latest (calls ++ [call]) call.url text := by
  refine ⟨calls, call, [], rfl, rfl, h, ?_⟩
  intro between later rest hafter
  simp at hafter

/-- The latest text stays so over a load that obtains nothing for the address. -/
theorem Latest.later (h : loader.Latest calls url text)
    (hcall : call.url = url → loader.obtainedAfter? calls call = none) :
    loader.Latest (calls ++ [call]) url text := by
  obtain ⟨before, first, after, rfl, hurl, htext, hnone⟩ := h
  refine ⟨before, first, after ++ [call], by simp, hurl, htext, ?_⟩
  intro between later rest hafter hlater
  rcases List.eq_nil_or_concat rest with rfl | ⟨rest, last, rfl⟩
  · obtain ⟨rfl, hlast⟩ := List.append_inj' hafter rfl
    cases hlast
    exact hcall hlater
  · rw [List.concat_eq_append, ← List.cons_append, ← List.append_assoc] at hafter
    exact hnone between later rest (List.append_inj' hafter rfl).1 hlater

/-- The copy for an address is the text most recently obtained for it. -/
theorem latest_of_get? (calls : List (Call σ)) {url : Text} {copy : Copy}
    (h : (loader.memoryAfter calls).get? url = some copy) : loader.Latest calls url copy.text := by
  induction calls using List.reverseRecOn generalizing copy with
  | nil => cases h
  | append_singleton calls call ih =>
    cases hobtained : loader.obtainedAfter? calls call with
    | none =>
      rw [memoryAfter_of_not_obtained hobtained] at h
      exact (ih h).later fun _ => hobtained
    | some text =>
      rw [memoryAfter_of_obtained hobtained, keep, Table.get?_set] at h
      split at h
      · rename_i hurl
        cases h
        exact hurl ▸ Latest.here hobtained
      · rename_i hurl
        exact (ih h).later fun hcall => absurd hcall hurl

/-- Every text in memory is a rule document. -/
theorem document_of_mem (calls : List (Call σ)) {entry : Text × Copy}
    (h : entry ∈ loader.memoryAfter calls) :
    ∃ document, document? entry.2.text = some document := by
  induction calls using List.reverseRecOn with
  | nil => cases h
  | append_singleton calls call ih =>
    cases hobtained : loader.obtainedAfter? calls call with
    | none =>
      rw [memoryAfter_of_not_obtained hobtained] at h
      exact ih h
    | some text =>
      rw [memoryAfter_of_obtained hobtained, keep] at h
      rcases Table.mem_of_mem_set h with rfl | hentry
      · exact isDocument_of_obtained hobtained
      · exact ih hentry

/-- Further loads keep the entries that are there. -/
theorem keys_kept (calls more : List (Call σ)) :
    (loader.memoryAfter calls).map (·.1) <+: (loader.memoryAfter (calls ++ more)).map (·.1) := by
  induction more using List.reverseRecOn with
  | nil => simp
  | append_singleton more call ih =>
    rw [← List.append_assoc]
    refine ih.trans ?_
    cases hobtained : loader.obtainedAfter? (calls ++ more) call with
    | none =>
      have hsame := memoryAfter_of_not_obtained hobtained
      exact hsame ▸ List.prefix_rfl
    | some text =>
      rw [memoryAfter_of_obtained hobtained]
      exact Table.keys_prefix_set ..

/-- Once there is a copy for an address, an old one can always be given. -/
theorem isSome_fromStale? {more : List (Call σ)}
    (h : ((loader.memoryAfter calls).get? url).isSome) :
    (fromStale? (loader.memoryAfter (calls ++ more)) url).isSome := by
  have hkey : url ∈ (loader.memoryAfter (calls ++ more)).map (·.1) :=
    (keys_kept calls more).subset (Table.isSome_get?_iff.1 h)
  obtain ⟨copy, hcopy⟩ := Option.isSome_iff_exists.1 (Table.isSome_get?_iff.2 hkey)
  obtain ⟨document, hdocument⟩ := document_of_mem _ (Table.mem_of_get?_eq_some hcopy)
  rw [fromStale?, hcopy]
  exact Option.isSome_of_eq_some hdocument

/-- What holds of the loads of a run: memory holds rule documents only and loses
none, an address that a document was given for has one from then on, and an old
document is the latest that was obtained. -/
structure Retains (loader : Loader) (calls : List (Call σ)) : Prop where
  parses : ∀ entry ∈ loader.memoryAfter calls,
    ∃ document, RuleDocument.parse entry.2.text = .ok document
  never_removed : ∀ more : List (Call σ),
    (loader.memoryAfter calls).map (·.1) <+: (loader.memoryAfter (calls ++ more)).map (·.1)
  served_again : ∀ before call between later after,
    calls = before ++ call :: (between ++ later :: after) → later.url = call.url →
    (∃ document source, loader.loadedAfter before call = .served document source) →
    loader.loadedAfter (before ++ call :: between) later ≠ .crashed →
    ∃ document source,
      loader.loadedAfter (before ++ call :: between) later = .served document source
  obtained : ∀ before call after document source, calls = before ++ call :: after →
    source = .cache ∨ source = .network → loader.loadedAfter before call = .served document source →
    ∃ text, loader.obtainedAfter? before call = some text ∧ RuleDocument.parse text = .ok document
  stale_latest : ∀ before call after document, calls = before ++ call :: after →
    loader.loadedAfter before call = .served document .stale →
    ∃ text, loader.Latest before call.url text ∧ RuleDocument.parse text = .ok document

theorem retains (loader : Loader) (calls : List (Call σ)) : loader.Retains calls := by
  constructor
  case parses =>
    intro entry hentry
    obtain ⟨document, hdocument⟩ := document_of_mem calls hentry
    exact ⟨document, document?_eq_some_iff.1 hdocument⟩
  case never_removed => exact keys_kept calls
  case served_again =>
    rintro before call between later after - hurl ⟨document, source, hserved⟩ hcrashed
    have hcopy := (hserved ▸ loader.loadedAfter_ends before call).isSome_of_served
    refine (loader.loadedAfter_ends _ later).served_of_stale hcrashed ?_
    rw [hurl, List.append_cons]
    exact isSome_fromStale? hcopy
  case obtained =>
    rintro before call after document source - hsource hserved
    obtain ⟨text, htext, hdocument⟩ :=
      (hserved ▸ loader.loadedAfter_ends before call).obtained_of_source hsource
    exact ⟨text, htext, document?_eq_some_iff.1 hdocument⟩
  case stale_latest =>
    rintro before call after document - hserved
    have hstale := (hserved ▸ loader.loadedAfter_ends before call).fromStale?_of_stale
    obtain ⟨copy, hcopy, hdocument⟩ := Option.bind_eq_some_iff.1 hstale
    exact ⟨copy.text, latest_of_get? before hcopy, document?_eq_some_iff.1 hdocument⟩

end Loader

end RuleGateway
