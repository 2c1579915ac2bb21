import CatalogCache.Hydration
import Mathlib.Data.Nat.Find

/-!
# How far a hydration run comes

A run passes over the keys that name no model version, loads the others one after the
other, and ends at the first fetch that fails. So a run is settled by one position in the
list of keys: that of the first accepted key whose fetch fails (`FailsFirstAt`), if there is
one. What was loaded before that position stays.

The fetches of a run are counted. The fetch for an accepted key has as many fetches before it
as there are accepted keys before it, as long as none of these failed; that is how a position
in the list is matched with what storage answers.

`run_append` carries the loop over a prefix without failures. From there the run either goes
on to its end or stops at the next key.

Whatever storage does, a run stores some documents and does nothing else to the cache
(`state_hydrate`).
-/

namespace CatalogCache

/-- The answers of a storage that fails only in ways that are known. -/
def Source.ofAnswers (keys : Except Storage.Error (List Text))
    (document : (n : Nat) → (key : Text) → Except Storage.Error Bytes) : Source where
  keys := keys.mapError .storage
  document n key := (document n key).mapError .storage

namespace Hydration

/-- Whether a key names a model version. -/
def isAccepted (key : Text) : Bool := (ModelVersion.ofKey (some key)).isOk

/-- The key at a position is accepted and its fetch fails. -/
def FailsAt (document : (n : Nat) → (key : Text) → Except Storage.Error Bytes)
    (keys : List Text) (j : Nat) : Prop :=
  ∃ key error, keys[j]? = some key ∧ isAccepted key = true ∧
    document ((keys.take j).countP isAccepted) key = .error error

/-- The key at a position is the first one whose fetch fails. -/
def FailsFirstAt (document : (n : Nat) → (key : Text) → Except Storage.Error Bytes)
    (keys : List Text) (j : Nat) : Prop :=
  FailsAt document keys j ∧ ∀ i < j, ¬ FailsAt document keys i

/-- Some accepted keys stand for these URIs, and their fetches give these documents. -/
def Loads (document : (n : Nat) → (key : Text) → Except Storage.Error Bytes) (format : String)
    (keys : List Text) (loads : List (Text × Bytes)) : Prop :=
  keys.zipIdx.map (fun entry => (uriOfKey (some entry.1) format, document entry.2 entry.1)) =
    loads.map fun load => (.ok load.1, .ok load.2)

/-- The cache after some documents were stored under their URIs in order. -/
def storeAll (state : State) (loads : List (Text × Bytes)) : State :=
  loads.foldl (fun s load => s.store load.1 load.2) state

theorem storeAll_catalog (state : State) (loads : List (Text × Bytes)) :
    (storeAll state loads).catalog =
      loads.foldl (fun catalog load => Catalog.upsert catalog load.1 load.2) state.catalog := by
  induction loads generalizing state with
  | nil => rfl
  | cons load rest ih => exact ih (state.store load.1 load.2)

theorem storeAll_cards (state : State) (loads : List (Text × Bytes)) :
    (storeAll state loads).cards = state.cards := by
  induction loads generalizing state with
  | nil => rfl
  | cons load rest ih => exact ih (state.store load.1 load.2)

/-! ## What a run stores -/

/-- The documents that a run stores, with their URIs, when its next fetch is the `n`th. A fetch
that fails is the last one, for whatever reason it fails. -/
def stored (document : (n : Nat) → (key : Text) → Except Storage.Failure Bytes)
    (format : String) : Nat → List Text → List (Text × Bytes)
  | _, [] => []
  | n, key :: rest =>
    match uriOfKey (some key) format with
    | .error _ => stored document format n rest
    | .ok uri =>
      match document n key with
      | .ok content => (uri, content) :: stored document format (n + 1) rest
      | .error _ => []

/-- Each document loaded is one fetch more. -/
theorem length_fetched_load (p : Progress) (key uri : Text) (content : Bytes) :
    ((p.ask key).load uri content).fetched.length = p.fetched.length + 1 :=
  List.length_append

theorem state_run (document : (n : Nat) → (key : Text) → Except Storage.Failure Bytes)
    (format : String) (keys : List Text) (p : Progress) :
    (run document format keys p).progress.state =
      storeAll p.state (stored document format p.fetched.length keys) := by
  induction keys generalizing p with
  | nil => rfl
  | cons key rest ih =>
    rw [run, stored, uriOfKey]
    cases hk : ModelVersion.ofKey (some key) with
    | error e => exact ih (p.skip key)
    | ok version =>
      simp only [Except.map]
      cases hd : document p.fetched.length key with
      | ok content =>
        have h := ih ((p.ask key).load (version.uri format) content)
        rw [length_fetched_load] at h
        exact h
      | error failure =>
        cases failure with
        | storage error => rfl
        | fault fault => rfl

/-- The documents that a hydration from a source stores, with their URIs. -/
def storedFrom (source : Source) (format : String) : List (Text × Bytes) :=
  match source.keys with
  | .error _ => []
  | .ok keys => stored source.document format 0 keys

/-- **Hydration stores some documents, and does nothing else to the cache.** Which ones they are
does not depend on what the cache held before. -/
theorem state_hydrate (source : Source) (format : String) (state : State) :
    (hydrate source format state).progress.state = storeAll state (storedFrom source format) := by
  rw [hydrate, storedFrom]
  cases source.keys with
  | ok keys => exact state_run source.document format keys (.start state)
  | error failure =>
    cases failure with
    | storage error => rfl
    | fault fault => rfl

/-- Each document is stored under the URI of a key that was listed. -/
theorem exists_key_of_mem_stored
    {document : (n : Nat) → (key : Text) → Except Storage.Failure Bytes} {format : String}
    {n : Nat} {keys : List Text} {load : Text × Bytes}
    (h : load ∈ stored document format n keys) :
    ∃ key ∈ keys, uriOfKey (some key) format = .ok load.1 := by
  induction keys generalizing n with
  | nil => exact absurd h List.not_mem_nil
  | cons key rest ih =>
    rw [stored] at h
    split at h
    · obtain ⟨key', hmem, hkey'⟩ := ih h
      exact ⟨key', List.mem_cons_of_mem key hmem, hkey'⟩
    · rename_i uri huri
      split at h
      · rcases List.mem_cons.1 h with rfl | h
        · exact ⟨key, List.mem_cons_self, huri⟩
        · obtain ⟨key', hmem, hkey'⟩ := ih h
          exact ⟨key', List.mem_cons_of_mem key hmem, hkey'⟩
      · exact absurd h List.not_mem_nil

theorem get?_storeAll_of_forall_ne {state : State} {loads : List (Text × Bytes)} {uri : Text}
    (h : ∀ load ∈ loads, load.1 ≠ uri) :
    Catalog.get? (storeAll state loads).catalog uri = Catalog.get? state.catalog uri := by
  induction loads generalizing state with
  | nil => rfl
  | cons load rest ih =>
    rw [List.forall_mem_cons] at h
    have hrest : storeAll state (load :: rest) = storeAll (state.store load.1 load.2) rest := rfl
    rw [hrest, ih h.2, State.store, Catalog.get?_upsert, if_neg h.1]

/-- **A document stays as it is if no listed key stands for its URI.** -/
theorem get?_hydrate_of_forall_ne {source : Source} {format : String} {uri : Text}
    (h : ∀ keys, source.keys = .ok keys → ∀ key ∈ keys, uriOfKey (some key) format ≠ .ok uri)
    (state : State) :
    Catalog.get? (hydrate source format state).progress.state.catalog uri =
      Catalog.get? state.catalog uri := by
  rw [state_hydrate]
  refine get?_storeAll_of_forall_ne ?_
  intro load hload huri
  rw [storedFrom] at hload
  split at hload
  · exact absurd hload List.not_mem_nil
  · rename_i keys hkeys
    obtain ⟨key, hmem, hkey⟩ := exists_key_of_mem_stored hload
    exact h keys hkeys key hmem (huri ▸ hkey)

/-! ## Positions and fetches -/

/-- The later positions of a list are the positions of its tail, with one more fetch before
them when the head is accepted. -/
theorem failsAt_cons_succ {document : (n : Nat) → (key : Text) → Except Storage.Error Bytes}
    {key : Text} {rest : List Text} {j : Nat} :
    FailsAt document (key :: rest) (j + 1) ↔
      FailsAt (fun n => document (n + if isAccepted key then 1 else 0)) rest j := by
  simp [FailsAt, List.countP_cons]

theorem loads_cons {document : (n : Nat) → (key : Text) → Except Storage.Error Bytes}
    {format : String} {key uri : Text} {content : Bytes} {rest : List Text}
    {loads : List (Text × Bytes)} (hu : uriOfKey (some key) format = .ok uri)
    (hd : document 0 key = .ok content) (h : Loads (fun n => document (n + 1)) format rest loads) :
    Loads document format (key :: rest) ((uri, content) :: loads) := by
  have hrest : (rest.zipIdx 1).map
      (fun entry => (uriOfKey (some entry.1) format, document entry.2 entry.1)) =
      loads.map fun load => (.ok load.1, .ok load.2) := by
    rw [Loads] at h
    rw [← h, List.zipIdx_succ, List.map_map]
    rfl
  rw [Loads, List.zipIdx_cons, List.map_cons, List.map_cons, hu, hd, hrest]

/-! ## The loop -/

section Loop

variable {document : (n : Nat) → (key : Text) → Except Storage.Error Bytes} {format : String}

theorem run_rejected {key : Text} {rest : List Text} {p : Progress}
    (h : isAccepted key = false) :
    run (fun n key => (document n key).mapError .storage) format (key :: rest) p =
      run (fun n key => (document n key).mapError .storage) format rest (p.skip key) := by
  rw [isAccepted] at h
  rw [run]
  cases hk : ModelVersion.ofKey (some key) with
  | ok version => rw [hk] at h; exact Bool.noConfusion h
  | error e => rfl

theorem run_loaded {key : Text} {version : ModelVersion} {content : Bytes}
    {rest : List Text} {p : Progress} (hk : ModelVersion.ofKey (some key) = .ok version)
    (hd : document p.fetched.length key = .ok content) :
    run (fun n key => (document n key).mapError .storage) format (key :: rest) p =
      run (fun n key => (document n key).mapError .storage) format rest
        ((p.ask key).load (version.uri format) content) := by
  rw [run, hk]
  dsimp only
  rw [hd]
  rfl

theorem run_failed {key : Text} {error : Storage.Error} {rest : List Text} {p : Progress}
    (h : isAccepted key = true) (hd : document p.fetched.length key = .error error) :
    run (fun n key => (document n key).mapError .storage) format (key :: rest) p =
      ⟨(p.ask key).giveUp key error, .ok (p.report false)⟩ := by
  rw [isAccepted] at h
  rw [run]
  cases hk : ModelVersion.ofKey (some key) with
  | ok version =>
    dsimp only
    rw [hd]
    rfl
  | error e => rw [hk] at h; exact Bool.noConfusion h

/-- A run that has come from one point to another has seen to some keys: it asked for the
documents of the accepted ones, loaded them all, and skipped the rest. -/
structure Reaches (document : (n : Nat) → (key : Text) → Except Storage.Error Bytes)
    (format : String) (seen : List Text) (p q : Progress) : Prop where
  /-- One fetch for each accepted key, in order. -/
  fetched : q.fetched = p.fetched ++ seen.filter isAccepted
  /-- What the fetches gave is stored, and nothing else is changed. -/
  state : ∃ loads, Loads (fun n => document (p.fetched.length + n)) format
    (seen.filter isAccepted) loads ∧ q.state = storeAll p.state loads
  /-- The accepted keys are counted as loaded. -/
  loaded : q.loaded = p.loaded + seen.countP isAccepted
  /-- The others are counted as skipped. -/
  skipped : q.skipped = p.skipped + seen.countP (fun key => !isAccepted key)

theorem reaches_skip {key : Text} {rest : List Text} {p q : Progress}
    (hk : isAccepted key = false) (h : Reaches document format rest (p.skip key) q) :
    Reaches document format (key :: rest) p q where
  fetched := by rw [List.filter_cons_of_neg (by simp [hk])]; exact h.fetched
  state := by rw [List.filter_cons_of_neg (by simp [hk])]; exact h.state
  loaded := by rw [List.countP_cons_of_neg (by simp [hk])]; exact h.loaded
  skipped := by
    have hs : q.skipped = p.skipped + 1 + rest.countP (fun key => !isAccepted key) := h.skipped
    rw [List.countP_cons_of_pos (by simp [hk])]
    omega

theorem reaches_load {key : Text} {version : ModelVersion} {content : Bytes}
    {rest : List Text} {p q : Progress} (hk : ModelVersion.ofKey (some key) = .ok version)
    (hd : document p.fetched.length key = .ok content)
    (h : Reaches document format rest ((p.ask key).load (version.uri format) content) q) :
    Reaches document format (key :: rest) p q := by
  have ha : isAccepted key = true := by rw [isAccepted, hk]; rfl
  obtain ⟨hf, ⟨loads, hl, hs⟩, hn, hm⟩ := h
  refine ⟨?_, ⟨(version.uri format, content) :: loads, ?_, hs⟩, ?_, ?_⟩
  · rw [hf, List.filter_cons_of_pos ha]
    exact List.append_assoc p.fetched [key] _
  · rw [List.filter_cons_of_pos ha]
    refine loads_cons ?_ hd ?_
    · rw [uriOfKey, hk]
      rfl
    · -- the later fetches have this one before them
      have hshift : (fun n => document (p.fetched.length + (n + 1))) = fun n =>
          document (((p.ask key).load (version.uri format) content).fetched.length + n) := by
        funext n
        rw [length_fetched_load, Nat.add_assoc, Nat.add_comm 1 n]
      rw [hshift]
      exact hl
  · have hn' : q.loaded = p.loaded + 1 + rest.countP isAccepted := hn
    rw [List.countP_cons_of_pos ha]
    omega
  · rw [List.countP_cons_of_neg (by simp [ha])]
    exact hm

/-- **A prefix without failures is run through.** -/
theorem run_append (document : (n : Nat) → (key : Text) → Except Storage.Error Bytes)
    (format : String) (seen rest : List Text) (p : Progress)
    (h : ∀ j, ¬ FailsAt (fun n => document (p.fetched.length + n)) seen j) :
    ∃ q, Reaches document format seen p q ∧
      run (fun n key => (document n key).mapError .storage) format (seen ++ rest) p =
        run (fun n key => (document n key).mapError .storage) format rest q := by
  induction seen generalizing p with
  | nil => exact ⟨p, ⟨by simp, ⟨[], rfl, rfl⟩, rfl, rfl⟩, rfl⟩
  | cons key seen ih =>
    have htail : ∀ j, ¬ FailsAt (fun n =>
        document (p.fetched.length + (n + if isAccepted key then 1 else 0))) seen j :=
      fun j hj => h (j + 1) (failsAt_cons_succ.2 hj)
    cases ha : isAccepted key with
    | false =>
      simp only [ha, Bool.false_eq_true, if_false, Nat.add_zero] at htail
      obtain ⟨q, hq, hrun⟩ := ih (p.skip key) htail
      refine ⟨q, reaches_skip ha hq, ?_⟩
      rw [List.cons_append, run_rejected ha, hrun]
    | true =>
      simp only [ha, if_true] at htail
      cases hk : ModelVersion.ofKey (some key) with
      | error e => rw [isAccepted, hk] at ha; exact Bool.noConfusion ha
      | ok version =>
        cases hd : document p.fetched.length key with
        | error error => exact absurd ⟨key, error, rfl, ha, hd⟩ (h 0)
        | ok content =>
          have hnext : ∀ j, ¬ FailsAt (fun n => document
              (((p.ask key).load (version.uri format) content).fetched.length + n)) seen j := by
            intro j
            have hj := htail j
            simp only [length_fetched_load, Nat.add_assoc, Nat.add_comm 1]
            exact hj
          obtain ⟨q, hq, hrun⟩ := ih _ hnext
          refine ⟨q, reaches_load hk hd hq, ?_⟩
          rw [List.cons_append, run_loaded hk hd, hrun]

end Loop

/-! ## Where a run ends -/

/-- A run that asked for the documents of some keys and loaded those of some keys. -/
structure Ended (document : (n : Nat) → (key : Text) → Except Storage.Error Bytes)
    (format : String) (state : State) (asked seen : List Text) (completed : Bool)
    (run : Run) : Prop where
  /-- One fetch for each accepted key, in order, and none for the others. -/
  fetched : run.progress.fetched = asked.filter isAccepted
  /-- The fetched documents are stored in order under the URIs of their keys. -/
  catalog : ∃ loads, Loads document format (seen.filter isAccepted) loads ∧
    run.progress.state.catalog =
      loads.foldl (fun catalog load => Catalog.upsert catalog load.1 load.2) state.catalog
  /-- No card is touched. -/
  cards : run.progress.state.cards = state.cards
  /-- The run returns, with the accepted keys counted as loaded and the others as skipped. -/
  report : run.report = .ok ⟨completed, seen.countP isAccepted,
    seen.countP (fun key => !isAccepted key)⟩

theorem FailsFirstAt.take {document : (n : Nat) → (key : Text) → Except Storage.Error Bytes}
    {keys : List Text} {j : Nat} (h : FailsFirstAt document keys j) (i : Nat) :
    ¬ FailsAt document (keys.take j) i := by
  rintro ⟨key, error, hi, ha, hd⟩
  obtain ⟨hlt, -⟩ := List.getElem?_eq_some_iff.1 hi
  have hij : i < j := Nat.lt_of_lt_of_le hlt (by rw [List.length_take]; omega)
  rw [List.getElem?_take_of_lt hij] at hi
  rw [List.take_take, Nat.min_eq_left (Nat.le_of_lt hij)] at hd
  exact h.2 i hij ⟨key, error, hi, ha, hd⟩

/-- **A run stops at the first fetch that fails.** -/
theorem ended_of_failsFirstAt
    {document : (n : Nat) → (key : Text) → Except Storage.Error Bytes} (format : String)
    (state : State) {keys : List Text} {j : Nat} (h : FailsFirstAt document keys j) :
    Ended document format state (keys.take (j + 1)) (keys.take j) false
      (hydrate (.ofAnswers (.ok keys) document) format state) := by
  obtain ⟨key, error, hj, ha, hd⟩ := h.1
  obtain ⟨q, hq, hrun⟩ := run_append document format (keys.take j) (keys.drop j)
    (.start state) (by simpa [Progress.start] using h.take)
  have hdrop : keys.drop j = key :: keys.drop (j + 1) := by
    obtain ⟨hlt, hkey⟩ := List.getElem?_eq_some_iff.1 hj
    rw [List.drop_eq_getElem_cons hlt, hkey]
  obtain ⟨hf, ⟨loads, hl, hs⟩, hn, hm⟩ := hq
  simp only [Progress.start, List.length_nil, Nat.zero_add, List.nil_append] at hf hl hs hn hm
  have hlen : q.fetched.length = (keys.take j).countP isAccepted := by
    rw [hf, List.countP_eq_length_filter]
  have hend : hydrate (.ofAnswers (.ok keys) document) format state =
      ⟨(q.ask key).giveUp key error, .ok (q.report false)⟩ := by
    rw [List.take_append_drop, hdrop, run_failed ha (hlen ▸ hd)] at hrun
    exact hrun
  rw [hend]
  refine ⟨?_, ⟨loads, hl, ?_⟩, ?_, ?_⟩
  · rw [List.take_add_one, hj, Option.toList_some, List.filter_append,
      List.filter_cons_of_pos ha]
    exact congrArg (· ++ [key]) hf
  · rw [← storeAll_catalog, ← hs]
    rfl
  · rw [← storeAll_cards state loads, ← hs]
    rfl
  · rw [← hn, ← hm]
    rfl

/-- **A run without a failing fetch sees to every key.** -/
theorem ended_of_not_failsAt
    {document : (n : Nat) → (key : Text) → Except Storage.Error Bytes} (format : String)
    (state : State) {keys : List Text} (h : ∀ j, ¬ FailsAt document keys j) :
    Ended document format state keys keys true
      (hydrate (.ofAnswers (.ok keys) document) format state) := by
  obtain ⟨q, hq, hrun⟩ := run_append document format keys [] (.start state)
    (by simpa [Progress.start] using h)
  obtain ⟨hf, ⟨loads, hl, hs⟩, hn, hm⟩ := hq
  simp only [Progress.start, List.length_nil, Nat.zero_add, List.nil_append] at hf hl hs hn hm
  have hend : hydrate (.ofAnswers (.ok keys) document) format state =
      ⟨q.finish, .ok (q.report true)⟩ := by
    rw [List.append_nil] at hrun
    exact hrun
  rw [hend]
  refine ⟨hf, ⟨loads, hl, ?_⟩, ?_, ?_⟩
  · rw [← storeAll_catalog, ← hs]
    rfl
  · rw [← storeAll_cards state loads, ← hs]
    rfl
  · rw [← hn, ← hm]
    rfl

/--
**A hydration run returns, and one position settles what it did.**

Either no fetch fails; then every key is seen to, and the keys loaded and the keys skipped
are all keys. Or there is a first accepted key whose fetch fails; then the run asked for the
documents up to that of this key, and keeps what it loaded before. If the keys cannot be
listed, nothing is fetched and nothing changes.
-/
theorem hydrate_outcome (state : State) (format : String)
    (document : (n : Nat) → (key : Text) → Except Storage.Error Bytes) :
    (∀ error,
      let run := hydrate (.ofAnswers (.error error) document) format state
      run.progress.fetched = [] ∧ run.progress.state = state ∧
        run.report = .ok ⟨false, 0, 0⟩) ∧
    ∀ keys,
      let run := hydrate (.ofAnswers (.ok keys) document) format state
      ((∀ j, ¬ FailsAt document keys j) ∧ Ended document format state keys keys true run ∧
        ∃ report, run.report = .ok report ∧ report.loaded + report.skipped = keys.length) ∨
      ∃ j, FailsFirstAt document keys j ∧
        Ended document format state (keys.take (j + 1)) (keys.take j) false run := by
  refine ⟨?_, ?_⟩
  · intro error run
    exact ⟨rfl, rfl, rfl⟩
  · intro keys run
    by_cases h : ∃ j, FailsAt document keys j
    · classical
      refine Or.inr ⟨Nat.find h, ?_⟩
      have hfirst : FailsFirstAt document keys (Nat.find h) :=
        ⟨Nat.find_spec h, fun i hi => Nat.find_min h hi⟩
      exact ⟨hfirst, ended_of_failsFirstAt format state hfirst⟩
    · have hnone : ∀ j, ¬ FailsAt document keys j := fun j hj => h ⟨j, hj⟩
      have hended := ended_of_not_failsAt format state hnone
      refine Or.inl ⟨hnone, hended, _, hended.report, ?_⟩
      have hcount := List.length_eq_countP_add_countP (l := keys) isAccepted
      simp only [Bool.not_eq_true, Bool.decide_eq_false] at hcount
      exact hcount.symm

end Hydration

end CatalogCache
