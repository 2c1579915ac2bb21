import CatalogCache.Proofs.Hydration

/-!
# Hydration can be tried again

A run that fails leaves behind what it had loaded. When storage is back the run is made again
over the same keys, and comes to its end. Nothing then tells that there was a first attempt
(`hydrate_afterAttempts`): the catalog has the slots, in the order and with the documents, that
the last run alone would have given it, and that run reports what it would have reported.

Two facts carry this. What a run does, its state apart, does not depend on the state
(`hydrate_withState`). And the URIs that an attempt wrote to are the first ones that a completed
run writes to, in the same order (`storedFrom_prefix`, `storedFrom_of_completed`). So a completed
run meets slots in the order in which it would make them itself, and writes over what is in them
(`storeAll_storeAll_of_prefix`).
-/

namespace CatalogCache.Hydration

/-! ## Documents stored twice -/

theorem storeAll_cons (state : State) (load : Text × Bytes) (rest : List (Text × Bytes)) :
    storeAll state (load :: rest) = storeAll (state.store load.1 load.2) rest := rfl

theorem storeAll_append (state : State) (loads more : List (Text × Bytes)) :
    storeAll state (loads ++ more) = storeAll (storeAll state loads) more :=
  List.foldl_append

theorem keys_subset_storeAll (state : State) (loads : List (Text × Bytes)) :
    state.catalog.keys ⊆ (storeAll state loads).catalog.keys := by
  induction loads generalizing state with
  | nil => exact List.Subset.refl _
  | cons load rest ih =>
    have hstep : state.catalog.keys ⊆ (state.store load.1 load.2).catalog.keys := by
      rw [State.store, Catalog.keys_upsert]
      split
      · exact List.Subset.refl _
      · exact List.subset_append_left _ _
    rw [storeAll_cons]
    exact List.Subset.trans hstep (ih _)

/-- Every URI that was written to has a slot. -/
theorem mem_keys_storeAll {state : State} {loads : List (Text × Bytes)} {load : Text × Bytes}
    (h : load ∈ loads) : load.1 ∈ (storeAll state loads).catalog.keys := by
  induction loads generalizing state with
  | nil => exact absurd h List.not_mem_nil
  | cons first rest ih =>
    rw [storeAll_cons]
    rcases List.mem_cons.1 h with rfl | hrest
    · have hslot : load.1 ∈ (state.store load.1 load.2).catalog.keys := by
        rw [State.store, Catalog.keys_upsert]
        split
        · assumption
        · exact List.mem_append_right _ List.mem_cons_self
      exact keys_subset_storeAll _ rest hslot
    · exact ih hrest

/-- Documents for URIs with slots make no new ones. -/
theorem keys_storeAll_of_mem {state : State} {loads : List (Text × Bytes)}
    (h : ∀ load ∈ loads, load.1 ∈ state.catalog.keys) :
    (storeAll state loads).catalog.keys = state.catalog.keys := by
  induction loads generalizing state with
  | nil => rfl
  | cons load rest ih =>
    rw [List.forall_mem_cons] at h
    have hkeys : (state.store load.1 load.2).catalog.keys = state.catalog.keys := by
      rw [State.store, Catalog.keys_upsert, if_pos h.1]
    rw [storeAll_cons, ih (by rw [hkeys]; exact h.2), hkeys]

/-- The slots afterwards are settled by the slots before and the URIs. -/
theorem keys_storeAll_congr {s t : State} {loads others : List (Text × Bytes)}
    (hk : s.catalog.keys = t.catalog.keys)
    (h : loads.map Prod.fst = others.map Prod.fst) :
    (storeAll s loads).catalog.keys = (storeAll t others).catalog.keys := by
  induction loads generalizing s t others with
  | nil =>
    obtain rfl := List.map_eq_nil_iff.1 h.symm
    exact hk
  | cons load rest ih =>
    cases others with
    | nil => exact absurd h (by simp)
    | cons other others =>
      rw [List.map_cons, List.map_cons] at h
      obtain ⟨huri, hrest⟩ := List.cons.inj h
      have hstep : (s.store load.1 load.2).catalog.keys =
          (t.store other.1 other.2).catalog.keys := by
        rw [State.store, State.store, Catalog.keys_upsert, Catalog.keys_upsert, huri, hk]
      rw [storeAll_cons, storeAll_cons]
      exact ih hstep hrest

/-- The documents afterwards are settled by those before that are not written over. -/
theorem get?_storeAll_congr {s t : State} {loads : List (Text × Bytes)}
    (h : ∀ uri, (∀ load ∈ loads, load.1 ≠ uri) →
      Catalog.get? s.catalog uri = Catalog.get? t.catalog uri) (uri : Text) :
    Catalog.get? (storeAll s loads).catalog uri = Catalog.get? (storeAll t loads).catalog uri := by
  induction loads generalizing s t with
  | nil => exact h uri (by simp)
  | cons load rest ih =>
    rw [storeAll_cons, storeAll_cons]
    refine ih ?_
    intro uri' hrest
    rw [State.store, State.store, Catalog.get?_upsert, Catalog.get?_upsert]
    split
    · rfl
    · rename_i hne
      exact h uri' (List.forall_mem_cons.2 ⟨hne, hrest⟩)

/-- **Documents that are written over leave no trace,** if their URIs come first, and in the same
order, among those that are written later. -/
theorem storeAll_storeAll_of_prefix {loads more : List (Text × Bytes)}
    (h : loads.map Prod.fst <+: more.map Prod.fst) (state : State) :
    storeAll (storeAll state loads) more = storeAll state more := by
  obtain ⟨uris, huris⟩ := h
  obtain ⟨front, back, rfl, hfront, -⟩ := List.map_eq_append_iff.1 huris.symm
  have hmem : ∀ load ∈ loads, ∃ load' ∈ front, load'.1 = load.1 := by
    intro load hload
    have huri : load.1 ∈ front.map Prod.fst := hfront ▸ List.mem_map_of_mem hload
    exact List.mem_map.1 huri
  have hslots : ∀ load ∈ front, load.1 ∈ (storeAll state loads).catalog.keys := by
    intro load hload
    have huri : load.1 ∈ loads.map Prod.fst := hfront ▸ List.mem_map_of_mem hload
    obtain ⟨load', hload', huri'⟩ := List.mem_map.1 huri
    rw [← huri']
    exact mem_keys_storeAll hload'
  have hkeys : (storeAll (storeAll state loads) (front ++ back)).catalog.keys =
      (storeAll state (front ++ back)).catalog.keys := by
    rw [storeAll_append, storeAll_append]
    refine keys_storeAll_congr ?_ rfl
    rw [keys_storeAll_of_mem hslots]
    exact keys_storeAll_congr rfl hfront.symm
  have hget : ∀ uri, Catalog.get? (storeAll (storeAll state loads) (front ++ back)).catalog uri =
      Catalog.get? (storeAll state (front ++ back)).catalog uri := by
    refine get?_storeAll_congr ?_
    intro uri hnot
    refine get?_storeAll_of_forall_ne ?_
    intro load hload huri
    obtain ⟨load', hload', huri'⟩ := hmem load hload
    exact hnot load' (List.mem_append_left back hload') (huri'.trans huri)
  refine State.ext (Catalog.eq_of_get? hkeys hget) ?_
  rw [storeAll_cards, storeAll_cards, storeAll_cards]

/-! ## The URIs of a run -/

/-- The URIs of the accepted keys, in order. -/
def urisOf (format : String) (keys : List Text) : List Text :=
  keys.filterMap fun key => (uriOfKey (some key) format).toOption

theorem urisOf_cons_of_ok {format : String} {key uri : Text}
    (h : uriOfKey (some key) format = .ok uri) (rest : List Text) :
    urisOf format (key :: rest) = uri :: urisOf format rest := by
  rw [urisOf, List.filterMap_cons, h]
  rfl

theorem urisOf_cons_of_error {format : String} {key : Text} {error : KeyError}
    (h : uriOfKey (some key) format = .error error) (rest : List Text) :
    urisOf format (key :: rest) = urisOf format rest := by
  rw [urisOf, List.filterMap_cons, h]
  rfl

section Uris

variable {document : (n : Nat) → (key : Text) → Except Storage.Failure Bytes} {format : String}

/-- A run writes to the URIs of the keys up to some key. -/
theorem stored_prefix (n : Nat) (keys : List Text) :
    (stored document format n keys).map Prod.fst <+: urisOf format keys := by
  induction keys generalizing n with
  | nil => exact List.prefix_rfl
  | cons key rest ih =>
    rw [stored]
    cases hkey : uriOfKey (some key) format with
    | error e =>
      rw [urisOf_cons_of_error hkey]
      exact ih n
    | ok uri =>
      rw [urisOf_cons_of_ok hkey]
      cases document n key with
      | ok content => exact (List.prefix_cons_inj uri).2 (ih (n + 1))
      | error failure => exact List.nil_prefix

/-- A run that comes to its end writes to the URIs of all keys. -/
theorem stored_of_completed {keys : List Text} {p : Progress} {report : Report}
    (h : (run document format keys p).report = .ok report) (hc : report.completed = true) :
    (stored document format p.fetched.length keys).map Prod.fst = urisOf format keys := by
  induction keys generalizing p with
  | nil => rfl
  | cons key rest ih =>
    rw [run] at h
    cases hversion : ModelVersion.ofKey (some key) with
    | error e =>
      have hkey : uriOfKey (some key) format = .error e := by rw [uriOfKey, hversion]; rfl
      rw [hversion] at h
      rw [stored, hkey, urisOf_cons_of_error hkey]
      exact ih (p := p.skip key) h
    | ok version =>
      have hkey : uriOfKey (some key) format = .ok (version.uri format) := by
        rw [uriOfKey, hversion]
        rfl
      rw [hversion] at h
      rw [stored, hkey, urisOf_cons_of_ok hkey]
      cases hd : document p.fetched.length key with
      | ok content =>
        simp only [hd] at h
        have hrest := ih h
        rw [length_fetched_load] at hrest
        exact congrArg _ hrest
      | error failure =>
        -- a failed fetch ends the run before its end
        exfalso
        cases failure with
        | storage error =>
          simp only [hd] at h
          obtain rfl := Except.ok.inj h
          exact Bool.noConfusion hc
        | fault fault =>
          simp only [hd] at h
          exact absurd h (by simp)

end Uris

theorem storedFrom_prefix {source : Source} {keys : List Text}
    (h : ∀ listed, source.keys = .ok listed → listed = keys) (format : String) :
    (storedFrom source format).map Prod.fst <+: urisOf format keys := by
  rw [storedFrom]
  split
  · exact List.nil_prefix
  · rename_i listed hlisted
    rw [h listed hlisted]
    exact stored_prefix 0 keys

theorem storedFrom_of_completed {source : Source} {keys : List Text} {format : String}
    {state : State} {report : Report} (hkeys : source.keys = .ok keys)
    (h : (hydrate source format state).report = .ok report) (hc : report.completed = true) :
    (storedFrom source format).map Prod.fst = urisOf format keys := by
  rw [hydrate, hkeys] at h
  rw [storedFrom, hkeys]
  exact stored_of_completed h hc

/-! ## What a run does apart from its state -/

/-- A run with another cache at its end. -/
def Run.withState (run : Run) (state : State) : Run :=
  { run with progress := { run.progress with state := state } }

theorem run_withState (document : (n : Nat) → (key : Text) → Except Storage.Failure Bytes)
    (format : String) (keys : List Text) (p : Progress) (s t : State) :
    (run document format keys { p with state := s }).withState t =
      (run document format keys p).withState t := by
  induction keys generalizing p s with
  | nil => rfl
  | cons key rest ih =>
    rw [run, run]
    cases ModelVersion.ofKey (some key) with
    | error e => exact ih (p.skip key) s
    | ok version =>
      cases document p.fetched.length key with
      | ok content =>
        exact ih ((p.ask key).load (version.uri format) content)
          (s.store (version.uri format) content)
      | error failure =>
        cases failure with
        | storage error => rfl
        | fault fault => rfl

/-- **What is fetched, counted and reported does not depend on the cache.** -/
theorem hydrate_withState (source : Source) (format : String) (s t u : State) :
    (hydrate source format s).withState u = (hydrate source format t).withState u := by
  rw [hydrate, hydrate]
  cases source.keys with
  | ok keys => exact run_withState source.document format keys (.start t) s u
  | error failure =>
    cases failure with
    | storage error => rfl
    | fault fault => rfl

theorem report_hydrate (source : Source) (format : String) (s t : State) :
    (hydrate source format s).report = (hydrate source format t).report := by
  have h := congrArg Run.report (hydrate_withState source format s t s)
  exact h

/-- Two runs from a source that leave the same cache are the same. -/
theorem hydrate_eq_of_state_eq {source : Source} {format : String} {s t : State}
    (h : (hydrate source format s).progress.state = (hydrate source format t).progress.state) :
    hydrate source format s = hydrate source format t := by
  have hs := hydrate_withState source format s t (hydrate source format s).progress.state
  calc hydrate source format s
      = (hydrate source format s).withState (hydrate source format s).progress.state := rfl
    _ = (hydrate source format t).withState (hydrate source format t).progress.state := by
        rw [hs, h]
    _ = hydrate source format t := rfl

/-! ## Attempts -/

/-- A completed run after an attempt over the same keys. -/
theorem hydrate_hydrate {attempt source : Source} {keys : List Text}
    (hattempt : ∀ listed, attempt.keys = .ok listed → listed = keys)
    (hsource : source.keys = .ok keys) {format : String} {state : State} {report : Report}
    (h : (hydrate source format state).report = .ok report) (hc : report.completed = true) :
    hydrate source format (hydrate attempt format state).progress.state =
      hydrate source format state := by
  have hprefix : (storedFrom attempt format).map Prod.fst <+:
      (storedFrom source format).map Prod.fst := by
    rw [storedFrom_of_completed hsource h hc]
    exact storedFrom_prefix hattempt format
  refine hydrate_eq_of_state_eq ?_
  rw [state_hydrate, state_hydrate, state_hydrate, storeAll_storeAll_of_prefix hprefix]

/-- The cache after some attempts to fill it, one after the other. -/
def afterAttempts (format : String) (state : State) (attempts : List Source) : State :=
  attempts.foldl (fun s attempt => (hydrate attempt format s).progress.state) state

/--
**A run that comes to its end undoes all attempts before it.**

Any number of attempts over the same keys may have been made before, on any cache. Each may have
failed to list the keys, or at any fetch, or have come to its end, and each may have got other
documents. The run that then comes to its end is the run that it would have been without them:
it leaves the same slots in the same order and with the same documents, it fetches the same keys,
and it has the same report.
-/
theorem hydrate_afterAttempts {keys : List Text} {attempts : List Source}
    (hattempts : ∀ attempt ∈ attempts, ∀ listed, attempt.keys = .ok listed → listed = keys)
    {source : Source} (hsource : source.keys = .ok keys) (format : String) (state : State)
    {report : Report}
    (hreport : (hydrate source format (afterAttempts format state attempts)).report = .ok report)
    (hcompleted : report.completed = true) :
    hydrate source format (afterAttempts format state attempts) =
      hydrate source format state := by
  induction attempts generalizing state with
  | nil => rfl
  | cons attempt rest ih =>
    rw [List.forall_mem_cons] at hattempts
    have hrest := ih hattempts.2 (hydrate attempt format state).progress.state hreport
    have hdone : (hydrate source format state).report = .ok report := by
      rw [report_hydrate source format state, hreport]
    exact hrest.trans (hydrate_hydrate hattempts.1 hsource hdone hcompleted)

/-- Two keys of one document, a key that names no version, and a slot that was cleared. The first
attempt fails at its second fetch, the second one cannot list the keys. -/
theorem hydrate_afterAttempts_mnist :
    let keys : List Text := ["mnist_v1", "mnist", "mnist_v1_b", "bert_v1"]
    let failing : Source := .ofAnswers (.ok keys) fun n key =>
      if n = 0 then .ok [1] else .error (.badStatus (.fetch key) 500 "")
    let silent : Source := .ofAnswers (.error .invalidJson) fun _ _ => .ok []
    let source : Source := .ofAnswers (.ok keys) fun n _ => .ok [2, n.toUInt8]
    let state := (State.empty.store "/bert/v1/json" [0]).remove "/bert/v1/json"
    ((∀ attempt ∈ [failing, silent], ∀ listed, attempt.keys = .ok listed → listed = keys) ∧
      source.keys = .ok keys ∧
      (hydrate source "json" (afterAttempts "json" state [failing, silent])).report =
        .ok ⟨true, 3, 1⟩) ∧
    hydrate source "json" (afterAttempts "json" state [failing, silent]) =
      hydrate source "json" state := by
  intro keys failing silent source state
  have hattempts : ∀ attempt ∈ [failing, silent], ∀ listed,
      attempt.keys = .ok listed → listed = keys := by
    intro attempt hattempt listed hlisted
    simp only [List.mem_cons, List.not_mem_nil, or_false] at hattempt
    rcases hattempt with rfl | rfl
    · exact (Except.ok.inj hlisted).symm
    · exact absurd hlisted (by simp [silent, Source.ofAnswers, Except.mapError])
  have hreport : (hydrate source "json" (afterAttempts "json" state [failing, silent])).report =
      .ok ⟨true, 3, 1⟩ := rfl
  exact ⟨⟨hattempts, rfl, hreport⟩,
    hydrate_afterAttempts hattempts rfl "json" state hreport rfl⟩

end CatalogCache.Hydration
