import CatalogCache.Proofs.Hydration
import Mathlib.Data.Finset.Card
import Mathlib.Data.List.Induction

/-!
# What the catalog remembers

A catalog has two memories. Its slots remember every URI that was ever upserted, in the order
of the first upserts, and no removal takes a slot away. Its documents remember the last write to
each URI only: an upsert leaves its document there, a removal leaves nothing. So a URI that was
removed and is upserted again comes back to its old place.

Both are said about the history of the writes alone (`Remembers`). One write is one step of the
induction, for the slots (`slotsOf_concat`) and for the documents (`lastUpserted_concat_iff`).
Then the operations of the cache are taken apart into the writes that they make. A hydration
makes one for each document that it loads, and all operations on cards make none.
-/

namespace CatalogCache

namespace Catalog

/-- A write to the catalog. -/
inductive Write where
  | upsert (uri : Text) (content : Bytes)
  | delete (uri : Text)

namespace Write

/-- The URI that is written to. -/
def uri : Write → Text
  | .upsert uri _ | .delete uri => uri

/-- The catalog after a write. -/
def run (catalog : Catalog) : Write → Catalog
  | .upsert uri content => Catalog.upsert catalog uri content
  | .delete uri => Catalog.delete catalog uri

/-- The URI that is upserted, if it is an upsert. -/
def upserted? : Write → Option Text
  | .upsert uri _ => some uri
  | .delete _ => none

end Write

/-- The catalog after some writes. -/
def afterWrites (writes : List Write) : Catalog := writes.foldl Write.run .empty

/-- The URIs that were upserted, one for each upsert. -/
def upserted (writes : List Write) : List Text := writes.filterMap Write.upserted?

/-- The last write to a URI was an upsert of some content. -/
def LastUpserted (uri : Text) (content : Bytes) (writes : List Write) : Prop :=
  ∃ earlier later, writes = earlier ++ .upsert uri content :: later ∧ ∀ w ∈ later, w.uri ≠ uri

theorem afterWrites_concat (writes : List Write) (w : Write) :
    afterWrites (writes ++ [w]) = w.run (afterWrites writes) := by
  rw [afterWrites, List.foldl_append]
  rfl

/-! ## The documents -/

theorem lastUpserted_concat_iff {uri : Text} {content : Bytes} {writes : List Write}
    {w : Write} :
    LastUpserted uri content (writes ++ [w]) ↔
      w = .upsert uri content ∨ w.uri ≠ uri ∧ LastUpserted uri content writes := by
  constructor
  · intro hlast
    obtain ⟨earlier, later, h, hlater⟩ := hlast
    -- the last write is the upsert itself, or it is one of those behind
    rcases List.eq_nil_or_concat later with rfl | ⟨later, w', rfl⟩
    · obtain ⟨-, hw⟩ := List.append_inj' h rfl
      exact Or.inl (List.singleton_inj.1 hw)
    · rw [List.concat_eq_append, ← List.cons_append, ← List.append_assoc] at h
      obtain ⟨rfl, hw⟩ := List.append_inj' h rfl
      obtain rfl := List.singleton_inj.1 hw
      rw [List.concat_eq_append, List.forall_mem_append] at hlater
      exact Or.inr ⟨hlater.2 w List.mem_cons_self, earlier, later, rfl, hlater.1⟩
  · intro hlast
    rcases hlast with rfl | ⟨hne, earlier, later, rfl, hlater⟩
    · exact ⟨writes, [], rfl, by simp⟩
    · refine ⟨earlier, later ++ [w], by simp, ?_⟩
      rw [List.forall_mem_append, List.forall_mem_singleton]
      exact ⟨hlater, hne⟩

/-- **A document is there exactly if the last write to its URI was its upsert.** -/
theorem get?_afterWrites (writes : List Write) (uri : Text) (content : Bytes) :
    get? (afterWrites writes) uri = some content ↔ LastUpserted uri content writes := by
  induction writes using List.reverseRecOn with
  | nil =>
    constructor
    · intro h
      exact absurd h (by simp [afterWrites, get?])
    · intro hlast
      obtain ⟨earlier, later, h, -⟩ := hlast
      exact absurd h (by simp)
  | append_singleton writes w ih =>
    rw [afterWrites_concat, lastUpserted_concat_iff, ← ih]
    cases w with
    | upsert uri' content' =>
      simp only [Write.run, Write.uri, get?_upsert]
      by_cases h : uri' = uri
      · simp [h]
      · simp [h]
    | delete uri' =>
      simp only [Write.run, Write.uri, get?_delete]
      by_cases h : uri' = uri
      · simp [h]
      · simp [h]

/-! ## The slots -/

/-- The slots of a catalog are those of the URIs in a row, in the order in which they first
come there. -/
structure SlotsOf (uris : List Text) (catalog : Catalog) : Prop where
  mem : ∀ uri, uri ∈ catalog.keys ↔ uri ∈ uris
  order : catalog.keys.Pairwise fun u v => uris.idxOf u < uris.idxOf v

/-- A URI at the end of the row gets a slot at the end, unless it has one. -/
theorem slotsOf_upsert {uris : List Text} {catalog : Catalog} (h : SlotsOf uris catalog)
    (uri : Text) (content : Bytes) :
    SlotsOf (uris ++ [uri]) (upsert catalog uri content) := by
  -- the URIs that have a slot keep their places in the row
  have hsame : ∀ u ∈ catalog.keys, (uris ++ [uri]).idxOf u = uris.idxOf u :=
    fun u hu => List.idxOf_append_of_mem ((h.mem u).1 hu)
  have hkeys : catalog.keys.Pairwise fun u v =>
      (uris ++ [uri]).idxOf u < (uris ++ [uri]).idxOf v := by
    refine h.order.imp_of_mem ?_
    intro u v hu hv huv
    rw [hsame u hu, hsame v hv]
    exact huv
  by_cases hin : uri ∈ catalog.keys
  · refine ⟨?_, ?_⟩
    · intro u
      rw [keys_upsert, if_pos hin, h.mem, List.mem_append, List.mem_singleton]
      constructor
      · exact Or.inl
      · intro hor
        rcases hor with hu | rfl
        · exact hu
        · exact (h.mem u).1 hin
    · rw [keys_upsert, if_pos hin]
      exact hkeys
  · refine ⟨?_, ?_⟩
    · intro u
      rw [keys_upsert, if_neg hin, List.mem_append, List.mem_append, h.mem]
    · rw [keys_upsert, if_neg hin, List.pairwise_append]
      refine ⟨hkeys, List.pairwise_singleton _ _, ?_⟩
      -- the place of the new URI is behind all others
      intro u hu v hv
      have hnew : uri ∉ uris := fun hm => hin ((h.mem uri).2 hm)
      rw [List.mem_singleton.1 hv, hsame u hu, List.idxOf_append_of_notMem hnew]
      have hlt : uris.idxOf u < uris.length := List.idxOf_lt_length_of_mem ((h.mem u).1 hu)
      omega

theorem slotsOf_run {uris : List Text} {catalog : Catalog} (h : SlotsOf uris catalog)
    (w : Write) : SlotsOf (uris ++ w.upserted?.toList) (w.run catalog) := by
  cases w with
  | upsert uri content => exact slotsOf_upsert h uri content
  | delete uri =>
    have hkeys : (Write.run catalog (.delete uri)).keys = catalog.keys := keys_delete catalog uri
    rw [Write.upserted?, Option.toList_none, List.append_nil]
    refine ⟨?_, ?_⟩
    · rw [hkeys]
      exact h.mem
    · rw [hkeys]
      exact h.order

/-- **The slots are those of the URIs that were ever upserted,** by the order of their first
upserts. -/
theorem slotsOf_afterWrites (writes : List Write) :
    SlotsOf (upserted writes) (afterWrites writes) := by
  induction writes using List.reverseRecOn with
  | nil => exact ⟨fun uri => Iff.rfl, List.Pairwise.nil⟩
  | append_singleton writes w ih =>
    have h := slotsOf_run ih w
    rw [afterWrites_concat, upserted, List.filterMap_append]
    cases w with
    | upsert uri content => exact h
    | delete uri => exact h

/-! ## Both together -/

/-- What a catalog lets see is settled by the writes. -/
structure Remembers (catalog : Catalog) (writes : List Write) : Prop where
  /-- There are as many slots as there are different URIs that were ever upserted. -/
  size : catalog.size = (upserted writes).toFinset.card
  contains : ∀ uri, catalog.contains uri = true ↔ uri ∈ upserted writes
  /-- The URIs that are listed for discovery are those whose last write was an upsert. -/
  present : ∀ uri, uri ∈ present catalog ↔ ∃ content, LastUpserted uri content writes
  nodup : (Catalog.present catalog).Nodup
  /-- They are listed in the order of the first upsert of each. -/
  order : (Catalog.present catalog).Pairwise fun u v =>
    (upserted writes).idxOf u < (upserted writes).idxOf v
  fetch_ok : ∀ uri content,
    fetch catalog uri = .ok content ↔ LastUpserted uri content writes
  fetch_error : ∀ uri,
    fetch catalog uri = .error ⟨uri⟩ ↔ ∀ content, ¬ LastUpserted uri content writes

theorem remembers_afterWrites (writes : List Write) :
    Remembers (afterWrites writes) writes := by
  have hslots := slotsOf_afterWrites writes
  have hnodup : (afterWrites writes).keys.Nodup := (afterWrites writes).nodup
  have hsub := present_sublist_keys (afterWrites writes)
  refine ⟨?_, ?_, ?_, hnodup.sublist hsub, hslots.order.sublist hsub, ?_, ?_⟩
  · rw [Table.size_eq_length_keys, ← List.toFinset_card_of_nodup hnodup]
    congr 1
    ext uri
    rw [List.mem_toFinset, List.mem_toFinset, hslots.mem]
  · intro uri
    rw [Table.contains_iff, hslots.mem]
  · intro uri
    simp only [mem_present_iff, get?_afterWrites]
  · intro uri content
    rw [fetch_eq_ok_iff, get?_afterWrites]
  · intro uri
    simp only [fetch_eq_error_iff, ne_eq, get?_afterWrites]

/-- Further writes leave all slots in their places. -/
theorem keys_prefix_run (catalog : Catalog) (w : Write) :
    catalog.keys <+: (w.run catalog).keys := by
  cases w with
  | upsert uri content =>
    rw [Write.run, keys_upsert]
    split
    · exact List.prefix_rfl
    · exact List.prefix_append _ _
  | delete uri =>
    rw [Write.run, keys_delete]

theorem keys_prefix_afterWrites (writes more : List Write) :
    (afterWrites writes).keys <+: (afterWrites (writes ++ more)).keys := by
  induction more using List.reverseRecOn with
  | nil => rw [List.append_nil]
  | append_singleton more w ih =>
    rw [← List.append_assoc, afterWrites_concat]
    exact ih.trans (keys_prefix_run _ w)

end Catalog

/-! ## The operations of the cache -/

namespace State

/-- Something that is done with the cache. -/
inductive Operation where
  | upsert (uri : Text) (content : Bytes)
  | delete (uri : Text)
  | apply (uri : Text) (sent : Upsert)
  | hydrate (source : Source) (format : String)
  | upsertCard (key content token : Text)
  | readCard (key : Text)
  /-- A look at the cache that leaves it as it is. -/
  | look

namespace Operation

/-- The cache after an operation. -/
def run (state : State) : Operation → State
  | .upsert uri content => state.store uri content
  | .delete uri => state.remove uri
  | .apply uri sent => state.apply uri sent
  | .hydrate source format => (CatalogCache.hydrate source format state).progress.state
  | .upsertCard key content token =>
    { state with cards := Cards.upsert state.cards key content token }
  | .readCard key => state.readCard key
  | .look => state

/-- The writes to the catalog that an operation makes. -/
def writes : Operation → List Catalog.Write
  | .upsert uri content => [.upsert uri content]
  | .delete uri => [.delete uri]
  | .apply uri sent => [.upsert uri sent.body]
  | .hydrate source format =>
    (Hydration.storedFrom source format).map fun load => .upsert load.1 load.2
  | .upsertCard _ _ _ | .readCard _ | .look => []

/-- **An operation makes its writes, and does nothing else to the catalog.** -/
theorem catalog_run (op : Operation) (state : State) :
    (op.run state).catalog = op.writes.foldl Catalog.Write.run state.catalog := by
  cases op with
  | upsert uri content => rfl
  | delete uri => rfl
  | apply uri sent => rfl
  | hydrate source format =>
    rw [run, Hydration.state_hydrate, Hydration.storeAll_catalog, writes, List.foldl_map]
    rfl
  | upsertCard key content token => rfl
  | readCard key => rfl
  | look => rfl

end Operation

/-- The cache after some operations on an empty one. -/
def afterOperations (ops : List Operation) : State := ops.foldl Operation.run .empty

/-- The writes to the catalog that some operations make, in order. -/
def writesOf (ops : List Operation) : List Catalog.Write := ops.flatMap Operation.writes

theorem catalog_afterOperations (ops : List Operation) :
    (afterOperations ops).catalog = Catalog.afterWrites (writesOf ops) := by
  induction ops using List.reverseRecOn with
  | nil => rfl
  | append_singleton ops op ih =>
    have hrun : afterOperations (ops ++ [op]) = op.run (afterOperations ops) := by
      rw [afterOperations, List.foldl_append]
      rfl
    rw [hrun, Operation.catalog_run, ih, Catalog.afterWrites, ← List.foldl_append, writesOf,
      writesOf, List.flatMap_append, List.flatMap_singleton]
    rfl

/--
**The catalog remembers its writes, and forgets no slot.**

After any operations on an empty cache, what can be seen of the catalog is settled by the writes
that they made, the documents that were hydrated counted as upserts. Whatever is done after
that, the catalog gets no smaller and contains what it contained.
-/
theorem catalog_remembers (ops : List Operation) :
    Catalog.Remembers (afterOperations ops).catalog (writesOf ops) ∧
    ∀ more, (afterOperations ops).catalog.size ≤ (afterOperations (ops ++ more)).catalog.size ∧
      ∀ uri, (afterOperations ops).catalog.contains uri = true →
        (afterOperations (ops ++ more)).catalog.contains uri = true := by
  refine ⟨?_, ?_⟩
  · rw [catalog_afterOperations]
    exact Catalog.remembers_afterWrites (writesOf ops)
  · intro more
    have hprefix : (afterOperations ops).catalog.keys <+:
        (afterOperations (ops ++ more)).catalog.keys := by
      rw [catalog_afterOperations, catalog_afterOperations, writesOf, writesOf,
        List.flatMap_append]
      exact Catalog.keys_prefix_afterWrites _ _
    refine ⟨?_, ?_⟩
    · rw [Table.size_eq_length_keys, Table.size_eq_length_keys]
      exact hprefix.length_le
    · intro uri h
      rw [Table.contains_iff] at h ⊢
      exact hprefix.subset h

end State

end CatalogCache
