import CatalogCache.Bytes
import CatalogCache.Keyed
import CatalogCache.Text

/-!
# The catalog

Documents under URIs. A URI that ever held a document keeps its slot: taking the document
away clears the slot, and a later document under the same URI comes back to the place it had
before. The URIs of the slots that hold a document are the ones that can be discovered.

`get?` is the view of the catalog: what each operation does is said by what `get?` and the
order of the slots are afterwards.
-/

namespace CatalogCache

/-- Slots under URIs in order of creation; a cleared slot holds `none`. -/
abbrev Catalog := Table Text (Option Bytes)

/-- The URI that was asked for holds no document. -/
structure EntryNotFound where
  uri : Text
  deriving DecidableEq, Repr

def EntryNotFound.message (e : EntryNotFound) : Text := "No catalog entry for '" ++ e.uri ++ "'"

namespace Catalog

/-- Puts a document under a URI. -/
def upsert (catalog : Catalog) (uri : Text) (content : Bytes) : Catalog :=
  catalog.insert uri (some content)

/-- Clears the slot of a URI. A URI without a slot gets none. -/
def delete (catalog : Catalog) (uri : Text) : Catalog := catalog.adjust uri fun _ => none

/-- The document under a URI. -/
def get? (catalog : Catalog) (uri : Text) : Option Bytes := (catalog.find? uri).join

/-- The document under a URI, or the error that there is none. -/
def fetch (catalog : Catalog) (uri : Text) : Except EntryNotFound Bytes :=
  match get? catalog uri with
  | some content => .ok content
  | none => .error ⟨uri⟩

/-- The URIs that hold a document, in slot order. -/
def present (catalog : Catalog) : List Text :=
  catalog.slots.filterMap fun slot => slot.2.map fun _ => slot.1

theorem fetch_eq_ok_iff {catalog : Catalog} {uri : Text} {content : Bytes} :
    fetch catalog uri = .ok content ↔ get? catalog uri = some content := by
  rw [fetch]
  cases get? catalog uri with
  | none => simp
  | some content' => simp

theorem fetch_eq_error_iff {catalog : Catalog} {uri : Text} :
    fetch catalog uri = .error ⟨uri⟩ ↔ ∀ content, get? catalog uri ≠ some content := by
  rw [fetch]
  cases get? catalog uri with
  | none => simp
  | some content => simp

theorem get?_upsert (catalog : Catalog) (uri uri' : Text) (content : Bytes) :
    get? (upsert catalog uri content) uri' =
      if uri = uri' then some content else get? catalog uri' := by
  rw [get?, upsert, Table.find?_insert]
  split <;> rfl

theorem get?_delete (catalog : Catalog) (uri uri' : Text) :
    get? (delete catalog uri) uri' = if uri = uri' then none else get? catalog uri' := by
  rw [get?, delete, Table.find?_adjust]
  split
  · cases catalog.find? uri' <;> rfl
  · rfl

theorem keys_upsert (catalog : Catalog) (uri : Text) (content : Bytes) :
    (upsert catalog uri content).keys =
      if uri ∈ catalog.keys then catalog.keys else catalog.keys ++ [uri] :=
  Table.keys_insert catalog uri _

@[simp] theorem keys_delete (catalog : Catalog) (uri : Text) :
    (delete catalog uri).keys = catalog.keys :=
  Table.keys_adjust catalog uri _

/-- A catalog is told by its slots in order and the documents in them. -/
theorem eq_of_get? {catalog catalog' : Catalog} (hk : catalog.keys = catalog'.keys)
    (hg : ∀ uri, get? catalog uri = get? catalog' uri) : catalog = catalog' := by
  -- a slot that is there holds the document of its URI, or is cleared
  have hslot : ∀ (c : Catalog) (uri : Text),
      c.find? uri = if c.contains uri then some (get? c uri) else none := by
    intro c uri
    rw [Table.contains, get?]
    cases c.find? uri with
    | none => rfl
    | some content => rfl
  refine Table.eq_of_find? hk ?_
  intro uri
  have hcontains : catalog.contains uri = catalog'.contains uri := by
    rw [Bool.eq_iff_iff, Table.contains_iff, Table.contains_iff, hk]
  rw [hslot, hslot, hcontains, hg]

/-- The URIs that can be discovered are those with a document. -/
theorem mem_present_iff {catalog : Catalog} {uri : Text} :
    uri ∈ present catalog ↔ ∃ content, get? catalog uri = some content := by
  rw [present, List.mem_filterMap]
  constructor
  · intro h
    obtain ⟨⟨uri', slot⟩, hmem, hslot⟩ := h
    obtain ⟨content, rfl, rfl⟩ := Option.map_eq_some_iff.1 hslot
    exact ⟨content, by rw [get?, Table.mem_slots_iff.1 hmem]; rfl⟩
  · intro hsome
    obtain ⟨content, h⟩ := hsome
    exact ⟨(uri, some content), Table.mem_slots_iff.2 (Option.join_eq_some_iff.1 h), rfl⟩

/-- The URIs that can be discovered keep the order of the slots. -/
theorem present_sublist_keys (catalog : Catalog) : (present catalog).Sublist catalog.keys := by
  rw [present, Table.keys]
  induction catalog.slots with
  | nil => exact List.Sublist.refl []
  | cons slot rest ih =>
    obtain ⟨uri, content⟩ := slot
    cases content with
    | none => exact ih.cons uri
    | some content => exact ih.cons_cons uri

end Catalog

end CatalogCache
