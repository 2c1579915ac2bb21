import CatalogCache.Card
import CatalogCache.Catalog
import CatalogCache.Log
import CatalogCache.Upsert

/-!
# The state of the cache

The catalog and the model cards together. An upsert changes both at once.
-/

namespace CatalogCache

/-- Everything that the cache holds. -/
@[ext] structure State where
  catalog : Catalog
  cards : Cards

namespace State

/-- The cache at the start. -/
def empty : State := ⟨.empty, .empty⟩

instance : Inhabited State := ⟨empty⟩

/-- Stores a document under a URI. -/
def store (state : State) (uri : Text) (content : Bytes) : State :=
  { state with catalog := Catalog.upsert state.catalog uri content }

/-- Stores the document of an upsert under a URI, and its card under the card's key. -/
def apply (state : State) (uri : Text) (upsert : Upsert) : State where
  catalog := Catalog.upsert state.catalog uri upsert.body
  cards := Cards.upsert state.cards upsert.cardKey upsert.card upsert.token

/-- What is reported about an upsert. -/
def applied (uri : Text) (upsert : Upsert) : Record where
  level := .info
  logger := "catalog_cache.storage.memory"
  message :=
    "Upserting URI " ++ uri ++ " with data of len " ++ toString upsert.body.length ++
      " with modelcard key " ++ upsert.cardKey ++ " and modelcard len " ++
      toString upsert.card.length

/-- Takes the document of a URI away. -/
def remove (state : State) (uri : Text) : State :=
  { state with catalog := Catalog.delete state.catalog uri }

/-- Reads a card. -/
def readCard (state : State) (key : Text) : State :=
  { state with cards := Cards.afterRead state.cards key }

end State

end CatalogCache
