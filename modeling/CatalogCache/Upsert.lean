import CatalogCache.Encoding.Base64
import CatalogCache.Json.Basic

/-!
# Upserts

What a sender wants stored: a document, and a model card with its key and freshness token.
It arrives as a JSON object. The document is its member `body` in base64; the three texts
are members that may be missing or null, and are then empty.

The members are looked at one after the other, and the first that does not fit is the one
that is reported.
-/

namespace CatalogCache

/-- A document and a model card to be stored. -/
@[ext] structure Upsert where
  /-- The document. -/
  body : Bytes
  cardKey : Text
  card : Text
  /-- The freshness token of the card. -/
  token : Text
  deriving DecidableEq, Repr

/-- Why a JSON value is no upsert. -/
inductive UpsertError where
  | notObject
  /-- The document is missing or null. -/
  | bodyMissing
  | bodyNotText
  | bodyNotBase64 (cause : Base64.Error)
  /-- A member that must be a text is something else. -/
  | notText (name : String)

def UpsertError.message : UpsertError → String
  | .notObject => "request body must be a JSON object"
  | .bodyMissing => "'body' is required"
  | .bodyNotText => "'body' must be a base64 encoded string"
  | .bodyNotBase64 cause => "'body' is not valid base64: " ++ cause.message
  | .notText name => "'" ++ name ++ "' must be a string"

namespace Upsert

/-- The document that a member holds. -/
def bodyOf : Option Json → Except UpsertError Bytes
  | none | some .null => .error .bodyMissing
  | some (.string text) =>
    match Base64.decodeText text with
    | .ok bytes => .ok bytes
    | .error cause => .error (.bodyNotBase64 cause)
  | some _ => .error .bodyNotText

/-- The text that the member of a name holds, empty when it is missing or null. -/
def textOf (name : String) : Option Json → Except UpsertError Text
  | none | some .null => .ok []
  | some (.string text) => .ok text
  | some _ => .error (.notText name)

/-- The upsert that a JSON value describes. -/
def ofJson (payload : Json) : Except UpsertError Upsert :=
  match payload with
  | .object members => do
    let body ← bodyOf (Keyed.find? ("body" : Text) members)
    let cardKey ← textOf "modelCardKey" (Keyed.find? ("modelCardKey" : Text) members)
    let card ← textOf "modelCard" (Keyed.find? ("modelCard" : Text) members)
    let token ←
      textOf "lastUpdateTimeSinceEpoch" (Keyed.find? ("lastUpdateTimeSinceEpoch" : Text) members)
    return ⟨body, cardKey, card, token⟩
  | _ => .error .notObject

end Upsert

end CatalogCache
