import CatalogCache.Encoding.Utf8
import CatalogCache.Json.Printer

/-!
# HTTP responses

The answer to a request: a status, a body of a certain type, and a few header fields. The
pages that the server itself shows to people, for paths that lead nowhere and the like, are
HTML.
-/

namespace CatalogCache.Http

/-- The body of a response. -/
inductive Entity where
  | none
  /-- A page of the server. -/
  | page
  /-- Bytes of a media type. -/
  | data (mediaType : String) (bytes : Bytes)
  deriving DecidableEq, Repr

namespace Entity

/-- The JSON text of a value, compact and with a line feed at its end. -/
def ofJson (v : Json) : Entity :=
  .data "application/json" (Utf8.encode (v.print Json.compact ++ ['\n']))

/-- The media type of a body, with the character set of pages. -/
def mediaType? : Entity → Option String
  | .none => Option.none
  | .page => some "text/html; charset=utf-8"
  | .data mediaType _ => some mediaType

end Entity

/-- A response. -/
@[ext] structure Response where
  status : Nat
  entity : Entity
  /-- Whether the body is left out, though all the rest is as if it were there. -/
  headOnly : Bool
  requestId : String
  /-- The methods that the path takes, where the client needs to know. -/
  allow : Option (List String)
  /-- Where the client is sent. -/
  location : Option String
  deriving DecidableEq, Repr

namespace Response

/-- The bytes that are sent as body, pages apart. -/
def content (response : Response) : Bytes :=
  match response.entity with
  | .data _ bytes => if response.headOnly then [] else bytes
  | .none | .page => []

/-- The announced length of the body, pages apart. -/
def contentLength? (response : Response) : Option Nat :=
  match response.entity with
  | .data _ bytes => some bytes.length
  | .none | .page => none

end Response

end CatalogCache.Http
