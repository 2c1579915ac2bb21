import CatalogCache.Bytes
import CatalogCache.Text.Upper

/-!
# HTTP requests

A request as it comes from a connection: the path is percent-decoded already, the query is
the text after the question mark as it stands.
-/

namespace CatalogCache.Http

/-- A request. -/
@[ext] structure Request where
  /-- What is asked for, in any case of letters. -/
  method : String
  /-- The path, percent-decoded. -/
  path : String
  /-- The query, not decoded. -/
  query : String
  body : Bytes
  /-- What the body is said to be. No endpoint goes by it. -/
  contentType : String
  /-- The scheme and host by which the client reached the service. -/
  origin : String
  deriving DecidableEq, Repr

namespace Request

/-- The method in upper case. -/
def verb (request : Request) : String := Text.upper request.method

/-- Whether the answer is to be sent without its body. The connection takes `HEAD` for that in
capitals only; in any other case of letters it asks for the same answer with its body. -/
def headOnly (request : Request) : Bool := request.method = "HEAD"

/-- The path with the slashes in front of it made one. -/
def absolutePath (request : Request) : List Char :=
  '/' :: request.path.toList.dropWhile (· == '/')

end Request

end CatalogCache.Http
