import CatalogCache.Decimal.Digits
import CatalogCache.Http.Query
import CatalogCache.Http.Request
import CatalogCache.Http.Response

/-!
# Requests and responses on a connection

On a connection a request is a line with the method and the target, lines with header
fields, an empty line, and a body of the announced length. A response has the same form,
with the status in its first line.
-/

namespace CatalogCache.Http

/-- The lines in front of a body. -/
structure Head where
  method : String
  /-- The target: a path and, after a question mark, a query. -/
  target : List Char
  /-- The header fields, their names in lower case. -/
  fields : List (String × String)

namespace Head

/-- A header field: a name, a colon and a value. -/
def field (line : List Char) : String × String :=
  (String.ofList ((line.takeWhile (· != ':')).map Char.toLower),
    String.ofList (Text.trim ((line.dropWhile (· != ':')).drop 1)))

/-- The lines of a head, the empty one left out. -/
def ofLines? : List (List Char) → Option Head
  | [] => none
  | first :: rest =>
    match Text.fields ' ' (Text.trim first) with
    | method :: target :: _ => some ⟨String.ofList method, target, rest.map field⟩
    | _ => none

/-- The announced length of the body. -/
def bodyLength (head : Head) : Nat :=
  (((Keyed.find? "content-length" head.fields).bind Decimal.int?).getD 0).toNat

/-- The request with this head and a body. -/
def request (head : Head) (body : Bytes) : Request where
  method := head.method
  path :=
    String.ofList (Utf8.decodeLossy (Percent.bytes (head.target.takeWhile (· != '?'))))
  query := String.ofList ((head.target.dropWhile (· != '?')).drop 1)
  body := body
  contentType := (Keyed.find? "content-type" head.fields).getD ""
  origin := "http://" ++ (Keyed.find? "host" head.fields).getD "localhost"

end Head

namespace Response

/-- The words for a status. -/
def reason (status : Nat) : String :=
  match status with
  | 200 => "OK"
  | 201 => "Created"
  | 304 => "Not Modified"
  | 308 => "Permanent Redirect"
  | 400 => "Bad Request"
  | 404 => "Not Found"
  | 405 => "Method Not Allowed"
  | 500 => "Internal Server Error"
  | _ => ""

/-- The text of a page of the server. -/
def pageText (status : Nat) : String :=
  s!"<!doctype html>\n<title>{status}</title>\n<p>" ++ reason status ++ "</p>\n"

/-- The body and its announced length, pages included. -/
def wireBody (response : Response) : Bytes × Option Nat :=
  match response.entity with
  | .none => ([], none)
  | .page =>
    let bytes := Utf8.encodeString (pageText response.status)
    (bytes, some bytes.length)
  | .data _ bytes => (if response.headOnly then [] else bytes, some bytes.length)

/-- The header fields of a response whose body has a length. -/
def wireFields (response : Response) (length : Option Nat) : List (String × String) :=
  (response.entity.mediaType?.toList.map fun mediaType => ("Content-Type", mediaType)) ++
    (length.toList.map fun n => ("Content-Length", toString n)) ++
    (response.allow.toList.map fun methods => ("Allow", ", ".intercalate methods)) ++
    (response.location.toList.map fun address => ("Location", address)) ++
    [("X-Request-Id", response.requestId)]

/-- A response as it is sent. -/
def toWire (response : Response) : Bytes :=
  let (body, length) := response.wireBody
  let status := response.status
  let first := s!"HTTP/1.1 {status} " ++ reason status ++ "\r\n"
  let fields := (response.wireFields length).map fun f => f.1 ++ ": " ++ f.2 ++ "\r\n"
  Utf8.encodeString (first ++ String.join fields ++ "\r\n") ++ body

end Response

/-- The identifier of a request that sixteen random bytes give: version four, in the groups of
digits that such identifiers have. -/
def requestIdOf (bytes : Bytes) : String :=
  let set := fun (i : Nat) (b : UInt8) =>
    -- four bits say the version, two the variant
    if i = 6 then b &&& 0x0F ||| 0x40 else if i = 8 then b &&& 0x3F ||| 0x80 else b
  let digits := (bytes.mapIdx set).flatMap fun b => Hex.digits 2 b.toNat
  let group := fun (start length : Nat) => String.ofList ((digits.drop start).take length)
  "-".intercalate [group 0 8, group 8 4, group 12 4, group 16 4, group 20 12]

end CatalogCache.Http
