import CatalogCache.Encoding.Percent
import CatalogCache.Http.Request

/-!
# Locations

The address that a client is sent to: the origin by which it came, another path, and the
query that it came with. The path is percent-encoded, and so is what must not stand in a
query. Tabs in the query are dropped, and what follows a number sign is kept as the
fragment. A query with a line break in it makes no address, since an address is sent on one
line.
-/

namespace CatalogCache.Http.Location

/-- The characters that a path keeps. -/
def inPath (c : Char) : Bool := Percent.isUnreserved c || "!$&'()*+,/:;=@".toList.contains c

/-- The characters that a query keeps. -/
def inQuery (c : Char) : Bool := Percent.isUnreserved c || "%!$&'()*+,/:;=?@".toList.contains c

/-- The characters that a fragment keeps. -/
def inFragment (c : Char) : Bool := inQuery c || c == '#'

/-- A query or a fragment with its mark in front, nothing when it is empty. -/
def marked (mark : Char) (cs : List Char) : List Char := if cs.isEmpty then [] else mark :: cs

/-- A query and a fragment, percent-encoded. -/
def encodedQuery (cs : List Char) : List Char :=
  let kept := cs.filter (· != '\t')
  marked '?' (Percent.encode inQuery (kept.takeWhile (· != '#'))) ++
    marked '#' (Percent.encode inFragment ((kept.dropWhile (· != '#')).drop 1))

/-- Whether a text goes over the end of a line. -/
def breaksLine (cs : List Char) : Bool := cs.contains '\r' || cs.contains '\n'

/-- The address of a path at the origin of a request, with the request's query. -/
def of? (request : Request) (path : List Char) : Option String :=
  let query := request.query.toList
  if breaksLine query then none
  else some (request.origin ++
    String.ofList (Percent.encode inPath path ++ encodedQuery query))

end CatalogCache.Http.Location
