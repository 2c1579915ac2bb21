import CatalogCache.Key
import CatalogCache.Keyed
import CatalogCache.Text.Fields

/-!
# Routes

Where a request leads is decided by its path and its method. Four paths have a meaning of
their own, paths below `/static/` lead to the files of the server, and every path of three
segments that are not empty names a document.

A path that leads nowhere is looked at once more with each run of slashes made one. If it
then leads somewhere, the client is sent there. A run of three slashes or more is treated like
one of two: `/a///b/c`, like `/a//b/c`, is answered with the location `/a/b/c`. Otherwise, a path
that leads somewhere with another method is refused for its method, and any other path is unknown.
-/

namespace CatalogCache.Http

/-- What a path leads to. -/
inductive Endpoint where
  | list
  /-- Where documents are sent. -/
  | upsert
  /-- Where documents are taken away. -/
  | remove
  | modelCard
  /-- The document of a model version in a format. -/
  | item (version : ModelVersion) (format : String)
  /-- A file of the server. -/
  | file (name : String)
  deriving DecidableEq, Repr

/-- The methods that some endpoint takes, in alphabetical order. -/
def methods : List String := ["DELETE", "GET", "HEAD", "OPTIONS", "POST"]

namespace Endpoint

/-- The methods that an endpoint takes. -/
def allowed : Endpoint → List String
  | .list | .modelCard | .item _ _ | .file _ => ["GET", "HEAD", "OPTIONS"]
  | .upsert => ["OPTIONS", "POST"]
  | .remove => ["DELETE", "OPTIONS"]

/-- Whether an endpoint takes a method. -/
def allows (endpoint : Endpoint) (method : String) : Bool := endpoint.allowed.contains method

/-- The parts of the path that are not fixed, under their names. -/
def parameters : Endpoint → List (Text × Text)
  | .item version format =>
    [("model", version.model), ("version", version.version), ("output_format", format)]
  | .file name => [("filename", name)]
  | .list | .upsert | .remove | .modelCard => []

end Endpoint

namespace Route

/-- The endpoints with a path of one segment. -/
def fixed : List (List Char × Endpoint) := [
  (['l', 'i', 's', 't'], .list),
  (['u', 'p', 's', 'e', 'r', 't'], .upsert),
  (['r', 'e', 'm', 'o', 'v', 'e'], .remove),
  (['m', 'o', 'd', 'e', 'l', 'c', 'a', 'r', 'd'], .modelCard)]

/-- The segment in front of the names of files. -/
def fileFolder : List Char := ['s', 't', 'a', 't', 'i', 'c']

/-- Whether a text is the name of a file: it begins with another character than a slash, and
no line ends after that one. -/
def isFileName : List Char → Bool
  | [] => false
  | c :: rest => c != '/' && !rest.contains '\n'

/-- The file that some segments name. -/
def file? : List (List Char) → Option Endpoint
  | folder :: segment :: rest =>
    let name := Text.joinFields '/' (segment :: rest)
    if folder = fileFolder && isFileName name then some (.file (String.ofList name)) else none
  | _ => none

/-- The document that some segments name. -/
def item? : List (List Char) → Option Endpoint
  | [model, version, format] =>
    if model.isEmpty || version.isEmpty || format.isEmpty then none
    else some (.item ⟨.ofChars model, .ofChars version⟩ (String.ofList format))
  | _ => none

/-- The endpoint with a fixed path that some segments name. -/
def fixed? : List (List Char) → Option Endpoint
  | [segment] => Keyed.find? segment fixed
  | _ => none

/-- The endpoints that a path can lead to, the ones to be preferred first. -/
def candidates (path : List Char) : List Endpoint :=
  let segments := Text.fields '/' (path.drop 1)
  -- a file hides the document of the same path
  (fixed? segments).toList ++ (file? segments).toList ++ (item? segments).toList

/-- A path with each run of slashes made one. -/
def mergeSlashes : List Char → List Char
  | [] => []
  | c :: rest =>
    if c = '/' ∧ rest.head? = some '/' then mergeSlashes rest else c :: mergeSlashes rest

example : mergeSlashes "/a///b//c".toList = "/a/b/c".toList := by decide

end Route

/-- Where a request leads. -/
inductive Route where
  /-- To an endpoint that takes its method. -/
  | found (endpoint : Endpoint)
  /-- To another path. -/
  | moved (path : List Char)
  /-- To endpoints that take other methods. -/
  | refused (allowed : List String)
  /-- Nowhere. -/
  | unknown
  deriving DecidableEq, Repr

namespace Route

/-- The methods that some of the endpoints take, in alphabetical order. -/
def union (endpoints : List Endpoint) : List String :=
  methods.filter fun method => endpoints.any (·.allows method)

/-- Where a path with one slash in front leads with a method. -/
def of (path : List Char) (method : String) : Route :=
  let direct := candidates path
  match direct.find? (·.allows method) with
  | some endpoint => .found endpoint
  | none =>
    -- a path as it stands comes before the same path with its slashes merged
    let merged := mergeSlashes path
    let indirect := candidates merged
    if indirect.any (·.allows method) then .moved merged
    else
      match union (direct ++ indirect) with
      | [] => .unknown
      | allowed => .refused allowed

end Route

end CatalogCache.Http
