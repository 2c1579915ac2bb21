import CatalogCache.Fault
import CatalogCache.Http.Location
import CatalogCache.Http.Query
import CatalogCache.Http.RequestLog
import CatalogCache.Http.Response
import CatalogCache.Http.Route
import CatalogCache.Json.Document
import CatalogCache.State

/-!
# The cache over HTTP

The service as a function: an application and a request give the state afterwards, a
response and the records that were made. Reading a document or the list of URIs changes
nothing; a read of a model card is remembered at the card. What the web server notes on its own
account, when a request fails in a way that nobody answers for, is not among the records.

Documents are sent to `/upsert` and taken away at `/remove`, under the key in the query. They
are read under their URI, which is also their path. The key of a model card may be any text.

A catalog can hold entries whose URI is no text (`foreign`). No path leads to them, and as
long as there are any the list of URIs has no JSON form.
-/

namespace CatalogCache.Http

/-- The service with all that it answers from. -/
structure App where
  /-- The output format, the last segment of the URIs that keys stand for. -/
  format : String
  /-- The URIs of the catalog that are no text. -/
  foreign : List Bytes
  /-- What the cache holds under texts. -/
  state : State

/-- What came of a request. -/
structure Exchange where
  state : State
  response : Response
  log : Log

/-- What an endpoint makes of a request. -/
structure Handled where
  state : State
  status : Nat
  entity : Entity
  log : Log

namespace App

/-- A report of the service itself. -/
def serviceNote (level : Level) (message : Text) : Record :=
  ⟨level, "catalog_cache.webapp", message⟩

/-- A report of an endpoint. -/
def note (level : Level) (message : Text) : Record :=
  ⟨level, "catalog_cache.webapp.api", message⟩

/-- The service over a state. A URI that is no text has one entry, however often it is given. -/
def ofState (format : String) (foreign : List Bytes) (state : State) : App :=
  ⟨format, foreign.eraseDups, state⟩

/-- How many slots the catalog has. -/
def entries (app : App) : Nat := app.state.catalog.size + app.foreign.length

/-- What is reported when the service has been set up. -/
def created (app : App) : Record :=
  serviceNote .info
    ("Catalog cache app created with " ++ toString app.entries ++ " catalog entries")

/-- Sets the service up. Without a state to answer from there is no service. -/
def create (format : String) (foreign : List Bytes) : Option State → Except Fault App
  | none => .error (.internal "CATALOG_STATE config must be a CatalogState instance")
  | some state => .ok (ofState format foreign state)

/-! ## Bodies of answers -/

/-- The body that reports an error. -/
def errorEntity (message : Text) : Entity := .ofJson (.object [("error", .string message)])

/-- The body that names a URI. -/
def uriEntity (uri : Text) : Entity := .ofJson (.object [("uri", .string uri)])

/-- The body that lists URIs. -/
def urisEntity (uris : List Text) : Entity :=
  .ofJson (.object [("uris", .array (uris.map .string))])

/-! ## Endpoints -/

/-- The URI that the key of a request stands for. -/
def uriOf (app : App) (request : Request) : Except KeyError Text :=
  uriOfKey (Query.text? request.query "key") app.format

/-- Lists the URIs of all documents. -/
def list (app : App) : Handled :=
  if app.foreign.isEmpty then
    ⟨app.state, 200, urisEntity (Catalog.present app.state.catalog), []⟩
  else
    let cause := "Object of type bytes is not JSON serializable"
    ⟨app.state, 500, errorEntity cause,
      [note .error ("Failed to serialise discovery response: " ++ cause)]⟩

/-- The upsert in the body of a request, or what is wrong with the body. -/
def upsertOf (body : Bytes) : Except String Upsert :=
  match Json.ofBytes? body with
  | none | some .null => .error "body is not valid JSON"
  | some payload => (Upsert.ofJson payload).mapError UpsertError.message

/-- Stores a document and a model card. -/
def upsert (app : App) (request : Request) : Handled :=
  -- the key comes before the body, and both before anything is written
  match app.uriOf request with
  | .error error => ⟨app.state, 400, errorEntity error.message, []⟩
  | .ok uri =>
    match upsertOf request.body with
    | .error cause =>
      let message := "error reading POST body: " ++ cause
      ⟨app.state, 400, errorEntity message, [note .error message]⟩
    | .ok upsert =>
      ⟨app.state.apply uri upsert, 201, uriEntity uri, [State.applied uri upsert]⟩

/-- Takes a document away. -/
def remove (app : App) (request : Request) : Handled :=
  match app.uriOf request with
  | .error error => ⟨app.state, 400, errorEntity error.message, []⟩
  | .ok uri =>
    ⟨app.state.remove uri, 200, uriEntity uri, [note .info ("Removing URI " ++ uri)]⟩

/-- Serves a model card. -/
def modelCard (app : App) (request : Request) : Handled :=
  let key := (Query.text? request.query "key").getD []
  -- a read leaves no trace unless the card is served
  let state := app.state.readCard key
  match Cards.reading app.state.cards key with
  | .notFound =>
    ⟨state, 404, errorEntity ("no model card found for '" ++ key ++ "'"),
      [note .info ("no model card found for " ++ key)]⟩
  | .notModified =>
    ⟨state, 304, .none, [note .info ("no update required for model card " ++ key)]⟩
  | .fresh content =>
    let served := note .info ("return model card content for " ++ key)
    match Utf8.encodeText? content with
    | some bytes => ⟨state, 200, .data "text/markdown" bytes, [served]⟩
    -- by now the read is counted, though nothing can be sent
    | none => ⟨state, 500, .page, [served]⟩

/-- Serves a document. -/
def item (app : App) (version : ModelVersion) (format : String) : Handled :=
  let uri := version.uri format
  match Catalog.fetch app.state.catalog uri with
  | .error error => ⟨app.state, 404, errorEntity error.message, []⟩
  | .ok content =>
    ⟨app.state, 200, .data "application/json" content,
      [note .info ("returning content: uri " ++ uri ++ " with data of len " ++
        toString content.length)]⟩

/-- What an endpoint makes of a request with one of its methods, other than `OPTIONS`. The
server has no files. -/
def handle (app : App) (request : Request) : Endpoint → Handled
  | .list => app.list
  | .upsert => app.upsert request
  | .remove => app.remove request
  | .modelCard => app.modelCard request
  | .item version format => app.item version format
  | .file _ => ⟨app.state, 404, .page, []⟩

/-! ## Requests -/

/-- What is known about a request, its body apart. -/
def summary (request : Request) (route : Route) : RequestSummary where
  method := some request.verb
  path := String.ofList request.absolutePath
  query := (Query.first request.query).map fun p => (Text.ofString p.1, .string p.2)
  pathParameters :=
    match route with
    | .found endpoint => endpoint.parameters.map fun p => (p.1, .string p.2)
    | .moved _ | .refused _ | .unknown => []

/-- Answers a request of which the route is known. A client that is to be sent elsewhere, and
whose query makes no address, learns that the server failed. -/
def answer (app : App) (id : String) (request : Request) (route : Route) : Exchange :=
  let page := fun (status : Nat) (allow : Option (List String)) (location : Option String) =>
    (⟨app.state, ⟨status, .page, false, id, allow, location⟩, []⟩ : Exchange)
  match route with
  | .unknown => page 404 none none
  | .refused allowed => page 405 (some allowed) none
  | .moved path =>
    match Location.of? request path with
    | some address => page 308 none (some address)
    | none => page 500 none none
  | .found endpoint =>
    -- no endpoint sees a question for its methods
    if request.verb = "OPTIONS" then page 200 (some endpoint.allowed) none
    else
      let handled := app.handle request endpoint
      ⟨handled.state, ⟨handled.status, handled.entity, request.headOnly, id, none, none⟩,
        handled.log⟩

/-- Answers a request under an identifier, which the answer carries. Each request is reported
before anything else; its body is bytes, so that cannot fail. -/
def serve (app : App) (id : String) (request : Request) : Exchange :=
  let route := Route.of request.absolutePath request.verb
  let exchange := app.answer id request route
  { exchange with
    log := (summary request route).records "catalog_cache.webapp" (some id)
      (Payload.previewBytes request.body) ++ exchange.log }

end App

end CatalogCache.Http
