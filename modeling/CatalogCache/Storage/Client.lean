import CatalogCache.Decimal.Double
import CatalogCache.Encoding.Utf8
import CatalogCache.Json.Display
import CatalogCache.Json.Parser
import CatalogCache.Log
import CatalogCache.Storage.Error

/-!
# The storage client

The storage service has two addresses, one for the list of keys and one for the document of
a key. A call sends one request and reads one reply. Sending is left to a transport, a
function from the request to the reply, so that the client itself is pure: what it asks for
(`listRequest`, `fetchRequest`) and what it makes of a reply (`readKeys`, `readDocument`).

The keys come as a JSON array, or as an object with the array as its member `keys`. A key
that is no text is taken in its plain notation.
-/

namespace CatalogCache.Storage

/-- A request to the storage service. -/
@[ext] structure Request where
  url : String
  headers : List (String × String)
  /-- The value of the parameter `key`, if the request has one. -/
  key : Option Text
  /-- The seconds to wait for the reply. -/
  timeout : Double
  deriving DecidableEq, Repr

/-- What comes back for a request. -/
inductive Reply where
  | response (status : Int) (body : Bytes)
  | unreachable (cause : String)
  | fault (fault : Fault)

/-- How requests are answered: the reply to the request that is the `n`th of a run, counted
from zero. -/
abbrev Transport := (n : Nat) → Request → Reply

/-- How to reach the storage service. -/
structure Client where
  /-- The address that both addresses of the service begin with. -/
  baseUrl : String
  /-- The token to present, if there is one. -/
  token : Option String
  /-- The seconds to wait for each reply. -/
  timeout : Double

namespace Client

/-- The base address without the slashes at its end. -/
def base (client : Client) : String :=
  String.ofList (Text.dropEndWhile (· == '/') client.baseUrl.toList)

/-- The header fields of each request. An empty token counts as none. -/
def headers (client : Client) : List (String × String) :=
  ("Accept", "application/json") ::
    match client.token with
    | none => []
    | some token => if token.isEmpty then [] else [("Authorization", "Bearer " ++ token)]

def listRequest (client : Client) : Request :=
  ⟨client.base ++ "/list", client.headers, none, client.timeout⟩

def fetchRequest (client : Client) (key : Text) : Request :=
  ⟨client.base ++ "/fetch", client.headers, some key, client.timeout⟩

end Client

/-- The body of a reply with status 200. -/
def readBody (operation : Operation) (url : String) : Reply → Except Failure Bytes
  | .fault fault => .error (.fault fault)
  | .unreachable cause => .error (.storage (.unavailable url cause))
  | .response status body =>
    if status = 200 then .ok body
    else
      .error (.storage (.badStatus operation status (String.ofList (Utf8.decodeLossy body))))

/-- The text of a body. -/
def bodyText (body : Bytes) : Text := .ofChars (Utf8.decodeLossy body)

@[simp] theorem bodyText_encode (cs : List Char) : bodyText (Utf8.encode cs) = .ofChars cs := by
  rw [bodyText, Utf8.decodeLossy_encode]

/-- The array of keys in a JSON value. -/
def keyItems? : Json → Option (List Json)
  | .array items => some items
  | .object members =>
    match Keyed.find? ("keys" : Text) members with
    | some (.array items) => some items
    | _ => none
  | _ => none

/-- The keys that the text of a list holds. -/
def keysOfText (text : Text) : Except Error (List Text) :=
  match Json.parseText? text with
  | none => .error .invalidJson
  | some payload =>
    match keyItems? payload with
    | none => .error .noKeys
    | some items => .ok (items.map Json.plain)

/-- The keys that the reply to a request for the list holds. -/
def readKeys (url : String) (reply : Reply) : Except Failure (List Text) :=
  match readBody .list url reply with
  | .error failure => .error failure
  | .ok body => (keysOfText (bodyText body)).mapError .storage

/-- The document that the reply to a request for a key holds. -/
def readDocument (key : Text) (url : String) (reply : Reply) : Except Failure Bytes :=
  readBody (.fetch key) url reply

/-- A call to the storage service, seen from its end. -/
structure Call (α : Type) where
  sent : List Request
  outcome : Except Failure α

namespace Client

/-- Asks for the list of keys, by a request that is the `n`th of a run. -/
def list (client : Client) (transport : Transport) (n : Nat) : Call (List Text) :=
  let request := client.listRequest
  ⟨[request], readKeys request.url (transport n request)⟩

/-- Asks for the document of a key, by a request that is the `n`th of a run. -/
def fetch (client : Client) (transport : Transport) (n : Nat) (key : Text) : Call Bytes :=
  let request := client.fetchRequest key
  ⟨[request], readDocument key request.url (transport n request)⟩

end Client

/-- What is reported when a call has ended, whatever came of it: the operation and the time
that it took. -/
def timing (operation : Operation) (elapsed : String) : Record where
  level := .debug
  logger := "BridgeStorageClient"
  message :=
    let name := match operation with
      | .list => "storage.list_model_keys"
      | .fetch _ => "storage.fetch_model"
    "Operation " ++ name ++ " completed in " ++ elapsed ++ " ms"

end CatalogCache.Storage
