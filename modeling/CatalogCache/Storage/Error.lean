import CatalogCache.Fault
import CatalogCache.Text

/-!
# Storage errors

What can go wrong between the cache and the storage service that it is filled from.
-/

namespace CatalogCache.Storage

/-- What the storage service is asked for. -/
inductive Operation where
  /-- The keys of all documents. -/
  | list
  /-- The document of a key. -/
  | fetch (key : Text)
  deriving DecidableEq, Repr

/-- The words for an operation in the message about a bad status. -/
def Operation.phrase : Operation → Text
  | .list => "list models"
  | .fetch key => "fetch model " ++ key ++ " is"

/-- Why the storage service did not give what it was asked for. -/
inductive Error where
  /-- It could not be reached. -/
  | unavailable (url cause : String)
  /-- It answered with another status than 200. -/
  | badStatus (operation : Operation) (status : Int) (text : String)
  /-- The list of keys is no JSON. -/
  | invalidJson
  /-- The list of keys is JSON of another shape. -/
  | noKeys
  deriving DecidableEq, Repr

def Error.message : Error → Text
  | .unavailable url cause => "storage request to " ++ url ++ " failed: " ++ cause
  | .badStatus operation status text =>
    "bad response code from storage " ++ operation.phrase ++ " " ++ toString status ++ ", " ++ text
  | .invalidJson => "storage list models returned invalid JSON"
  | .noKeys => "storage list models response has no 'keys' array"

/-- Why a call to the storage service did not succeed. -/
inductive Failure where
  /-- The service failed in a way that is known. -/
  | storage (error : Error)
  /-- Something below failed. -/
  | fault (fault : Fault)
  deriving DecidableEq, Repr

end CatalogCache.Storage
