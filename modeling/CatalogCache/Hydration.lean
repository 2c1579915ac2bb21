import CatalogCache.Key
import CatalogCache.State
import CatalogCache.Storage.Client

/-!
# Hydration

At its start the cache is filled from storage. The keys are listed, and for each key in turn
the document is fetched and put into the catalog under the key's URI. A key that names no
model version is skipped. The first fetch that fails ends the run; what was loaded before it
stays.

A run needs only what storage answers (`Source`): the keys, and the outcome of each fetch.
-/

namespace CatalogCache

/-- What storage answers during a run. -/
structure Source where
  keys : Except Storage.Failure (List Text)
  /-- The document of a key, when its fetch is the `n`th of the run, counted from zero. -/
  document : (n : Nat) → (key : Text) → Except Storage.Failure Bytes

/-- The answers that a client gets over a transport: the list is the first request, the
fetches follow it. -/
def Storage.Client.source (client : Storage.Client) (transport : Storage.Transport) : Source where
  keys := (client.list transport 0).outcome
  document n key := (client.fetch transport (n + 1) key).outcome

namespace Hydration

/-- The summary of a run. -/
@[ext] structure Report where
  /-- Whether every key was seen to. -/
  completed : Bool
  /-- How many documents were loaded. -/
  loaded : Nat
  /-- How many keys were skipped. -/
  skipped : Nat
  deriving DecidableEq, Repr

/-- How far a run has come. -/
@[ext] structure Progress where
  /-- The cache so far. -/
  state : State
  /-- The keys whose documents were asked for, in order. -/
  fetched : List Text
  loaded : Nat
  skipped : Nat
  log : Log

/-- A report of this part of the service. -/
def note (level : Level) (message : Text) : Record := ⟨level, "catalog_cache.hydration", message⟩

namespace Progress

/-- The progress before the first key. -/
def start (state : State) : Progress := ⟨state, [], 0, 0, []⟩

/-- Adds a report. -/
def say (p : Progress) (level : Level) (message : Text) : Progress :=
  { p with log := p.log ++ [note level message] }

/-- A key was passed over. -/
def skip (p : Progress) (key : Text) : Progress :=
  { p with skipped := p.skipped + 1 }.say .warning
    ("bad format for key from storage when splitting with '_': " ++ key)

/-- The document of a key was asked for. -/
def ask (p : Progress) (key : Text) : Progress := { p with fetched := p.fetched ++ [key] }

/-- A document was put under a URI. -/
def load (p : Progress) (uri : Text) (content : Bytes) : Progress :=
  { p with state := p.state.store uri content, loaded := p.loaded + 1 }.say .debug
    ("Hydrated " ++ uri ++ " with data of len " ++ toString content.length)

/-- The fetch of a key failed. -/
def giveUp (p : Progress) (key : Text) (error : Storage.Error) : Progress :=
  p.say .error ("Fetching model " ++ key ++ " from storage failed: " ++ error.message)

/-- All keys were seen to. -/
def finish (p : Progress) : Progress :=
  p.say .info s!"Hydration loaded {p.loaded} catalog entries ({p.skipped} keys skipped)"

/-- The summary of the run that came this far. -/
def report (p : Progress) (completed : Bool) : Report := ⟨completed, p.loaded, p.skipped⟩

end Progress

/-- A run at its end: how far it came, and its summary, unless a fault ended it. -/
structure Run where
  progress : Progress
  report : Except Fault Report

/-- Sees to some keys in order. -/
def run (document : (n : Nat) → (key : Text) → Except Storage.Failure Bytes)
    (format : String) : List Text → Progress → Run
  | [], p => ⟨p.finish, .ok (p.report true)⟩
  | key :: rest, p =>
    -- a key is checked before its document is asked for
    match ModelVersion.ofKey (some key) with
    | .error _ => run document format rest (p.skip key)
    | .ok version =>
      match document p.fetched.length key with
      | .ok content => run document format rest ((p.ask key).load (version.uri format) content)
      -- a failed fetch ends the run, and is no fault
      | .error (.storage error) => ⟨(p.ask key).giveUp key error, .ok (p.report false)⟩
      | .error (.fault fault) => ⟨p.ask key, .error fault⟩

end Hydration

/-- Fills the cache from storage. -/
def hydrate (source : Source) (format : String) (state : State) : Hydration.Run :=
  let p := Hydration.Progress.start state
  match source.keys with
  | .error (.storage error) =>
    ⟨p.say .error ("Listing models from storage failed: " ++ error.message), .ok (p.report false)⟩
  | .error (.fault fault) => ⟨p, .error fault⟩
  | .ok keys => Hydration.run source.document format keys p

end CatalogCache
