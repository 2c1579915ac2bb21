import CatalogCache.CommandLine
import CatalogCache.Config.LogSetup
import CatalogCache.Http.App
import CatalogCache.Hydration

/-!
# A run of the service

From the command line to the point at which requests can be answered: it is decided what
becomes of log records, the arguments are read, the settings are put together from the
vars, the file and the arguments, and the catalog is filled from storage if an address
is set. The whole is a function of its surroundings, storage included; what is left to the
outer layer is to print, to write the log, and to answer requests.

What becomes of log records is decided first, from the variables of the process alone: the
file is read after that. A file for log records that cannot be opened ends the run there.
-/

namespace CatalogCache

/-- What surrounds a run. -/
structure Surroundings where
  arguments : List String
  /-- The variables of the process. -/
  vars : Variables
  /-- Whether it was decided what becomes of log records. -/
  logging : Logging
  /-- The file that supplies vars, if there is one. -/
  file : Option Bytes
  /-- How requests to storage are answered. -/
  transport : Storage.Transport
  /-- What comes of opening a file for log records: the failure, if there is one. -/
  opening : (path : String) → Option Fault

/-- How a run ends. -/
inductive Ending where
  /-- The command line was answered, by help or by a refusal, with an exit status. -/
  | answered (status : Nat)
  /-- The run went through, or was stopped by wrong settings, with an exit status. -/
  | returned (status : Nat)
  | fault (fault : Fault)
  deriving DecidableEq, Repr

/-- Where requests are to be listened for. -/
@[ext] structure Listening where
  host : Given String
  port : Int
  deriving DecidableEq, Repr

/-- What a run leaves behind. -/
structure Run where
  ending : Ending
  output : String
  /-- What was printed as error. -/
  errors : String
  /-- What was decided about log records. -/
  logging : Logging
  /-- The variables at the end. -/
  vars : Variables
  /-- What was asked of storage. -/
  requests : List Storage.Request
  log : Log
  /-- The settings and the service, if it came so far. -/
  service : Option (Settings × Http.App)
  /-- Where requests are to be listened for, if it came so far. -/
  listening : Option Listening

namespace Service

/-- A report of this part of the service. -/
def note (level : Level) (message : Text) : Record := ⟨level, "catalog_cache.cli", message⟩

/-- The end of a run that came to no service. -/
def stop (ending : Ending) (output errors : String) (logging : Logging) (vars : Variables)
    (log : Log) : Run :=
  ⟨ending, output, errors, logging, vars, [], log, none, none⟩

/-- The client for the storage service of some settings, if they have an address for one. An
empty address counts as none. -/
def client? (s : Settings) : Option Storage.Client :=
  match s.storageUrl with
  | .absent _ => none
  | .value url =>
    if url.isEmpty then none else some ⟨url, s.storageToken, s.storageTimeout⟩

/-- A cache filled from storage: the run, and the requests that it sent. -/
def fill (client : Storage.Client) (transport : Storage.Transport) (format : String)
    (state : State) : Hydration.Run × List Storage.Request :=
  let run := hydrate (client.source transport) format state
  (run, client.listRequest :: run.progress.fetched.map client.fetchRequest)

/-- The text of a host. -/
def hostText : Given String → String
  | .value host => host
  | .absent why => why.text

/-- What is reported when requests can be answered. -/
def serving (s : Settings) : Record :=
  note .info ("Serving catalog cache on " ++ hostText s.host ++ ":" ++ toString s.port)

/-- Sets the service up and fills its catalog. -/
def start (s : Settings) (transport : Storage.Transport) (logging : Logging)
    (vars : Variables) : Run :=
  let app := Http.App.ofState s.outputFormat [] .empty
  match client? s with
  | none =>
    { ending := .returned 0, output := "", errors := "", logging, vars, requests := []
      log := [app.created,
        note .info "No storage URL configured; starting with an empty cache", serving s]
      service := some (s, app), listening := some ⟨s.host, s.port⟩ }
  | some client =>
    let (run, requests) := fill client transport s.outputFormat app.state
    let filled := { app with state := run.progress.state }
    let log := app.created :: run.progress.log
    match run.report with
    -- a fault leaves what was loaded, but nothing is listened for
    | .error fault =>
      { ending := .fault fault, output := "", errors := "", logging, vars, requests, log
        service := some (s, filled), listening := none }
    | .ok _ =>
      { ending := .returned 0, output := "", errors := "", logging, vars, requests
        log := log ++ [serving s], service := some (s, filled)
        listening := some ⟨s.host, s.port⟩ }

/-- The end of a run without settings. A variable that the operating system refuses and a
comparison of what has no value are faults, everything else is told to the user. -/
def unconfigured (error : ConfigError) (logging : Logging) (vars : Variables) : Run :=
  match error with
  | .file (.refused .emptyName) =>
    stop (.fault (.system error.message)) "" "" logging vars []
  | .settings (.noPort _) | .settings (.noTimeout _) =>
    stop (.fault (.incomparable error.message)) "" "" logging vars []
  | error =>
    let message := "Invalid configuration: " ++ error.message
    stop (.returned 2) "" (message ++ "\n") logging vars [note .error message]

/-- A run of the service of which it is decided what becomes of log records. -/
def runWith (world : Surroundings) (logging : Logging) : Run :=
  match CommandLine.parse world.arguments with
  | .error error =>
    stop (.answered 2) "" (CommandLine.refusal error) logging world.vars []
  | .ok .help => stop (.answered 0) CommandLine.helpText "" logging world.vars []
  | .ok (.run overrides) =>
    match world.vars.resolve world.file overrides with
    | (vars, .error error) => unconfigured error logging vars
    | (vars, .ok settings) => start settings world.transport logging vars

/-- A run of the service. -/
def run (world : Surroundings) : Run :=
  -- before the file is read, so what it says about logging comes too late
  match world.logging.configure world.opening world.vars.environment with
  | .error fault => stop (.fault fault) "" "" world.logging world.vars []
  | .ok logging => runWith world logging

theorem run_of_configured {world : Surroundings} {logging : Logging}
    (h : world.logging.configure world.opening world.vars.environment = .ok logging) :
    run world = runWith world logging := by
  rw [run, h]

theorem run_of_not_configured {world : Surroundings} {fault : Fault}
    (h : world.logging.configure world.opening world.vars.environment = .error fault) :
    run world = stop (.fault fault) "" "" world.logging world.vars [] := by
  rw [run, h]

end Service

end CatalogCache
