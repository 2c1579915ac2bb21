import CatalogCache.Config.DotEnv
import CatalogCache.Decimal.Double
import CatalogCache.Text.Quoted

/-!
# Settings

What the service has to know to run. Settings come from the variables of the process, which
a file may have supplied, and the command line can override some of them. A variable that is
blank counts as not set, and blank space around a value does not count.

What is put together in this way is a draft. It becomes settings when it passes a check as a
whole: after it was read from the variables, and once more when the command line has
overridden some of it. A setting may be without a value: because nothing was given for it, or
because an option was given that has none (`Absence`). A host and an address of storage may be
without one. An output format, a port and a time to wait may not, and of these a port and a
time cannot even be compared with their limits then.
-/

namespace CatalogCache

/-- Why there is no value. -/
inductive Absence where
  /-- Nothing was given. -/
  | unset
  /-- An option was given that has no value. -/
  | empty
  deriving DecidableEq, Repr

/-- What there is in place of a value, as a text. -/
def Absence.text : Absence → String
  | .unset => "None"
  | .empty => "[]"

/-- The kind of what there is in place of a value, as it is named in messages. -/
def Absence.kind : Absence → String
  | .unset => "NoneType"
  | .empty => "list"

/-- What is given for a setting. -/
inductive Given (α : Type) where
  | value (a : α)
  | absent (why : Absence)
  deriving DecidableEq, Repr

namespace Given

variable {α : Type}

/-- A value that there may be. -/
def ofOption : Option α → Given α
  | some a => .value a
  | none => .absent .unset

/-- What is given, or something else where nothing is. -/
def or : Given α → Given α → Given α
  | .absent .unset, other => other
  | given, _ => given

end Given

/-- What the service has to know to run. -/
@[ext] structure Settings where
  /-- The last segment of the URIs that keys stand for. -/
  outputFormat : String
  /-- The interface to listen on. -/
  host : Given String
  /-- The port to listen on. -/
  port : Int
  /-- The address of the storage service, if documents are loaded from one. -/
  storageUrl : Given String
  /-- The token to present to the storage service. -/
  storageToken : Option String
  /-- The seconds to wait for each reply of the storage service. -/
  storageTimeout : Double
  deriving DecidableEq, Repr

/-- What is wrong with settings. -/
inductive SettingsError where
  /-- The output format is no path segment. -/
  | badFormat
  /-- There is no such port. -/
  | badPort (port : Int)
  | noPort (why : Absence)
  /-- The time to wait is not positive. -/
  | badTimeout
  | noTimeout (why : Absence)
  | notInteger (name raw : String)
  | notNumber (name raw : String)
  deriving DecidableEq, Repr

def SettingsError.message : SettingsError → String
  | .badFormat => "CATALOG_OUTPUT_FORMAT must be a single non-empty path segment"
  | .badPort port => "CATALOG_PORT out of range: " ++ toString port
  | .noPort why => "'<' not supported between instances of 'int' and '" ++ why.kind ++ "'"
  | .badTimeout => "CATALOG_STORAGE_TIMEOUT must be positive"
  | .noTimeout why => "'<=' not supported between instances of '" ++ why.kind ++ "' and 'int'"
  | .notInteger name raw => name ++ " must be an integer, got " ++ Text.quoted raw
  | .notNumber name raw => name ++ " must be a number, got " ++ Text.quoted raw

/-! ## Reading variables -/

namespace Environment

/-- The value of a variable without the blank space around it, unless it is blank. -/
def text? (env : Environment) (name : String) : Option String :=
  match env.find? name with
  | none => none
  | some raw => if (Text.trimmed raw).isEmpty then none else some (Text.trimmed raw)

/-- The integer that a variable holds. -/
def int (env : Environment) (name : String) (default : Int) : Except SettingsError Int :=
  match env.text? name with
  | none => .ok default
  | some raw =>
    match Decimal.int? raw with
    | some n => .ok n
    | none => .error (.notInteger name raw)

/-- The number that a variable holds. -/
def double (env : Environment) (name : String) (default : Double) :
    Except SettingsError Double :=
  match env.text? name with
  | none => .ok default
  | some raw =>
    match Double.ofText? raw with
    | some x => .ok x
    | none => .error (.notNumber name raw)

end Environment

/-! ## Drafts -/

/-- Settings before they are checked. -/
@[ext] structure Draft where
  outputFormat : Given String
  host : Given String
  port : Given Int
  storageUrl : Given String
  storageToken : Option String
  storageTimeout : Given Double
  deriving DecidableEq, Repr

namespace Draft

/-- An output format that is a path segment. -/
def checkFormat : Given String → Except SettingsError String
  | .absent _ => .error .badFormat
  | .value format =>
    if format.isEmpty || format.toList.contains '/' then .error .badFormat else .ok format

/-- A port that there is. -/
def checkPort : Given Int → Except SettingsError Int
  | .absent why => .error (.noPort why)
  | .value port => if port ≤ 0 ∨ 65536 ≤ port then .error (.badPort port) else .ok port

/-- A time to wait that is positive. -/
def checkTimeout : Given Double → Except SettingsError Double
  | .absent why => .error (.noTimeout why)
  | .value timeout => if timeout.isAtMostZero then .error .badTimeout else .ok timeout

/-- The settings of a draft, or the first thing that is wrong with it. -/
def check (d : Draft) : Except SettingsError Settings := do
  let outputFormat ← checkFormat d.outputFormat
  let port ← checkPort d.port
  let storageTimeout ← checkTimeout d.storageTimeout
  return {
    outputFormat, host := d.host, port, storageUrl := d.storageUrl
    storageToken := d.storageToken, storageTimeout }

end Draft

namespace Settings

/-- The settings of a process without variables. -/
def default : Settings where
  outputFormat := "catalog-info.yaml"
  host := .value "0.0.0.0"
  port := 9090
  storageUrl := .absent .unset
  storageToken := none
  storageTimeout := .ofInt 30

/-- Settings as a draft, to be changed. -/
def draft (s : Settings) : Draft where
  outputFormat := .value s.outputFormat
  host := s.host
  port := .value s.port
  storageUrl := s.storageUrl
  storageToken := s.storageToken
  storageTimeout := .value s.storageTimeout

/-- The settings that variables hold. -/
def ofEnvironment (env : Environment) : Except SettingsError Settings := do
  let port ← env.int "CATALOG_PORT" default.port
  let timeout ← env.double "CATALOG_STORAGE_TIMEOUT" default.storageTimeout
  Draft.check {
    outputFormat := .value ((env.text? "CATALOG_OUTPUT_FORMAT").getD default.outputFormat)
    host := (Given.ofOption (env.text? "CATALOG_HOST")).or default.host
    port := .value port
    storageUrl := .ofOption (env.text? "CATALOG_STORAGE_URL")
    storageToken := env.text? "CATALOG_STORAGE_TOKEN"
    storageTimeout := .value timeout }

end Settings

/-- Settings that replace others, as far as they are given. -/
@[ext] structure Overrides where
  host : Given String
  port : Given Int
  outputFormat : Given String
  storageUrl : Given String
  deriving DecidableEq, Repr

namespace Overrides

/-- Nothing is replaced. -/
def none : Overrides := ⟨.absent .unset, .absent .unset, .absent .unset, .absent .unset⟩

/-- A draft with the replacements put in. -/
def apply (o : Overrides) (d : Draft) : Draft :=
  { d with
    host := o.host.or d.host
    port := o.port.or d.port
    outputFormat := o.outputFormat.or d.outputFormat
    storageUrl := o.storageUrl.or d.storageUrl }

end Overrides

/-! ## Settings of a process -/

/-- Why a process has no settings. -/
inductive ConfigError where
  /-- Its file cannot be read to its end. -/
  | file (cause : DotEnv.LoadError)
  | settings (cause : SettingsError)
  deriving DecidableEq, Repr

def ConfigError.message : ConfigError → String
  | .file cause => cause.message
  | .settings cause => cause.message

namespace Variables

/-- The settings of a process, after its file was read into its variables. -/
def settings (vars : Variables) (file : Option Bytes) : Variables × Except ConfigError Settings :=
  match vars.load file with
  | (vars, some cause) => (vars, .error (.file cause))
  | (vars, none) => (vars, (Settings.ofEnvironment vars.environment).mapError .settings)

/-- The settings of a process whose file is where a path leads. -/
def settingsAt (vars : Variables) (files : Files) (path : String) :
    Except ReachError (Variables × Except ConfigError Settings) :=
  match vars.loadAt files path with
  | .error error => .error error
  | .ok (vars, some cause) => .ok (vars, .error (.file cause))
  | .ok (vars, none) =>
    .ok (vars, (Settings.ofEnvironment vars.environment).mapError .settings)

/-- The settings of a process with those of the command line put in. They are checked before
and, if anything was put in, after that. -/
def resolve (vars : Variables) (file : Option Bytes) (o : Overrides) :
    Variables × Except ConfigError Settings :=
  match vars.settings file with
  | (vars, .error error) => (vars, .error error)
  | (vars, .ok s) => (vars, ((o.apply s.draft).check).mapError .settings)

end Variables

end CatalogCache
