import CatalogCache.Config.Environment
import CatalogCache.Decimal.Digits
import CatalogCache.Fault
import CatalogCache.Log
import CatalogCache.Text.Path

/-!
# Where log records go

Two variables decide what becomes of log records. `LOG_LEVEL` is an integer: at one, as also
when the variable is not set, records from `info` on are kept, at two and above all of them.
At zero and below, or if it is no integer, no record is kept. Kept records go to the file
that `LOG_FILE` names, or to standard error. The file is opened at once, and its folder made if
need be; if the operating system refuses that, the service does not come up.

The decision is made once; later changes of the variables have no effect on it.
-/

namespace CatalogCache

/-- Which records are kept, and where they go. -/
@[ext] structure LogSetup where
  /-- The least level that is kept. -/
  level : Level
  /-- The file they go to; without one it is standard error. -/
  file : Option String
  deriving DecidableEq, Repr

namespace LogSetup

/-- The least level that is kept at a number. -/
def level? (n : Int) : Option Level :=
  if n ≤ 0 then none else if 2 ≤ n then some .debug else some .info

/-- The file that a variable names. An empty one names none. -/
def file? (raw : Option String) : Option String :=
  match raw with
  | none => none
  | some path => if path.isEmpty then none else some (Text.Path.normal path)

/-- The setup that variables ask for, `none` when no record is to be kept. -/
def ofEnvironment (env : Environment) : Option LogSetup :=
  match (Decimal.int? ((env.find? "LOG_LEVEL").getD "1")).bind level? with
  | none => none
  | some level => some ⟨level, file? (env.find? "LOG_FILE")⟩

/-- The failure to open the file of the setup that variables ask for. What comes of opening a
file is given: `none` if it can be opened, else the failure. -/
def failure? (opening : String → Option Fault) (env : Environment) : Option Fault :=
  ((ofEnvironment env).bind LogSetup.file).bind opening

/-- Without a file there is nothing to be opened. -/
theorem failure?_eq_none (opening : String → Option Fault) {env : Environment}
    (h : env.find? "LOG_FILE" = none) : failure? opening env = none := by
  rw [failure?, ofEnvironment, h]
  cases (Decimal.int? ((env.find? "LOG_LEVEL").getD "1")).bind level? with
  | none => rfl
  | some level => rfl

/-- Whether a record of some level is kept. -/
def keeps (setup : LogSetup) (level : Level) : Bool := setup.level.rank ≤ level.rank

/-- A record as a line, after the time at which it was made. -/
def line (record : Record) : Text :=
  record.level.name ++ " " ++ record.logger ++ ": " ++ record.message

/-- The lines of the records that are kept. -/
def lines (setup : LogSetup) (log : Log) : List Text :=
  (log.filter fun record => setup.keeps record.level).map line

end LogSetup

/-- Whether it was decided what becomes of log records. -/
inductive Logging where
  | undecided
  /-- It was: no record is kept when there is no setup. -/
  | decided (setup : Option LogSetup)
  deriving DecidableEq, Repr

namespace Logging

/-- Decides, unless it was decided before. -/
def configure (logging : Logging) (opening : String → Option Fault) (env : Environment) :
    Except Fault Logging :=
  match logging with
  | .decided setup => .ok (.decided setup)
  | .undecided =>
    match LogSetup.failure? opening env with
    | some fault => .error fault
    | none => .ok (.decided (LogSetup.ofEnvironment env))

theorem configure_undecided {opening : String → Option Fault} {env : Environment}
    (h : LogSetup.failure? opening env = none) :
    undecided.configure opening env = .ok (.decided (LogSetup.ofEnvironment env)) := by
  rw [configure, h]

theorem exists_configure_eq_ok (logging : Logging) (opening : String → Option Fault)
    {env : Environment} (h : env.find? "LOG_FILE" = none) :
    ∃ logging', logging.configure opening env = .ok logging' := by
  cases logging with
  | decided setup => exact ⟨_, rfl⟩
  | undecided => exact ⟨_, configure_undecided (LogSetup.failure?_eq_none opening h)⟩

/-- The setup that is in force. -/
def setup? : Logging → Option LogSetup
  | .undecided => none
  | .decided setup => setup

end Logging

end CatalogCache
