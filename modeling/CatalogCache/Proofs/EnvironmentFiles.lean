import CatalogCache.Service
import Mathlib.Tactic.SplitIfs

/-!
# What a file can supply

A file supplies variables to a run, those that the process has not. It should be all the same
whether a variable stands in the file or in the process, and for the settings it is: a run with
a file ends as a run without one whose process has the variables of both
(`run_with_file`). But for what becomes of log records it is not. That is decided before the
file is read, so `LOG_LEVEL` and `LOG_FILE` have no effect there (`level_of_file_ignored`).

Two facts are put together. A file that is read to its end leaves each name with the value that
the process gives it, or else the first line of the file (`find?_bindAll`). And a run looks at
the variables only through `find?`.
-/

namespace CatalogCache

/-- Each name has the value that an environment gives it, or else the first of some pairs. -/
def Environment.Merges (merged env : Environment) (pairs : List (String × String)) : Prop :=
  ∀ name, merged.find? name = (env.find? name).or (Keyed.find? name pairs)

/-- A single variable. -/
def Environment.single (name value : String) : Environment := Table.empty.insert name value

/-- One line of a file is as good as one variable. -/
theorem Environment.single_merges (name value : String) :
    (single name value).Merges .empty [(name, value)] := by
  intro name'
  rw [single, Table.find?_insert, Keyed.find?, Keyed.find?, Table.find?_empty, Option.none_or]

namespace DotEnv

/-! ## What a file leaves -/

section BindAll

variable {env : Environment} {name value : String}

theorem bindAll_of_set (h : env.contains name = true) (rest : List (String × String)) :
    bindAll env ((name, value) :: rest) = bindAll env rest := by
  rw [bindAll, if_pos h]

theorem bindAll_of_none (h : env.contains name = false)
    (hbind : Environment.bindError? name value = none) (rest : List (String × String)) :
    bindAll env ((name, value) :: rest) = bindAll (env.insert name value) rest := by
  rw [bindAll, if_neg (by simp [h]), Environment.bind, hbind]

theorem bindAll_of_some (h : env.contains name = false) {cause : BindError}
    (hbind : Environment.bindError? name value = some cause) (rest : List (String × String)) :
    bindAll env ((name, value) :: rest) = (env, some cause) := by
  rw [bindAll, if_neg (by simp [h]), Environment.bind, hbind]

end BindAll

theorem find?_bindAll {env : Environment} {pairs : List (String × String)}
    (h : (bindAll env pairs).2 = none) : (bindAll env pairs).1.Merges env pairs := by
  induction pairs generalizing env with
  | nil =>
    intro name
    rw [bindAll, Keyed.find?, Option.or_none]
  | cons pair rest ih =>
    obtain ⟨name', value⟩ := pair
    intro name
    cases hset : env.contains name' with
    | true =>
      rw [bindAll_of_set hset] at h ⊢
      rw [ih h name, Keyed.find?]
      by_cases hk : name' = name
      · -- the process has the name, so neither line counts
        subst hk
        obtain ⟨value', hvalue⟩ := Option.isSome_iff_exists.1 hset
        have hfind : env.find? name' = some value' := hvalue
        rw [hfind, Option.some_or, Option.some_or]
      · rw [if_neg hk]
    | false =>
      cases hbind : Environment.bindError? name' value with
      | some cause =>
        rw [bindAll_of_some hset hbind] at h
        exact absurd h (by simp)
      | none =>
        rw [bindAll_of_none hset hbind] at h ⊢
        rw [ih h name, Table.find?_insert, Keyed.find?]
        by_cases hk : name' = name
        · subst hk
          have hnone : env.find? name' = none := by
            simpa [Table.contains] using hset
          rw [if_pos rfl, if_pos rfl, hnone, Option.some_or, Option.none_or]
        · rw [if_neg hk, if_neg hk]

/-- The variables that a file sets. -/
def pairsOf (file : Bytes) : List (String × String) := pairs (Utf8.decodeLossy file)

theorem merges_load {env : Environment} {file : Bytes} (h : (load env file).2 = none) :
    (load env file).1.Merges env (pairsOf file) := by
  unfold load at h ⊢
  split at h
  · exact absurd h (by simp)
  · rename_i hdefect
    have hcause : (bindAll env (pairs (Utf8.decodeLossy file))).2 = none :=
      Option.map_eq_none_iff.1 h
    exact find?_bindAll hcause

theorem load_encodeString (env : Environment) (text : String) :
    load env (Utf8.encodeString text) =
      ((bindAll env (pairs text.toList)).1, (bindAll env (pairs text.toList)).2.map .refused) := by
  have hdefect : Utf8.defect? (Utf8.encodeString text) = none := by
    rw [← Option.not_isSome_iff_eq_none, Utf8.defect?_isSome_iff, Utf8.encodeString,
      Utf8.decode?_encode]
    exact Option.some_ne_none _
  rw [load, hdefect]
  dsimp only
  rw [Utf8.encodeString, Utf8.decodeLossy_encode]

theorem pairsOf_encodeString (text : String) :
    pairsOf (Utf8.encodeString text) = pairs text.toList := by
  rw [pairsOf, Utf8.encodeString, Utf8.decodeLossy_encode]

end DotEnv

/-! ## What variables are looked at for -/

section Congruence

variable {one other : Environment}

theorem Environment.Merges.find?_eq {env : Environment} {pairs : List (String × String)}
    (h : one.Merges env pairs) (h' : other.Merges env pairs) (name : String) :
    one.find? name = other.find? name := by
  rw [h name, h' name]

theorem Settings.ofEnvironment_congr (h : ∀ name, one.find? name = other.find? name) :
    ofEnvironment one = ofEnvironment other := by
  have htext : ∀ name, one.text? name = other.text? name := by
    intro name
    rw [Environment.text?, Environment.text?, h name]
  have hint : ∀ name default, one.int name default = other.int name default := by
    intro name default
    rw [Environment.int, Environment.int, htext name]
  have hdouble : ∀ name default, one.double name default = other.double name default := by
    intro name default
    rw [Environment.double, Environment.double, htext name]
  simp only [ofEnvironment, htext, hint, hdouble]

end Congruence

namespace Service

/-! ## Runs that differ in their variables -/

/-- Two runs came to the same, whatever was decided about log records. -/
structure SameButLogging (one other : Run) : Prop where
  ending : one.ending = other.ending
  output : one.output = other.output
  errors : one.errors = other.errors
  requests : one.requests = other.requests
  log : one.log = other.log
  /-- The settings are the same, and so is the cache. -/
  service : one.service = other.service
  listening : one.listening = other.listening

section SameRun

variable (logging logging' : Logging) (vars vars' : Variables)

theorem stop_same (ending : Ending) (output errors : String) (log : Log) :
    SameButLogging (stop ending output errors logging vars log)
      (stop ending output errors logging' vars' log) :=
  ⟨rfl, rfl, rfl, rfl, rfl, rfl, rfl⟩

theorem unconfigured_logging (error : ConfigError) :
    (unconfigured error logging vars).logging = logging := by
  unfold unconfigured
  split <;> rfl

theorem unconfigured_same (error : ConfigError) :
    SameButLogging (unconfigured error logging vars) (unconfigured error logging' vars') := by
  unfold unconfigured
  split <;> exact stop_same logging logging' vars vars' _ _ _ _

theorem start_logging (s : Settings) (transport : Storage.Transport) :
    (start s transport logging vars).logging = logging := by
  unfold start
  cases client? s with
  | none => rfl
  | some client =>
    dsimp only
    split <;> rfl

theorem start_same (s : Settings) (transport : Storage.Transport) :
    SameButLogging (start s transport logging vars) (start s transport logging' vars') := by
  unfold start
  cases client? s with
  | none => exact ⟨rfl, rfl, rfl, rfl, rfl, rfl, rfl⟩
  | some client =>
    dsimp only
    split <;> exact ⟨rfl, rfl, rfl, rfl, rfl, rfl, rfl⟩

end SameRun

/-- What becomes of log records is decided before the run, and remains so. -/
theorem runWith_logging (world : Surroundings) (logging : Logging) :
    (runWith world logging).logging = logging := by
  unfold runWith
  cases CommandLine.parse world.arguments with
  | error error => rfl
  | ok command =>
    cases command with
    | help => rfl
    | run overrides =>
      dsimp only
      cases world.vars.resolve world.file overrides with
      | mk vars settings =>
        cases settings with
        | error error => exact unconfigured_logging _ vars error
        | ok settings => exact start_logging _ vars settings world.transport

/-- Two runs with the same arguments and the same settings come to the same. -/
theorem runWith_same (logging logging' : Logging) {one other : Surroundings}
    (ha : one.arguments = other.arguments) (ht : one.transport = other.transport)
    (hs : ∀ overrides, (one.vars.resolve one.file overrides).2 =
      (other.vars.resolve other.file overrides).2) :
    SameButLogging (runWith one logging) (runWith other logging') := by
  unfold runWith
  rw [ha, ht]
  cases CommandLine.parse other.arguments with
  | error error => exact stop_same _ _ _ _ _ _ _ _
  | ok command =>
    cases command with
    | help => exact stop_same _ _ _ _ _ _ _ _
    | run overrides =>
      have hsame := hs overrides
      dsimp only
      cases hone : one.vars.resolve one.file overrides with
      | mk vars settings =>
        cases hother : other.vars.resolve other.file overrides with
        | mk vars' settings' =>
          rw [hone, hother] at hsame
          obtain rfl : settings = settings' := hsame
          cases settings with
          | error error => exact unconfigured_same _ _ vars vars' error
          | ok settings => exact start_same _ _ vars vars' settings other.transport

/-! ## A file in place of variables -/

theorem resolve_eq_of_merges {env merged : Environment} {file : Bytes}
    (hload : (DotEnv.load env file).2 = none) (hmerged : merged.Merges env (DotEnv.pairsOf file))
    (overrides : Overrides) :
    (Variables.resolve ⟨env, false⟩ (some file) overrides).2 =
      (Variables.resolve ⟨merged, false⟩ none overrides).2 := by
  have hsame : Settings.ofEnvironment (DotEnv.load env file).1 = Settings.ofEnvironment merged :=
    Settings.ofEnvironment_congr ((DotEnv.merges_load hload).find?_eq hmerged)
  cases hl : DotEnv.load env file with
  | mk env' error =>
    rw [hl] at hload hsame
    obtain rfl : error = none := hload
    dsimp only at hsame
    simp only [Variables.resolve, Variables.settings, Variables.load, hl, Bool.false_eq_true,
      if_false, hsame]
    cases Settings.ofEnvironment merged <;> rfl

/-- A fresh run: nothing was decided about log records, and no file was read. -/
def freshRun (arguments : List String) (transport : Storage.Transport)
    (opening : String → Option Fault) (env : Environment) (file : Option Bytes) : Run :=
  run ⟨arguments, ⟨env, false⟩, .undecided, file, transport, opening⟩

section FreshRun

variable (arguments : List String) (transport : Storage.Transport)
  {opening : String → Option Fault}

theorem freshRun_of_opened {env : Environment} (file : Option Bytes)
    (h : LogSetup.failure? opening env = none) :
    freshRun arguments transport opening env file =
      runWith ⟨arguments, ⟨env, false⟩, .undecided, file, transport, opening⟩
        (.decided (LogSetup.ofEnvironment env)) := by
  have hconfigure : Logging.undecided.configure opening env =
      .ok (.decided (LogSetup.ofEnvironment env)) := Logging.configure_undecided h
  exact run_of_configured hconfigure

theorem freshRun_logging {env : Environment} (file : Option Bytes)
    (h : LogSetup.failure? opening env = none) :
    (freshRun arguments transport opening env file).logging =
      .decided (LogSetup.ofEnvironment env) := by
  rw [freshRun_of_opened arguments transport file h, runWith_logging]

theorem freshRun_of_failure {env : Environment} (file : Option Bytes) {fault : Fault}
    (h : LogSetup.failure? opening env = some fault) :
    freshRun arguments transport opening env file =
      stop (.fault fault) "" "" .undecided ⟨env, false⟩ [] := by
  have hconfigure : Logging.undecided.configure opening env = .error fault := by
    rw [Logging.configure, h]
  exact run_of_not_configured hconfigure

theorem freshRun_same {env merged : Environment} {file : Bytes}
    (hload : (DotEnv.load env file).2 = none) (hmerged : merged.Merges env (DotEnv.pairsOf file))
    (hfailure : LogSetup.failure? opening env = LogSetup.failure? opening merged) :
    SameButLogging (freshRun arguments transport opening env (some file))
      (freshRun arguments transport opening merged none) := by
  cases h : LogSetup.failure? opening merged with
  | some fault =>
    rw [freshRun_of_failure arguments transport _ (hfailure.trans h),
      freshRun_of_failure arguments transport _ h]
    exact stop_same _ _ _ _ _ _ _ _
  | none =>
    rw [freshRun_of_opened arguments transport _ (hfailure.trans h),
      freshRun_of_opened arguments transport _ h]
    exact runWith_same _ _ rfl rfl (resolve_eq_of_merges hload hmerged)

/--
**A file is as good as variables of the process, but for what becomes of log records.**

Take a file that can be read to its end, and variables that are those of the process together
with those of the file that the process has not, the first line for each. A run of the process
with the file and a run with these variables and no file print the same, ask the same of
storage, report the same, come to the same settings and the same cache, and listen in the same
place. The one goes by the variables of the process alone when it decides what becomes of log
records, the other by all of them. So the two runs are alike in everything exactly if the file
has no say in that, and this is so if the process itself has those two variables that the file
sets.

All this holds if each of the two can open the file that its log records go to. A run that
cannot ends there, in the fault that the operating system reports.
-/
theorem run_with_file {env merged : Environment} {file : Bytes}
    (hload : (DotEnv.load env file).2 = none)
    (hmerged : merged.Merges env (DotEnv.pairsOf file)) :
    let withFile := freshRun arguments transport opening env (some file)
    let without := freshRun arguments transport opening merged none
    let failure := LogSetup.failure? opening
    (failure env = none → failure merged = none →
      SameButLogging withFile without ∧
        withFile.logging = .decided (LogSetup.ofEnvironment env) ∧
        without.logging = .decided (LogSetup.ofEnvironment merged) ∧
        (withFile.logging = without.logging ↔
          LogSetup.ofEnvironment env = LogSetup.ofEnvironment merged)) ∧
      (∀ fault, failure env = some fault → withFile.ending = .fault fault) ∧
      (∀ fault, failure merged = some fault → without.ending = .fault fault) ∧
      ((∀ name ∈ ["LOG_LEVEL", "LOG_FILE"], merged.find? name = env.find? name) →
        SameButLogging withFile without ∧ withFile.logging = without.logging) := by
  intro withFile without failure
  refine ⟨?_, ?_, ?_, ?_⟩
  · intro henv hm
    have hwith : withFile.logging = .decided (LogSetup.ofEnvironment env) :=
      freshRun_logging arguments transport _ henv
    have hwithout : without.logging = .decided (LogSetup.ofEnvironment merged) :=
      freshRun_logging arguments transport _ hm
    refine ⟨freshRun_same arguments transport hload hmerged (henv.trans hm.symm), hwith,
      hwithout, ?_⟩
    rw [hwith, hwithout, Logging.decided.injEq]
  · intro fault h
    exact congrArg Run.ending (freshRun_of_failure arguments transport _ h)
  · intro fault h
    exact congrArg Run.ending (freshRun_of_failure arguments transport _ h)
  · intro hnames
    have hlevel := hnames "LOG_LEVEL" (by simp)
    have hpath := hnames "LOG_FILE" (by simp)
    have hsetup : LogSetup.ofEnvironment env = LogSetup.ofEnvironment merged := by
      rw [LogSetup.ofEnvironment, LogSetup.ofEnvironment, hlevel, hpath]
    have hfailure : failure env = failure merged := by
      show LogSetup.failure? opening env = LogSetup.failure? opening merged
      rw [LogSetup.failure?, LogSetup.failure?, hsetup]
    refine ⟨freshRun_same arguments transport hload hmerged hfailure, ?_⟩
    cases h : failure merged with
    | some fault =>
      show (freshRun arguments transport opening env (some file)).logging =
        (freshRun arguments transport opening merged none).logging
      rw [freshRun_of_failure arguments transport _ (hfailure.trans h),
        freshRun_of_failure arguments transport _ h]
      rfl
    | none =>
      show (freshRun arguments transport opening env (some file)).logging =
        (freshRun arguments transport opening merged none).logging
      rw [freshRun_logging arguments transport _ (hfailure.trans h),
        freshRun_logging arguments transport _ h, hsetup]

end FreshRun

/-- The port may stand in the file. -/
theorem run_with_file_port :
    ((DotEnv.load .empty (Utf8.encodeString "CATALOG_PORT=8080")).2 = none ∧
      (Environment.single "CATALOG_PORT" "8080").Merges .empty
        (DotEnv.pairsOf (Utf8.encodeString "CATALOG_PORT=8080"))) ∧
    let merged := Environment.single "CATALOG_PORT" "8080"
    let withFile := freshRun [] (fun _ _ => .unreachable "") (fun _ => none) .empty
      (some (Utf8.encodeString "CATALOG_PORT=8080"))
    let without := freshRun [] (fun _ _ => .unreachable "") (fun _ => none) merged none
    let failure := LogSetup.failure? fun _ => none
    (failure .empty = none → failure merged = none →
      SameButLogging withFile without ∧
        withFile.logging = .decided (LogSetup.ofEnvironment .empty) ∧
        without.logging = .decided (LogSetup.ofEnvironment merged) ∧
        (withFile.logging = without.logging ↔
          LogSetup.ofEnvironment .empty = LogSetup.ofEnvironment merged)) ∧
      (∀ fault, failure .empty = some fault → withFile.ending = .fault fault) ∧
      (∀ fault, failure merged = some fault → without.ending = .fault fault) ∧
      ((∀ name ∈ ["LOG_LEVEL", "LOG_FILE"],
        merged.find? name = (Table.empty : Environment).find? name) →
        SameButLogging withFile without ∧ withFile.logging = without.logging) := by
  have hpairs : DotEnv.pairs "CATALOG_PORT=8080".toList = [("CATALOG_PORT", "8080")] := by decide
  have hload : (DotEnv.load .empty (Utf8.encodeString "CATALOG_PORT=8080")).2 = none := by
    rw [DotEnv.load_encodeString, hpairs]
    rfl
  have hmerged : (Environment.single "CATALOG_PORT" "8080").Merges .empty
      (DotEnv.pairsOf (Utf8.encodeString "CATALOG_PORT=8080")) := by
    rw [DotEnv.pairsOf_encodeString, hpairs]
    exact Environment.single_merges "CATALOG_PORT" "8080"
  exact ⟨⟨hload, hmerged⟩, run_with_file [] (fun _ _ => .unreachable "") hload hmerged⟩

/-- **A file has no say in what becomes of log records.** A process without variables, with a
file that asks for all records, keeps those from `info` on. With the variable in the process it
keeps all of them. -/
theorem level_of_file_ignored :
    (DotEnv.load .empty (Utf8.encodeString "LOG_LEVEL=2")).2 = none ∧
      (Environment.single "LOG_LEVEL" "2").Merges .empty
        (DotEnv.pairsOf (Utf8.encodeString "LOG_LEVEL=2")) ∧
      (CommandLine.parse []).isOk = true ∧
      (freshRun [] (fun _ _ => .unreachable "") (fun _ => none) .empty
        (some (Utf8.encodeString "LOG_LEVEL=2"))).logging = .decided (some ⟨.info, none⟩) ∧
      (freshRun [] (fun _ _ => .unreachable "") (fun _ => none) (.single "LOG_LEVEL" "2")
        none).logging = .decided (some ⟨.debug, none⟩) := by
  have hpairs : DotEnv.pairs "LOG_LEVEL=2".toList = [("LOG_LEVEL", "2")] := by decide
  have hnone : LogSetup.failure? (fun _ => none) .empty = none := by decide
  have htwo : LogSetup.failure? (fun _ => none) (.single "LOG_LEVEL" "2") = none := by decide
  refine ⟨?_, ?_, by decide, ?_, ?_⟩
  · rw [DotEnv.load_encodeString, hpairs]
    rfl
  · rw [DotEnv.pairsOf_encodeString, hpairs]
    exact Environment.single_merges "LOG_LEVEL" "2"
  · have hsetup : LogSetup.ofEnvironment .empty = some ⟨.info, none⟩ := by decide
    rw [freshRun_logging _ _ _ hnone, hsetup]
  · have hsetup : LogSetup.ofEnvironment (.single "LOG_LEVEL" "2") =
        some ⟨.debug, none⟩ := by decide
    rw [freshRun_logging _ _ _ htwo, hsetup]

end Service

end CatalogCache
