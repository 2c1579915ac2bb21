import CatalogCache.Proofs.NamelessVariables
import CatalogCache.Proofs.OptionValues
import CatalogCache.Proofs.Steps

/-!
# Runs that end in a fault

Whatever is wrong with its configuration, a run should say so and return. It does so but for two
mistakes, and these end it in a fault.

The file may set a variable without a name, which the operating system refuses in its own way
(`Variables.SetsNameless`). And the port may be given as two dashes, which leaves it without a
value, so that it cannot be compared with the limits of a port (`Variables.LacksPort`).

`run_without_storage` says that there are no others. Each step on the way to the settings is read
back into what can be wrong at it, and of all that can be wrong only these two are not told to
the user.
-/

namespace CatalogCache

/-! ## A port without a value -/

theorem Given.or_value_eq_absent_iff {α : Type} {given : Given α} {a : α} {why : Absence} :
    given.or (.value a) = .absent why ↔ given = .absent .empty ∧ why = .empty := by
  cases given with
  | value b => simp [Given.or]
  | absent why' => cases why' <;> simp [Given.or, eq_comm]

/-- Something without a value was compared. -/
def SettingsError.IsComparison : SettingsError → Prop
  | .noPort _ | .noTimeout _ => True
  | .badFormat | .badPort _ | .badTimeout | .notInteger _ _ | .notNumber _ _ => False

namespace Draft

theorem checkFormat_eq_error {format : Given String} {error : SettingsError}
    (h : checkFormat format = .error error) : error = .badFormat := by
  unfold checkFormat at h
  split at h
  · exact (Except.error.inj h).symm
  · split at h
    · exact (Except.error.inj h).symm
    · exact absurd h (by simp)

theorem checkPort_eq_error_iff {port : Given Int} {error : SettingsError}
    (hcomparison : error.IsComparison) :
    checkPort port = .error error ↔ ∃ why, port = .absent why ∧ error = .noPort why := by
  cases port with
  | absent why => simp [checkPort, eq_comm]
  | value port =>
    refine iff_of_false ?_ (by simp)
    rw [checkPort]
    split
    · intro h
      obtain rfl := Except.error.inj h
      exact hcomparison
    · simp

theorem checkTimeout_ne_error {timeout : Double} {error : SettingsError}
    (hcomparison : error.IsComparison) : checkTimeout (.value timeout) ≠ .error error := by
  rw [checkTimeout]
  split
  · intro h
    obtain rfl := Except.error.inj h
    exact hcomparison
  · simp

/-- A check of a draft with a time to wait compares nothing without a value but a port. -/
theorem check_eq_error_iff {d : Draft} {timeout : Double} (ht : d.storageTimeout = .value timeout)
    {error : SettingsError} (hcomparison : error.IsComparison) :
    d.check = .error error ↔ (∃ format, checkFormat d.outputFormat = .ok format) ∧
      ∃ why, d.port = .absent why ∧ error = .noPort why := by
  have hformat : checkFormat d.outputFormat ≠ .error error := by
    intro h
    rw [checkFormat_eq_error h] at hcomparison
    exact hcomparison
  have htimeout : checkTimeout d.storageTimeout ≠ .error error := by
    rw [ht]
    exact checkTimeout_ne_error hcomparison
  simp only [check, bind_eq_error_iff, hformat, false_or, checkPort_eq_error_iff hcomparison,
    htimeout]
  constructor
  · rintro ⟨format, hok, hport | ⟨port, -, timeout', -, h⟩⟩
    · exact ⟨⟨format, hok⟩, hport⟩
    · exact absurd h (by simp [pure, Except.pure])
  · rintro ⟨⟨format, hok⟩, hport⟩
    exact ⟨format, hok, Or.inl hport⟩

end Draft

section Environment

variable {env : Environment} {name : String} {error : SettingsError}

theorem Environment.int_ne_error {default : Int} (hcomparison : error.IsComparison) :
    env.int name default ≠ .error error := by
  intro h
  unfold Environment.int at h
  split at h
  · exact absurd h (by simp)
  · split at h
    · exact absurd h (by simp)
    · obtain rfl := Except.error.inj h
      exact hcomparison

theorem Environment.double_ne_error {default : Double} (hcomparison : error.IsComparison) :
    env.double name default ≠ .error error := by
  intro h
  unfold Environment.double at h
  split at h
  · exact absurd h (by simp)
  · split at h
    · exact absurd h (by simp)
    · obtain rfl := Except.error.inj h
      exact hcomparison

/-- The variables of a process are texts, so nothing without a value is compared. -/
theorem Settings.ofEnvironment_ne_error (hcomparison : error.IsComparison) :
    ofEnvironment env ≠ .error error := by
  intro h
  rw [ofEnvironment, bind_eq_error_iff] at h
  rcases h with h | ⟨port, -, h⟩
  · exact Environment.int_ne_error hcomparison h
  rw [bind_eq_error_iff] at h
  rcases h with h | ⟨timeout, -, h⟩
  · exact Environment.double_ne_error hcomparison h
  obtain ⟨-, why, hport, -⟩ := (Draft.check_eq_error_iff rfl hcomparison).1 h
  exact absurd hport (by simp)

end Environment

namespace Variables

/-- A port was given without a value, and nothing else is wrong that is looked at before. -/
def LacksPort (vars : Variables) (file : Option Bytes) (o : Overrides) : Prop :=
  o.port = .absent .empty ∧ ∃ s format, (vars.settings file).2 = .ok s ∧
    Draft.checkFormat (o.outputFormat.or (.value s.outputFormat)) = .ok format

theorem settings_eq_error_iff {vars : Variables} {file : Option Bytes} {error : ConfigError} :
    (vars.settings file).2 = .error error ↔
      (∃ cause, (vars.load file).2 = some cause ∧ error = .file cause) ∨
      (vars.load file).2 = none ∧ ∃ cause,
        Settings.ofEnvironment (vars.load file).1.environment = .error cause ∧
          error = .settings cause := by
  rw [settings]
  cases hload : vars.load file with
  | mk vars' cause =>
    cases cause with
    | some cause => simp [eq_comm]
    | none =>
      cases hs : Settings.ofEnvironment vars'.environment with
      | error cause => simp [hs, Except.mapError, eq_comm]
      | ok s => simp [hs, Except.mapError]

theorem resolve_eq_error_iff {vars : Variables} {file : Option Bytes} {o : Overrides}
    {error : ConfigError} :
    (vars.resolve file o).2 = .error error ↔ (vars.settings file).2 = .error error ∨
      ∃ s cause, (vars.settings file).2 = .ok s ∧ (o.apply s.draft).check = .error cause ∧
        error = .settings cause := by
  rw [resolve]
  cases hsettings : vars.settings file with
  | mk vars' settings =>
    cases settings with
    | error error' => simp
    | ok s =>
      cases hcheck : (o.apply s.draft).check with
      | error cause => simp [hcheck, Except.mapError, eq_comm]
      | ok s' => simp [hcheck, Except.mapError]

theorem resolve_eq_emptyName_iff {vars : Variables} {file : Option Bytes} {o : Overrides} :
    (vars.resolve file o).2 = .error (.file (.refused .emptyName)) ↔ vars.SetsNameless file := by
  rw [resolve_eq_error_iff, settings_eq_error_iff, ← load_eq_emptyName_iff]
  simp

theorem resolve_eq_comparison_iff {vars : Variables} {file : Option Bytes} {o : Overrides}
    {cause : SettingsError} (hcomparison : cause.IsComparison) :
    (vars.resolve file o).2 = .error (.settings cause) ↔
      cause = .noPort .empty ∧ vars.LacksPort file o := by
  have hsettings : (vars.settings file).2 ≠ .error (.settings cause) := by
    rw [Ne, settings_eq_error_iff]
    simp [Settings.ofEnvironment_ne_error hcomparison]
  rw [resolve_eq_error_iff]
  constructor
  · rintro (h | ⟨s, cause', hs, hcheck, heq⟩)
    · exact absurd h hsettings
    · obtain rfl := ConfigError.settings.inj heq
      obtain ⟨⟨format, hformat⟩, why, hport, rfl⟩ :=
        (Draft.check_eq_error_iff rfl hcomparison).1 hcheck
      obtain ⟨hempty, rfl⟩ := Given.or_value_eq_absent_iff.1 hport
      exact ⟨rfl, hempty, s, format, hs, hformat⟩
  · rintro ⟨rfl, hempty, s, format, hs, hformat⟩
    refine Or.inr ⟨s, .noPort .empty, hs, ?_, rfl⟩
    exact (Draft.check_eq_error_iff rfl hcomparison).2
      ⟨⟨format, hformat⟩, .empty, Given.or_value_eq_absent_iff.2 ⟨hempty, rfl⟩, rfl⟩

end Variables

namespace Service

/-! ## The run -/

/-- A run was refused: it told its user why, and came to nothing. -/
structure Refused (message : String) (x : Run) : Prop where
  ending : x.ending = .returned 2
  errors : x.errors = "Invalid configuration: " ++ message ++ "\n"
  log : x.log = [note .error ("Invalid configuration: " ++ message)]
  requests : x.requests = []
  service : x.service = none
  listening : x.listening = none

/-- A run started the service with some settings, and asked nothing of storage. -/
structure Started (s : Settings) (x : Run) : Prop where
  ending : x.ending = .returned 0
  errors : x.errors = ""
  requests : x.requests = []
  service : x.service = some (s, .ofState s.outputFormat [] .empty)
  listening : x.listening = some ⟨s.host, s.port⟩

/-- A run ended in a fault, told its user nothing and came to nothing. -/
structure Crashed (fault : Fault) (x : Run) : Prop where
  ending : x.ending = .fault fault
  errors : x.errors = ""
  log : x.log = []
  service : x.service = none
  listening : x.listening = none

/-- A run returned: it was refused for what is wrong with its configuration, or it started the
service with its settings. -/
def Returned (settings : Except ConfigError Settings) (x : Run) : Prop :=
  (∃ error, settings = .error error ∧ Refused error.message x) ∨
    ∃ s, settings = .ok s ∧ Started s x

section Outcome

variable (logging : Logging) (vars : Variables)

/-- What is wrong is told to the user, but for a nameless variable and for what is compared
without a value. -/
theorem refused_unconfigured {error : ConfigError} (hfile : error ≠ .file (.refused .emptyName))
    (hcomparison : ∀ cause : SettingsError, cause.IsComparison → error ≠ .settings cause) :
    Refused error.message (unconfigured error logging vars) := by
  unfold unconfigured
  split
  · exact absurd rfl hfile
  · exact absurd rfl (hcomparison _ trivial)
  · exact absurd rfl (hcomparison _ trivial)
  · exact ⟨rfl, rfl, by rw [← Text.ofString_append]; rfl, rfl, rfl, rfl⟩

theorem started_start {s : Settings} (h : client? s = none) (transport : Storage.Transport) :
    Started s (start s transport logging vars) := by
  rw [start, h]
  exact ⟨rfl, rfl, rfl, rfl, rfl⟩

end Outcome

section Settled

variable {world : Surroundings} {logging : Logging} {o : Overrides}

theorem run_of_error
    (hlogging : world.logging.configure world.opening world.vars.environment = .ok logging)
    (hargs : CommandLine.parse world.arguments = .ok (.run o))
    {error : ConfigError} (h : (world.vars.resolve world.file o).2 = .error error) :
    run world = unconfigured error logging (world.vars.resolve world.file o).1 := by
  rw [run_of_configured hlogging, runWith, hargs]
  dsimp only
  cases hresolve : world.vars.resolve world.file o with
  | mk vars settings =>
    rw [hresolve] at h
    obtain rfl : settings = .error error := h
    rfl

theorem run_of_settings
    (hlogging : world.logging.configure world.opening world.vars.environment = .ok logging)
    (hargs : CommandLine.parse world.arguments = .ok (.run o))
    {s : Settings} (h : (world.vars.resolve world.file o).2 = .ok s) :
    run world = start s world.transport logging (world.vars.resolve world.file o).1 := by
  rw [run_of_configured hlogging, runWith, hargs]
  dsimp only
  cases hresolve : world.vars.resolve world.file o with
  | mk vars settings =>
    rw [hresolve] at h
    obtain rfl : settings = .ok s := h
    rfl

theorem crashed_of_not_configured {fault : Fault}
    (h : world.logging.configure world.opening world.vars.environment = .error fault) :
    Crashed fault (run world) := by
  rw [run_of_not_configured h]
  exact ⟨rfl, rfl, rfl, rfl, rfl⟩

theorem crashed_of_setsNameless
    (hlogging : world.logging.configure world.opening world.vars.environment = .ok logging)
    (hargs : CommandLine.parse world.arguments = .ok (.run o))
    (h : world.vars.SetsNameless world.file) :
    Crashed (.system "[Errno 22] Invalid argument") (run world) := by
  rw [run_of_error hlogging hargs (Variables.resolve_eq_emptyName_iff.2 h)]
  exact ⟨rfl, rfl, rfl, rfl, rfl⟩

theorem crashed_of_lacksPort
    (hlogging : world.logging.configure world.opening world.vars.environment = .ok logging)
    (hargs : CommandLine.parse world.arguments = .ok (.run o))
    (h : world.vars.LacksPort world.file o) :
    Crashed (.incomparable "'<' not supported between instances of 'int' and 'list'")
      (run world) := by
  have hcomparison : (SettingsError.noPort .empty).IsComparison := trivial
  rw [run_of_error hlogging hargs
    ((Variables.resolve_eq_comparison_iff hcomparison).2 ⟨rfl, h⟩)]
  exact ⟨rfl, rfl, rfl, rfl, rfl⟩

/-- What is told to the user is all that can be wrong, the two mistakes apart. -/
theorem returned_of_configured
    (hlogging : world.logging.configure world.opening world.vars.environment = .ok logging)
    (hargs : CommandLine.parse world.arguments = .ok (.run o))
    (hstorage : ∀ s, (world.vars.resolve world.file o).2 = .ok s → client? s = none)
    (hnot : ¬ (world.vars.SetsNameless world.file ∨ world.vars.LacksPort world.file o)) :
    Returned (world.vars.resolve world.file o).2 (run world) := by
  cases hsettings : (world.vars.resolve world.file o).2 with
  | error error =>
    refine Or.inl ⟨error, rfl, ?_⟩
    rw [run_of_error hlogging hargs hsettings]
    refine refused_unconfigured _ _ ?_ ?_
    · rintro rfl
      exact hnot (Or.inl (Variables.resolve_eq_emptyName_iff.1 hsettings))
    · rintro cause hcomparison rfl
      exact hnot (Or.inr ((Variables.resolve_eq_comparison_iff hcomparison).1 hsettings).2)
  | ok s =>
    refine Or.inr ⟨s, rfl, ?_⟩
    rw [run_of_settings hlogging hargs hsettings]
    exact started_start _ _ (hstorage s hsettings) world.transport

theorem not_returned_of_crashed {settings : Except ConfigError Settings} {fault : Fault} {x : Run}
    (h : Crashed fault x) : ¬ Returned settings x := by
  rintro (⟨error, -, hrefused⟩ | ⟨s, -, hstarted⟩)
  · have hending := h.ending.symm.trans hrefused.ending
    exact absurd hending (by simp)
  · have hending := h.ending.symm.trans hstarted.ending
    exact absurd hending (by simp)

end Settled

/--
**A run without storage is refused with a message, or it listens, but for two mistakes.**

Let the arguments be accepted, and let no address of storage be configured. If the file for log
records cannot be opened, the run ends in that fault. Let it be opened, as it is where no
variable names one. If a line of the file of variables sets one without a name, or if the port is
given without a value, then the run ends in a fault. Otherwise it returns: it is refused and tells
its user what is wrong with its configuration, or it starts the service once, with the host and
port of its settings. Where no line of the file begins with an equals sign and no argument ends in
two dashes it returns.
-/
theorem run_without_storage (world : Surroundings) {o : Overrides}
    (hargs : CommandLine.parse world.arguments = .ok (.run o))
    (hstorage : ∀ s, (world.vars.resolve world.file o).2 = .ok s → client? s = none) :
    let x := run world
    let settings := (world.vars.resolve world.file o).2
    let configured := world.logging.configure world.opening world.vars.environment
    let opened := ∃ logging, configured = .ok logging
    (world.vars.environment.find? "LOG_FILE" = none → opened) ∧
      (∀ fault, configured = .error fault → Crashed fault x) ∧
      (Returned settings x ↔ opened ∧
        ¬ (world.vars.SetsNameless world.file ∨ world.vars.LacksPort world.file o)) ∧
      (opened → world.vars.SetsNameless world.file →
        Crashed (.system "[Errno 22] Invalid argument") x) ∧
      (opened → world.vars.LacksPort world.file o →
        Crashed (.incomparable "'<' not supported between instances of 'int' and 'list'") x) ∧
      (opened →
        (∀ bytes text, world.file = some bytes → Utf8.decode? bytes = some text →
          ∀ line ∈ Text.lines text, (Text.trim line).head? ≠ some '=') →
        (∀ argument ∈ world.arguments, ¬ CommandLine.EndsInDashes argument.toList) →
        Returned settings x) := by
  intro x settings configured opened
  have hreturned : opened →
      ¬ (world.vars.SetsNameless world.file ∨ world.vars.LacksPort world.file o) →
      Returned settings x := by
    rintro ⟨logging, hlogging⟩ hnot
    exact returned_of_configured hlogging hargs hstorage hnot
  have hnameless : opened → world.vars.SetsNameless world.file →
      Crashed (.system "[Errno 22] Invalid argument") x := by
    rintro ⟨logging, hlogging⟩ h
    exact crashed_of_setsNameless hlogging hargs h
  have hportless : opened → world.vars.LacksPort world.file o →
      Crashed (.incomparable "'<' not supported between instances of 'int' and 'list'") x := by
    rintro ⟨logging, hlogging⟩ h
    exact crashed_of_lacksPort hlogging hargs h
  refine ⟨Logging.exists_configure_eq_ok _ _, fun fault h => crashed_of_not_configured h,
    ⟨?_, fun h => hreturned h.1 h.2⟩, hnameless, hportless, ?_⟩
  · intro hreturns
    have hopened : opened := by
      cases h : configured with
      | ok logging => exact ⟨logging, h⟩
      | error fault => exact absurd hreturns (not_returned_of_crashed (crashed_of_not_configured h))
    refine ⟨hopened, ?_⟩
    rintro (h | h)
    · exact not_returned_of_crashed (hnameless hopened h) hreturns
    · exact not_returned_of_crashed (hportless hopened h) hreturns
  · intro hopened hlines hend
    refine hreturned hopened ?_
    rintro (h | h)
    · exact Variables.not_setsNameless hlines h
    · exact CommandLine.port_of_parse hargs hend h.1

/-- A process without variables and without a file has the default settings. -/
theorem settings_of_nothing :
    Variables.settings ⟨.empty, false⟩ none = (⟨.empty, true⟩, .ok Settings.default) := by
  have hdefault : Settings.ofEnvironment .empty = .ok Settings.default := by rfl
  show (_, (Settings.ofEnvironment .empty).mapError ConfigError.settings) = _
  rw [hdefault]
  rfl

/-- A run may be told its port. -/
theorem run_without_storage_port :
    let world : Surroundings :=
      ⟨["--port", "8080"], ⟨.empty, false⟩, .undecided, none, fun _ _ => .unreachable "",
        fun _ => none⟩
    let o : Overrides := { Overrides.none with port := .value 8080 }
    let x := run world
    let settings := (world.vars.resolve world.file o).2
    let configured := world.logging.configure world.opening world.vars.environment
    let opened := ∃ logging, configured = .ok logging
    (CommandLine.parse world.arguments = .ok (.run o) ∧
      ∀ s, settings = .ok s → client? s = none) ∧
    (world.vars.environment.find? "LOG_FILE" = none → opened) ∧
      (∀ fault, configured = .error fault → Crashed fault x) ∧
      (Returned settings x ↔ opened ∧
        ¬ (world.vars.SetsNameless world.file ∨ world.vars.LacksPort world.file o)) ∧
      (opened → world.vars.SetsNameless world.file →
        Crashed (.system "[Errno 22] Invalid argument") x) ∧
      (opened → world.vars.LacksPort world.file o →
        Crashed (.incomparable "'<' not supported between instances of 'int' and 'list'") x) ∧
      (opened →
        (∀ bytes text, world.file = some bytes → Utf8.decode? bytes = some text →
          ∀ line ∈ Text.lines text, (Text.trim line).head? ≠ some '=') →
        (∀ argument ∈ world.arguments, ¬ CommandLine.EndsInDashes argument.toList) →
        Returned settings x) := by
  intro world o x settings configured opened
  have hargs : CommandLine.parse world.arguments = .ok (.run o) := by decide
  have hsettings : settings = .ok { Settings.default with port := 8080 } := by
    show (Variables.resolve ⟨.empty, false⟩ none o).2 = _
    rw [Variables.resolve, settings_of_nothing]
    rfl
  have hstorage : ∀ s, settings = .ok s → client? s = none := by
    intro s hs
    rw [hsettings] at hs
    obtain rfl := Except.ok.inj hs
    rfl
  exact ⟨⟨hargs, hstorage⟩, run_without_storage world hargs hstorage⟩

/-- **One line, or one argument, ends a run in a fault.** -/
theorem faults_of_configuration :
    let nameless : Surroundings :=
      ⟨[], ⟨.empty, false⟩, .undecided, some (Utf8.encodeString "=x"),
        fun _ _ => .unreachable "", fun _ => none⟩
    let portless : Surroundings :=
      ⟨["--port=--"], ⟨.empty, false⟩, .undecided, none, fun _ _ => .unreachable "",
        fun _ => none⟩
    (CommandLine.parse nameless.arguments).isOk = true ∧
      (run nameless).ending = .fault (.system "[Errno 22] Invalid argument") ∧
      (CommandLine.parse portless.arguments).isOk = true ∧
      (run portless).ending =
        .fault (.incomparable "'<' not supported between instances of 'int' and 'list'") := by
  intro nameless portless
  have hnameless : CommandLine.parse nameless.arguments = .ok (.run .none) := by decide
  have hportless : CommandLine.parse portless.arguments =
      .ok (.run { Overrides.none with port := .absent .empty }) := by decide
  have hopened : Logging.undecided.configure (fun _ => none) .empty =
      .ok (.decided (LogSetup.ofEnvironment .empty)) :=
    Logging.configure_undecided (LogSetup.failure?_eq_none _ rfl)
  refine ⟨by rw [hnameless]; rfl, (crashed_of_setsNameless hopened hnameless ?_).ending,
    by rw [hportless]; rfl, (crashed_of_lacksPort hopened hportless ?_).ending⟩
  · have hpairs : DotEnv.pairs "=x".toList = [] ++ ("", "x") :: [] := by decide
    exact ⟨rfl, _, "=x".toList, rfl, Utf8.decode?_encode _, rfl, [], "x", [], hpairs, rfl,
      by decide⟩
  · refine ⟨rfl, Settings.default, Settings.default.outputFormat, ?_, by rfl⟩
    show (Variables.settings ⟨.empty, false⟩ none).2 = _
    rw [settings_of_nothing]

end Service

end CatalogCache
