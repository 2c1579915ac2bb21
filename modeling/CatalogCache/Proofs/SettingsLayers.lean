import CatalogCache.Proofs.FaultyRuns
import CatalogCache.Proofs.SettingsReadBack

/-!
# The layers that settings are in

A setting can be given in four layers: on the command line, in the process, in its file, and by
default. Each layer goes before the next, but they do not agree on what it is to be given. In the
process a variable hides the one of the file even if it is blank. The blank one then counts as not
given, so the default stands and not what the file says. On the command line an empty text is
given like any other. (An option that is named without any text gives nothing that could replace
a setting; what becomes of it is said by `Variables.resolve_eq_comparison_iff`.) And the checks are
made twice, with the command line and without it, so it cannot mend what is wrong below it.

`resolve_layered` says all of this for every setting at once: the two layers of variables are one
lookup of names (`Environment.layered`), this lookup spells out settings (`Settings.Spelled`), and
the command line replaces some of them (`Settings.override`).
-/

namespace CatalogCache

/-- The text of a name in two layers: that of an environment, blank or not, or else the first of
some pairs. -/
def Environment.layered (env : Environment) (pairs : List (String × String)) (name : String) :
    Option String :=
  match env.find? name with
  | some text => some text
  | none => Keyed.find? name pairs

theorem Environment.Merges.find?_eq_layered {merged env : Environment}
    {pairs : List (String × String)} (h : merged.Merges env pairs) :
    merged.find? = env.layered pairs := by
  funext name
  rw [h name, layered]
  cases env.find? name <;> rfl

/-! ## What the command line replaces -/

/-- Settings with some of them replaced, as far as something else is given. -/
def Settings.override (s : Settings) (host : Option String) (port : Option Int)
    (outputFormat storageUrl : Option String) : Settings :=
  { s with
    host := (host.map .value).getD s.host
    port := port.getD s.port
    outputFormat := outputFormat.getD s.outputFormat
    storageUrl := (storageUrl.map .value).getD s.storageUrl }

/-- Replacements that are values, as far as they are given. -/
def Overrides.ofOptions (host : Option String) (port : Option Int)
    (outputFormat storageUrl : Option String) : Overrides :=
  ⟨.ofOption host, .ofOption port, .ofOption outputFormat, .ofOption storageUrl⟩

theorem ofOption_or {α : Type} (option : Option α) (given : Given α) :
    (Given.ofOption option).or given = (option.map .value).getD given := by
  cases option <;> rfl

theorem map_value_getD_value {α : Type} (option : Option α) (a : α) :
    (option.map Given.value).getD (.value a) = .value (option.getD a) := by
  cases option <;> rfl

section Replacements

variable (host : Option String) (port : Option Int) (outputFormat storageUrl : Option String)

theorem apply_ofOptions (s : Settings) :
    (Overrides.ofOptions host port outputFormat storageUrl).apply s.draft =
      (s.override host port outputFormat storageUrl).draft := by
  simp only [Overrides.apply, Overrides.ofOptions, Settings.draft, Settings.override, ofOption_or,
    map_value_getD_value]

/-- A port that is given is a value. -/
theorem port_ofOptions_ne_empty :
    (Overrides.ofOptions host port outputFormat storageUrl).port ≠ .absent .empty := by
  cases port <;> simp [Overrides.ofOptions, Given.ofOption]

end Replacements

theorem Settings.draft_inj {s t : Settings} (h : s.draft = t.draft) : s = t := by
  rw [Draft.ext_iff] at h
  obtain ⟨hformat, hhost, hport, hurl, htoken, htimeout⟩ := h
  rw [Settings.ext_iff]
  exact ⟨Given.value.inj hformat, hhost, Given.value.inj hport, hurl, htoken,
    Given.value.inj htimeout⟩

/-! ## The settings of all layers -/

namespace Variables

section Layers

variable {env : Environment} {text : String}

theorem load_text (hload : (DotEnv.load env (Utf8.encodeString text)).2 = none) :
    (load ⟨env, false⟩ (some (Utf8.encodeString text))).2 = none ∧
      (load ⟨env, false⟩ (some (Utf8.encodeString text))).1.environment.find? =
        env.layered (DotEnv.pairs text.toList) := by
  have hmerges := DotEnv.merges_load hload
  rw [DotEnv.pairsOf_encodeString] at hmerges
  rw [load, if_neg (by simp)]
  exact ⟨hload, hmerges.find?_eq_layered⟩

/-- Where a file can be read, only the settings themselves can be wrong. -/
theorem exists_cause_of_load {vars : Variables} {file : Option Bytes} {o : Overrides}
    {error : ConfigError} (hload : (vars.load file).2 = none)
    (h : (vars.resolve file o).2 = .error error) : ∃ cause, error = .settings cause := by
  rcases resolve_eq_error_iff.1 h with h | ⟨-, cause, -, -, hcause⟩
  · rcases settings_eq_error_iff.1 h with ⟨cause, hfile, -⟩ | ⟨-, cause, -, hcause⟩
    · rw [hload] at hfile
      exact absurd hfile (by simp)
    · exact ⟨cause, hcause⟩
  · exact ⟨cause, hcause⟩

/--
**The settings of a process are those of its layers.**

Let a file be read to its end into a process. The variables of the process, and below them the
first line of the file for each name, spell out settings if the texts of the port and of the time
to wait can be read, and never two different ones: each setting is the text under its name without
the blank space around it, or its default where the text is missing or blank. The process comes to
settings exactly if such settings are spelled out, pass the checks, and pass them again with what
the command line gives put in. Then these are its settings: what the command line gives, be it
empty, and otherwise what was spelled out, as always for the token and the time to wait. In all
other cases it is told what is wrong, and no value was missing for it.
-/
theorem resolve_layered (hload : (DotEnv.load env (Utf8.encodeString text)).2 = none)
    (host : Option String) (port : Option Int) (outputFormat storageUrl : Option String) :
    let lookup := env.layered (DotEnv.pairs text.toList)
    let result := (resolve ⟨env, false⟩ (some (Utf8.encodeString text))
      (.ofOptions host port outputFormat storageUrl)).2
    ((∃ v, Settings.Spelled lookup v) ↔
        (∃ n, Settings.ReadAs Decimal.int? 9090 (Settings.filled (lookup "CATALOG_PORT")) n) ∧
        ∃ x, Settings.ReadAs Double.ofText? (.ofInt 30)
          (Settings.filled (lookup "CATALOG_STORAGE_TIMEOUT")) x) ∧
      (∀ v w, Settings.Spelled lookup v → Settings.Spelled lookup w → v = w) ∧
      (∀ s, result = .ok s ↔ ∃ v, Settings.Spelled lookup v ∧ v.Checked ∧
        (v.override host port outputFormat storageUrl).Checked ∧
        s = v.override host port outputFormat storageUrl) ∧
      ((¬ ∃ v, Settings.Spelled lookup v ∧ v.Checked ∧
          (v.override host port outputFormat storageUrl).Checked) →
        ∃ cause, result = .error (.settings cause) ∧ ¬ cause.IsComparison) := by
  intro lookup result
  obtain ⟨hnone, hlookup⟩ := load_text hload
  have hok : ∀ s, result = .ok s ↔ ∃ v, Settings.Spelled lookup v ∧ v.Checked ∧
      (v.override host port outputFormat storageUrl).Checked ∧
      s = v.override host port outputFormat storageUrl := by
    intro s
    rw [resolve_eq_ok_iff]
    constructor
    · intro hresolved
      obtain ⟨v, hv, hdraft, hchecked⟩ := hresolved
      obtain ⟨-, hspelled, hv⟩ := settings_eq_ok_iff.1 hv
      rw [hlookup] at hspelled
      rw [apply_ofOptions] at hdraft
      obtain rfl := Settings.draft_inj hdraft
      exact ⟨v, hspelled, hv, hchecked, rfl⟩
    · intro hlayers
      obtain ⟨v, hspelled, hv, hchecked, rfl⟩ := hlayers
      refine ⟨v, settings_eq_ok_iff.2 ⟨hnone, ?_, hv⟩, apply_ofOptions .., hchecked⟩
      rw [hlookup]
      exact hspelled
  refine ⟨Settings.exists_spelled_iff, fun v w => Settings.Spelled.unique, hok, ?_⟩
  intro hnot
  cases hresult : result with
  | ok s =>
    obtain ⟨v, hspelled, hv, hchecked, -⟩ := (hok s).1 hresult
    exact absurd ⟨v, hspelled, hv, hchecked⟩ hnot
  | error error =>
    obtain ⟨cause, rfl⟩ := exists_cause_of_load hnone hresult
    refine ⟨cause, rfl, ?_⟩
    intro hcomparison
    obtain ⟨-, hport, -⟩ := (resolve_eq_comparison_iff hcomparison).1 hresult
    exact port_ofOptions_ne_empty host port outputFormat storageUrl hport

end Layers

/-- A blank port of the process hides the one of the file, and an empty host is given. -/
theorem resolve_layered_blank :
    let env := Environment.single "CATALOG_PORT" " "
    let text := "CATALOG_PORT=1\nCATALOG_STORAGE_TOKEN=' t'"
    let lookup := env.layered (DotEnv.pairs text.toList)
    let result := (resolve ⟨env, false⟩ (some (Utf8.encodeString text))
      (.ofOptions (some "") none (some "json") none)).2
    (DotEnv.load env (Utf8.encodeString text)).2 = none ∧
      result = .ok { Settings.default with
        host := .value "", outputFormat := "json", storageToken := some "t" } ∧
      ((∃ v, Settings.Spelled lookup v) ↔
        (∃ n, Settings.ReadAs Decimal.int? 9090 (Settings.filled (lookup "CATALOG_PORT")) n) ∧
        ∃ x, Settings.ReadAs Double.ofText? (.ofInt 30)
          (Settings.filled (lookup "CATALOG_STORAGE_TIMEOUT")) x) ∧
      (∀ v w, Settings.Spelled lookup v → Settings.Spelled lookup w → v = w) ∧
      (∀ s, result = .ok s ↔ ∃ v, Settings.Spelled lookup v ∧ v.Checked ∧
        (v.override (some "") none (some "json") none).Checked ∧
        s = v.override (some "") none (some "json") none) ∧
      ((¬ ∃ v, Settings.Spelled lookup v ∧ v.Checked ∧
          (v.override (some "") none (some "json") none).Checked) →
        ∃ cause, result = .error (.settings cause) ∧ ¬ cause.IsComparison) := by
  intro env text lookup result
  have hpairs : DotEnv.pairs text.toList =
      [("CATALOG_PORT", "1"), ("CATALOG_STORAGE_TOKEN", " t")] := by decide
  have hload : (DotEnv.load env (Utf8.encodeString text)).2 = none := by
    rw [DotEnv.load_encodeString, hpairs]
    decide
  have hresult : result = .ok { Settings.default with
      host := .value "", outputFormat := "json", storageToken := some "t" } := by
    show (resolve ⟨env, false⟩ _ _).2 = _
    rw [resolve, settings, load, if_neg (by decide), DotEnv.load_encodeString, hpairs]
    decide
  exact ⟨hload, hresult, resolve_layered hload (some "") none (some "json") none⟩

end Variables

end CatalogCache
