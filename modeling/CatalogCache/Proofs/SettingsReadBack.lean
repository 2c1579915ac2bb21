import CatalogCache.Config.Settings
import CatalogCache.Proofs.Steps

/-!
# How settings come about

Settings come from variables, pass the checks, take in what the command line says, and pass the
checks again. Here each of these steps is read back, so that what is known of settings can be
said without the step.

The checks let a draft through exactly if it is some settings that are `Settings.Checked`
(`Draft.check_eq_ok_iff`). Before the checks, settings are what a lookup of names spells out
(`Settings.Spelled`): for each setting the text under its name, without the blank space around it,
or its default where nothing is left. A lookup spells out one settings at most
(`Settings.Spelled.unique`), and none where a number cannot be read.
-/

namespace CatalogCache

/-! ## The checks -/

/-- Settings that passed the checks. -/
structure Settings.Checked (s : Settings) : Prop where
  format_ne : s.outputFormat ≠ ""
  format_segment : '/' ∉ s.outputFormat.toList
  port_pos : 0 < s.port
  port_lt : s.port < 65536
  timeout : s.storageTimeout.isAtMostZero = false

namespace Draft

theorem checkFormat_eq_ok_iff {given : Given String} {format : String} :
    checkFormat given = .ok format ↔
      given = .value format ∧ format ≠ "" ∧ '/' ∉ format.toList := by
  cases given with
  | absent why => simp [checkFormat]
  | value text =>
    rw [checkFormat, Given.value.injEq]
    split
    · rename_i hbad
      rw [Bool.or_eq_true, String.isEmpty_iff, List.contains_iff_mem] at hbad
      refine iff_of_false (by simp) ?_
      intro hvalue
      obtain ⟨rfl, hne, hslash⟩ := hvalue
      exact hbad.elim hne hslash
    · rename_i hgood
      rw [Bool.or_eq_true, String.isEmpty_iff, List.contains_iff_mem, not_or] at hgood
      rw [Except.ok.injEq]
      refine ⟨?_, And.left⟩
      intro htext
      subst htext
      exact ⟨rfl, hgood⟩

theorem checkPort_eq_ok_iff {given : Given Int} {port : Int} :
    checkPort given = .ok port ↔ given = .value port ∧ 0 < port ∧ port < 65536 := by
  cases given with
  | absent why => simp [checkPort]
  | value n =>
    rw [checkPort, Given.value.injEq]
    split
    · refine iff_of_false (by simp) ?_
      omega
    · rw [Except.ok.injEq]
      omega

theorem checkTimeout_eq_ok_iff {given : Given Double} {timeout : Double} :
    checkTimeout given = .ok timeout ↔
      given = .value timeout ∧ timeout.isAtMostZero = false := by
  cases given with
  | absent why => simp [checkTimeout]
  | value x =>
    rw [checkTimeout, Given.value.injEq]
    cases hx : x.isAtMostZero with
    | true =>
      refine iff_of_false (by simp) ?_
      intro hvalue
      obtain ⟨hgiven, htimeout⟩ := hvalue
      rw [← hgiven, hx] at htimeout
      exact absurd htimeout (by decide)
    | false =>
      rw [if_neg (by decide), Except.ok.injEq]
      refine ⟨?_, And.left⟩
      intro hgiven
      exact ⟨hgiven, hgiven ▸ hx⟩

/-- A draft passes exactly if it is checked settings. -/
theorem check_eq_ok_iff {d : Draft} {s : Settings} :
    d.check = .ok s ↔ d = s.draft ∧ s.Checked := by
  simp only [check, bind_eq_ok_iff, checkFormat_eq_ok_iff, checkPort_eq_ok_iff,
    checkTimeout_eq_ok_iff]
  constructor
  · intro hsteps
    obtain ⟨format, ⟨hformat, hne, hslash⟩, port, ⟨hport, hpos, hlt⟩, timeout,
      ⟨htimeout, hzero⟩, h⟩ := hsteps
    obtain rfl := Except.ok.inj h
    refine ⟨?_, hne, hslash, hpos, hlt, hzero⟩
    rw [Draft.ext_iff]
    exact ⟨hformat, rfl, hport, rfl, rfl, htimeout⟩
  · intro hsettings
    obtain ⟨rfl, h⟩ := hsettings
    exact ⟨_, ⟨rfl, h.format_ne, h.format_segment⟩, _, ⟨rfl, h.port_pos, h.port_lt⟩, _,
      ⟨rfl, h.timeout⟩, rfl⟩

end Draft

/-! ## What variables spell out -/

namespace Settings

/-- A text without the blank space around it, if anything is left then. -/
def filled (text : Option String) : Option String := (text.map Text.trimmed).filter (· ≠ "")

/-- What is read from a text, or a default where there is no text. -/
def ReadAs {α : Type} (parse : String → Option α) (default : α) : Option String → α → Prop
  | none, a => a = default
  | some raw, a => parse raw = some a

theorem ReadAs.unique {α : Type} {parse : String → Option α} {default a b : α}
    {text : Option String} (ha : ReadAs parse default text a) (hb : ReadAs parse default text b) :
    a = b := by
  cases text with
  | none => exact Eq.trans ha (Eq.symm hb)
  | some raw => exact Option.some.inj (Eq.trans (Eq.symm ha) hb)

end Settings

namespace Environment

open Settings

variable {env : Environment} {name : String}

theorem text?_eq_filled : env.text? name = filled (env.find? name) := by
  rw [text?, filled]
  cases env.find? name with
  | none => rfl
  | some raw =>
    rw [Option.map_some]
    by_cases h : Text.trimmed raw = ""
    · simp [Option.filter, h]
    · simp [Option.filter, h]

theorem int_eq_ok_iff {default n : Int} :
    env.int name default = .ok n ↔
      ReadAs Decimal.int? default (filled (env.find? name)) n := by
  rw [int, ← text?_eq_filled]
  cases env.text? name with
  | none => exact ⟨fun h => (Except.ok.inj h).symm, fun h => congrArg _ (Eq.symm h)⟩
  | some raw =>
    rw [ReadAs]
    cases hread : Decimal.int? raw <;> simp [hread]

theorem double_eq_ok_iff {default x : Double} :
    env.double name default = .ok x ↔
      ReadAs Double.ofText? default (filled (env.find? name)) x := by
  rw [double, ← text?_eq_filled]
  cases env.text? name with
  | none => exact ⟨fun h => (Except.ok.inj h).symm, fun h => congrArg _ (Eq.symm h)⟩
  | some raw =>
    rw [ReadAs]
    cases hread : Double.ofText? raw <;> simp [hread]

end Environment

namespace Settings

/-- A lookup of names spells out settings: each is the text under its name, or a default where
that is missing or blank, and the port and the time to wait are the numbers that are read from
their texts. -/
structure Spelled (lookup : String → Option String) (s : Settings) : Prop where
  outputFormat :
    s.outputFormat = (filled (lookup "CATALOG_OUTPUT_FORMAT")).getD "catalog-info.yaml"
  host : s.host = .value ((filled (lookup "CATALOG_HOST")).getD "0.0.0.0")
  port : ReadAs Decimal.int? 9090 (filled (lookup "CATALOG_PORT")) s.port
  storageUrl : s.storageUrl = .ofOption (filled (lookup "CATALOG_STORAGE_URL"))
  storageToken : s.storageToken = filled (lookup "CATALOG_STORAGE_TOKEN")
  storageTimeout :
    ReadAs Double.ofText? (.ofInt 30) (filled (lookup "CATALOG_STORAGE_TIMEOUT"))
      s.storageTimeout

/-- A lookup spells out one settings at most. -/
theorem Spelled.unique {lookup : String → Option String} {s t : Settings}
    (hs : Spelled lookup s) (ht : Spelled lookup t) : s = t := by
  rw [Settings.ext_iff]
  exact ⟨hs.outputFormat.trans ht.outputFormat.symm, hs.host.trans ht.host.symm,
    hs.port.unique ht.port, hs.storageUrl.trans ht.storageUrl.symm,
    hs.storageToken.trans ht.storageToken.symm, hs.storageTimeout.unique ht.storageTimeout⟩

/-- A lookup spells out settings if its texts of numbers can be read. -/
theorem exists_spelled_iff {lookup : String → Option String} :
    (∃ s, Spelled lookup s) ↔
      (∃ port, ReadAs Decimal.int? 9090 (filled (lookup "CATALOG_PORT")) port) ∧
      ∃ timeout, ReadAs Double.ofText? (.ofInt 30) (filled (lookup "CATALOG_STORAGE_TIMEOUT"))
        timeout := by
  constructor
  · intro hspelled
    obtain ⟨s, h⟩ := hspelled
    exact ⟨⟨s.port, h.port⟩, s.storageTimeout, h.storageTimeout⟩
  · intro hread
    obtain ⟨⟨port, hport⟩, timeout, htimeout⟩ := hread
    exact ⟨⟨_, _, port, _, _, timeout⟩, ⟨rfl, rfl, hport, rfl, rfl, htimeout⟩⟩

theorem ofOption_or_value (host : Option String) (default : String) :
    (Given.ofOption host).or (.value default) = .value (host.getD default) := by
  cases host <;> rfl

theorem ofEnvironment_eq_ok_iff {env : Environment} {s : Settings} :
    ofEnvironment env = .ok s ↔ Spelled env.find? s ∧ s.Checked := by
  simp only [ofEnvironment, bind_eq_ok_iff, Environment.int_eq_ok_iff,
    Environment.double_eq_ok_iff, Draft.check_eq_ok_iff, Environment.text?_eq_filled]
  constructor
  · intro hsteps
    obtain ⟨port, hport, timeout, htimeout, hdraft, hchecked⟩ := hsteps
    rw [Draft.ext_iff] at hdraft
    obtain ⟨hformat, hhost, hport', hurl, htoken, htimeout'⟩ := hdraft
    obtain rfl : port = s.port := Given.value.inj hport'
    obtain rfl : timeout = s.storageTimeout := Given.value.inj htimeout'
    refine ⟨⟨(Given.value.inj hformat).symm, ?_, hport, hurl.symm, htoken.symm, htimeout⟩,
      hchecked⟩
    exact hhost.symm.trans (ofOption_or_value _ _)
  · intro hsettings
    obtain ⟨h, hchecked⟩ := hsettings
    refine ⟨s.port, h.port, s.storageTimeout, h.storageTimeout, ?_, hchecked⟩
    rw [Draft.ext_iff]
    exact ⟨congrArg Given.value h.outputFormat.symm, (ofOption_or_value _ _).trans h.host.symm, rfl,
      h.storageUrl.symm, h.storageToken.symm, rfl⟩

end Settings

/-! ## Settings of a process -/

namespace Variables

variable {vars : Variables} {file : Option Bytes}

theorem settings_eq_ok_iff {s : Settings} :
    (vars.settings file).2 = .ok s ↔ (vars.load file).2 = none ∧
      Settings.Spelled (vars.load file).1.environment.find? s ∧ s.Checked := by
  rw [settings]
  cases hload : vars.load file with
  | mk vars' cause =>
    cases cause with
    | some cause => simp
    | none => simp [mapError_eq_ok_iff, Settings.ofEnvironment_eq_ok_iff]

theorem resolve_eq_ok_iff {o : Overrides} {s : Settings} :
    (vars.resolve file o).2 = .ok s ↔
      ∃ v, (vars.settings file).2 = .ok v ∧ o.apply v.draft = s.draft ∧ s.Checked := by
  rw [resolve]
  cases hsettings : vars.settings file with
  | mk vars' settings =>
    cases settings with
    | error error => simp
    | ok v => simp [mapError_eq_ok_iff, Draft.check_eq_ok_iff]

end Variables

end CatalogCache
