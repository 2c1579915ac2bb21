import CatalogCache.Proofs.EnvironmentFiles
import CatalogCache.Proofs.SettingsReadBack

/-!
# Settings that can be used

Whatever is read from the variables of a process, its file and its command line, it should be
possible to run with it: the output format is a segment of a path, the port is one that there is,
and the time to wait is a number above zero (`Settings.Usable`). The checks that every draft has
to pass see to all of it but one thing. They refuse a time to wait that is zero or less, and what
is not a number is neither, so a time that is no number passes (`nan_passes`).

A time that is no number comes in only by a variable that spells it out, for no arithmetic on
digits ends there (`ofText?_eq_nan_iff`). So `usable_iff` can tell from the variables alone when
settings are usable.
-/

namespace CatalogCache

namespace Double

/-! ## Numbers above zero -/

/-- A number above zero. What is not a number is not. -/
inductive IsPositive : Double → Prop where
  | infinite : IsPositive (.infinite false)
  | finite {significand : Nat} {exponent : Int} (h : 0 < significand) :
      IsPositive (.finite false significand exponent)

theorem isAtMostZero_eq_false_iff {x : Double} :
    x.isAtMostZero = false ↔ x = .nan ∨ x.IsPositive := by
  constructor
  · intro h
    cases x with
    | nan => exact Or.inl rfl
    | infinite negative =>
      obtain rfl : negative = false := h
      exact Or.inr .infinite
    | finite negative m e =>
      obtain ⟨rfl, hm⟩ : negative = false ∧ m ≠ 0 := by simpa [isAtMostZero] using h
      exact Or.inr (.finite (Nat.pos_of_ne_zero hm))
  · intro h
    rcases h with rfl | h
    · rfl
    · cases h with
      | infinite => rfl
      | finite hm => simp [isAtMostZero, Nat.ne_of_gt hm]

theorem not_isPositive_nan : ¬ IsPositive .nan := by
  intro h
  cases h

/-! ## Texts of what is not a number -/

/-- A text says that it is not a number: in three letters, of any case, after an optional sign. -/
def WritesNan (s : String) : Prop :=
  ∃ sign ∈ [[], ['+'], ['-']], ∃ word,
    Text.trimWhile Decimal.isSpace s.toList = sign ++ word ∧
      word.map Char.toLower = ['n', 'a', 'n']

theorem ofRatio_ne_nan (negative : Bool) (num den : Nat) : ofRatio negative num den ≠ .nan := by
  intro h
  unfold ofRatio at h
  dsimp only at h
  split at h
  · exact absurd h (by simp)
  · split at h <;> split at h <;> exact absurd h (by simp)

theorem ofDecimal_ne_nan (negative : Bool) (digits : Nat) (exponent : Int) :
    ofDecimal negative digits exponent ≠ .nan := by
  unfold ofDecimal
  dsimp only
  split
  · simp
  · split
    · simp
    · exact ofRatio_ne_nan _ _ _

theorem isWord_eq_true_iff {word : String} {cs : List Char} :
    isWord word cs = true ↔ cs.map Char.toLower = word.toList := by
  rw [isWord, beq_iff_eq]

/-- Without its sign, only the three letters are the text of what is not a number. -/
theorem unsigned?_eq_nan_iff {negative : Bool} {cs : List Char} :
    unsigned? negative cs = some .nan ↔ cs.map Char.toLower = ['n', 'a', 'n'] := by
  have hnan : isWord "nan" cs = true ↔ cs.map Char.toLower = ['n', 'a', 'n'] :=
    isWord_eq_true_iff
  rw [← hnan]
  constructor
  · intro h
    unfold unsigned? at h
    split at h
    · exact absurd h (by simp)
    · split at h
      · assumption
      · dsimp only at h
        split at h
        · exact absurd h (by simp)
        · obtain ⟨e, -, he⟩ := Option.map_eq_some_iff.1 h
          exact absurd he (ofDecimal_ne_nan _ _ _)
  · intro h
    have hword := isWord_eq_true_iff.1 h
    have hinfinite : (isWord "inf" cs || isWord "infinity" cs) = false := by
      rw [isWord, isWord, hword]
      rfl
    rw [unsigned?, hinfinite, h]
    rfl

/-- A sign is taken off the front, and nothing else is. -/
theorem exists_sign (cs : List Char) :
    ∃ front ∈ [[], ['+'], ['-']], cs = front ++ (Decimal.sign cs).2 := by
  unfold Decimal.sign
  split
  · exact ⟨['-'], by simp, rfl⟩
  · exact ⟨['+'], by simp, rfl⟩
  · exact ⟨[], by simp, rfl⟩

theorem sign_append {front word : List Char} (hfront : front ∈ [[], ['+'], ['-']])
    (hword : word.map Char.toLower = ['n', 'a', 'n']) :
    (Decimal.sign (front ++ word)).2 = word := by
  simp only [List.mem_cons, List.not_mem_nil, or_false] at hfront
  rcases hfront with rfl | rfl | rfl
  · -- the word itself begins with no sign
    rw [List.nil_append]
    unfold Decimal.sign
    split
    · exact absurd (List.cons.inj hword).1 (by decide)
    · exact absurd (List.cons.inj hword).1 (by decide)
    · rfl
  · rfl
  · rfl

theorem ofText?_eq_nan_iff {s : String} : ofText? s = some .nan ↔ WritesNan s := by
  have hsplit : ofText? s = some .nan ↔
      (Decimal.sign (Text.trimWhile Decimal.isSpace s.toList)).2.map Char.toLower =
        ['n', 'a', 'n'] := by
    rw [ofText?]
    exact unsigned?_eq_nan_iff
  rw [hsplit]
  constructor
  · intro h
    obtain ⟨front, hfront, hcs⟩ := exists_sign (Text.trimWhile Decimal.isSpace s.toList)
    exact ⟨front, hfront, _, hcs, h⟩
  · intro h
    obtain ⟨front, hfront, word, hcs, hword⟩ := h
    rw [hcs, sign_append hfront hword, hword]

end Double

/-! ## Settings of a process -/

/-- Settings that a service can run with. -/
structure Settings.Usable (s : Settings) : Prop where
  format_ne : s.outputFormat ≠ ""
  format_segment : '/' ∉ s.outputFormat.toList
  port_pos : 0 < s.port
  port_lt : s.port < 65536
  timeout_pos : s.storageTimeout.IsPositive

theorem Settings.Checked.usable_iff_ne_nan {s : Settings} (h : s.Checked) :
    s.Usable ↔ s.storageTimeout ≠ .nan := by
  constructor
  · intro hu hnan
    have hpos := hu.timeout_pos
    rw [hnan] at hpos
    exact Double.not_isPositive_nan hpos
  · intro hne
    have hpos := (Double.isAtMostZero_eq_false_iff.1 h.timeout).resolve_left hne
    exact ⟨h.format_ne, h.format_segment, h.port_pos, h.port_lt, hpos⟩

/-- The time to wait that the variables set is no number. -/
def Environment.TimeoutIsNan (env : Environment) : Prop :=
  ∃ raw, Settings.filled (env.find? "CATALOG_STORAGE_TIMEOUT") = some raw ∧ Double.WritesNan raw

theorem Settings.readAs_nan_iff {default : Double} (hdefault : default ≠ .nan)
    {text : Option String} :
    ReadAs Double.ofText? default text .nan ↔ ∃ raw, text = some raw ∧ Double.WritesNan raw := by
  cases text with
  | none => exact ⟨fun h => absurd (Eq.symm h) hdefault, fun h => absurd h (by simp)⟩
  | some raw =>
    rw [ReadAs, Double.ofText?_eq_nan_iff]
    simp

theorem Settings.Spelled.timeout_eq_nan_iff {env : Environment} {s : Settings}
    (h : Spelled env.find? s) : s.storageTimeout = .nan ↔ env.TimeoutIsNan := by
  have hdefault : Double.ofInt 30 ≠ .nan := by decide
  rw [Environment.TimeoutIsNan, ← readAs_nan_iff hdefault]
  refine ⟨?_, h.storageTimeout.unique⟩
  intro hnan
  rw [← hnan]
  exact h.storageTimeout

namespace Variables

variable {vars : Variables} {file : Option Bytes}

/-- The command line has no say in the time to wait. -/
theorem timeout_of_apply {o : Overrides} {v s : Settings} (h : o.apply v.draft = s.draft) :
    v.storageTimeout = s.storageTimeout :=
  Given.value.inj (congrArg Draft.storageTimeout h)

/-- Settings that are found are checked, and their time to wait is spelled out by the variables. -/
theorem timeout_of_found {o : Overrides} {s : Settings}
    (h : (vars.settings file).2 = .ok s ∨ (vars.resolve file o).2 = .ok s) :
    s.Checked ∧
      (s.storageTimeout = .nan ↔ (vars.load file).1.environment.TimeoutIsNan) := by
  rcases h with h | h
  · obtain ⟨-, hspelled, hchecked⟩ := settings_eq_ok_iff.1 h
    exact ⟨hchecked, hspelled.timeout_eq_nan_iff⟩
  · obtain ⟨v, hv, hdraft, hchecked⟩ := resolve_eq_ok_iff.1 h
    obtain ⟨-, hspelled, -⟩ := settings_eq_ok_iff.1 hv
    rw [← timeout_of_apply hdraft]
    exact ⟨hchecked, hspelled.timeout_eq_nan_iff⟩

/--
**Settings can be used unless their time to wait is no number.**

Let settings be found for a process, its file and its command line. Their output format is a
segment of a path, their port is one that there is, and their time to wait is a number above zero
or no number at all. It is no number exactly if this is what the variables say after the file was
read, and the settings are usable in all other cases.
-/
theorem usable_iff (o : Overrides) {s : Settings}
    (h : (vars.settings file).2 = .ok s ∨ (vars.resolve file o).2 = .ok s) :
    (s.outputFormat ≠ "" ∧ '/' ∉ s.outputFormat.toList ∧ 0 < s.port ∧ s.port < 65536) ∧
      (s.storageTimeout = .nan ∨ s.storageTimeout.IsPositive) ∧
      (s.storageTimeout = .nan ↔ (vars.load file).1.environment.TimeoutIsNan) ∧
      (s.Usable ↔ ¬ (vars.load file).1.environment.TimeoutIsNan) := by
  obtain ⟨hchecked, hnan⟩ := timeout_of_found h
  refine ⟨⟨hchecked.format_ne, hchecked.format_segment, hchecked.port_pos, hchecked.port_lt⟩,
    Double.isAtMostZero_eq_false_iff.1 hchecked.timeout, hnan, ?_⟩
  rw [hchecked.usable_iff_ne_nan, Ne, hnan]

/-- A file of one line leaves one variable in a process that had none. -/
theorem load_line {line name value : String}
    (hpairs : DotEnv.pairs line.toList = [(name, value)])
    (hbind : Environment.bindError? name value = none) :
    load ⟨.empty, false⟩ (some (Utf8.encodeString line)) = (⟨.single name value, true⟩, none) := by
  rw [load, if_neg (by decide), DotEnv.load_encodeString, hpairs,
    DotEnv.bindAll_of_none rfl hbind]
  rfl

/-- A file may set the time to wait, here to one second, and the command line the port. -/
theorem usable_iff_second :
    let vars : Variables := ⟨.empty, false⟩
    let file := some (Utf8.encodeString "CATALOG_STORAGE_TIMEOUT= 1_0e-1 ")
    let o : Overrides := { Overrides.none with port := .value 8080 }
    let s := { Settings.default with port := 8080, storageTimeout := .ofInt 1 }
    ((vars.settings file).2 = .ok s ∨ (vars.resolve file o).2 = .ok s) ∧
      (s.outputFormat ≠ "" ∧ '/' ∉ s.outputFormat.toList ∧ 0 < s.port ∧ s.port < 65536) ∧
      (s.storageTimeout = .nan ∨ s.storageTimeout.IsPositive) ∧
      (s.storageTimeout = .nan ↔ (vars.load file).1.environment.TimeoutIsNan) ∧
      (s.Usable ↔ ¬ (vars.load file).1.environment.TimeoutIsNan) := by
  intro vars file o s
  have hload : vars.load file = (⟨.single "CATALOG_STORAGE_TIMEOUT" "1_0e-1", true⟩, none) :=
    load_line (by decide) (by decide)
  have hresolve : (vars.resolve file o).2 = .ok s := by
    rw [resolve, settings, hload]
    rfl
  have h : (vars.settings file).2 = .ok s ∨ (vars.resolve file o).2 = .ok s := Or.inr hresolve
  exact ⟨h, usable_iff o h⟩

/-- **A time to wait that is no number passes the checks.** -/
theorem nan_passes :
    let vars : Variables := ⟨.empty, false⟩
    let file := some (Utf8.encodeString "CATALOG_STORAGE_TIMEOUT=nan")
    ∃ s, (vars.settings file).2 = .ok s ∧ (vars.resolve file .none).2 = .ok s ∧
      ¬ s.storageTimeout.IsPositive ∧ ¬ s.Usable := by
  intro vars file
  have hload : vars.load file = (⟨.single "CATALOG_STORAGE_TIMEOUT" "nan", true⟩, none) :=
    load_line (by decide) (by decide)
  refine ⟨{ Settings.default with storageTimeout := .nan }, ?_, ?_, Double.not_isPositive_nan,
    fun h => Double.not_isPositive_nan h.timeout_pos⟩
  · rw [settings, hload]
    rfl
  · rw [resolve, settings, hload]
    rfl

end Variables

end CatalogCache
