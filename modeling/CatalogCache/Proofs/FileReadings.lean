import CatalogCache.Proofs.NamelessVariables

/-!
# Readings of a file

A file is read into the variables of a process, line by line. A pair of a name and a value is set
where its name is new: neither the process nor a line in front of it has it (`DotEnv.IsNew`). What
a reading adds are then the first pairs of the new names (`DotEnv.additions`), and it adds them
behind the variables that were there, so none of these changes.

Some variables the operating system refuses (`DotEnv.IsRefused`). A reading goes through to the
end exactly if it meets none of these under a new name (`DotEnv.bindAll_eq_none_iff`). Otherwise
it stops at the first, with all in front of it set, and counts as not made. A reading that went
through is the last: whatever happens afterwards, no further reading changes anything
(`Variables.fileRead_afterAll`).
-/

namespace CatalogCache

namespace DotEnv

/-! ## Names and values -/

/-- A name is new behind some pairs: it has no value in an environment, nor in the pairs. -/
def IsNew (env : Environment) (before : List (String × String)) (name : String) : Prop :=
  env.find? name = none ∧ name ∉ Keyed.keys before

/-- The operating system refuses a variable. -/
def IsRefused (name value : String) : Prop :=
  name = "" ∨ '\x00' ∈ name.toList ∨ '\x00' ∈ value.toList

/-- What the operating system finds wrong with a variable that it refuses. A NUL is found before
an empty name. -/
def refusal (name value : String) : BindError :=
  if '\x00' ∈ name.toList ∨ '\x00' ∈ value.toList then .embeddedNul else .emptyName

/-- Among some pairs there is one that has a new name and is refused. -/
def MeetsRefused (env : Environment) (pairs : List (String × String)) : Prop :=
  ∃ before name value after, pairs = before ++ (name, value) :: after ∧
    IsNew env before name ∧ IsRefused name value

/-- The pairs that are set: the first of each name that an environment has not. -/
def additions (env : Environment) (pairs : List (String × String)) : List (String × String) :=
  (Keyed.firsts pairs).filter fun pair => !env.contains pair.1

theorem isNew_iff {env : Environment} {before : List (String × String)} {name : String} :
    IsNew env before name ↔ (env.find? name).or (Keyed.find? name before) = none := by
  rw [IsNew, Option.or_eq_none_iff, Keyed.find?_eq_none_iff]

theorem bindError?_of_isRefused {name value : String} (h : IsRefused name value) :
    Environment.bindError? name value = some (refusal name value) := by
  rw [Environment.bindError?, refusal]
  by_cases hnul : '\x00' ∈ name.toList ∨ '\x00' ∈ value.toList
  · simp [hnul]
  · have hempty : name = "" := h.resolve_right hnul
    rw [not_or] at hnul
    simp [hnul, hempty]

theorem bindError?_eq_none_iff {name value : String} (hname : '=' ∉ name.toList) :
    Environment.bindError? name value = none ↔ ¬ IsRefused name value := by
  constructor
  · intro hnone hrefused
    rw [bindError?_of_isRefused hrefused] at hnone
    exact absurd hnone (by simp)
  · intro h
    rw [IsRefused, not_or, not_or] at h
    simp [Environment.bindError?, h, hname]

/-- The name of a line ends in front of the first equals sign. -/
theorem eq_not_mem_of_pair? {line : List Char} {pair : String × String}
    (h : pair? line = some pair) : '=' ∉ pair.1.toList := by
  unfold pair? at h
  dsimp only at h
  split at h
  · exact absurd h (by simp)
  · split at h
    · exact absurd h (by simp)
    · obtain rfl := Option.some.inj h
      rw [String.toList_ofList]
      intro hmem
      have hfront := List.mem_takeWhile_imp (Text.mem_of_mem_trim hmem)
      exact absurd hfront (by decide)

theorem eq_not_mem_of_mem_pairs {text : List Char} {pair : String × String}
    (h : pair ∈ pairs text) : '=' ∉ pair.1.toList := by
  obtain ⟨line, -, hline⟩ := List.mem_filterMap.1 h
  exact eq_not_mem_of_pair? hline

/-! ## What a reading adds -/

section Additions

variable {env : Environment} {name value : String}

theorem additions_cons_of_set (h : env.contains name = true) (rest : List (String × String)) :
    additions env ((name, value) :: rest) = additions env rest := by
  rw [additions, Keyed.firsts, List.filter_cons_of_neg (by simp [h]), List.filter_filter,
    additions]
  refine List.filter_congr ?_
  intro pair _
  by_cases hk : pair.1 = name
  · simp [hk, h]
  · simp [hk]

theorem additions_cons_of_new (h : env.contains name = false) (rest : List (String × String)) :
    additions env ((name, value) :: rest) =
      (name, value) :: additions (env.insert name value) rest := by
  rw [additions, Keyed.firsts, List.filter_cons_of_pos (by simp [h]), List.filter_filter,
    additions]
  congr 1
  refine List.filter_congr ?_
  intro pair _
  rw [Table.contains_insert]
  by_cases hk : pair.1 = name
  · simp [hk]
  · simp [hk, Ne.symm hk]

end Additions

/-- A reading that goes through puts what it adds behind the variables that were there. -/
theorem slots_bindAll {env : Environment} {pairs : List (String × String)}
    (h : (bindAll env pairs).2 = none) :
    (bindAll env pairs).1.slots = env.slots ++ additions env pairs := by
  induction pairs generalizing env with
  | nil => exact (List.append_nil env.slots).symm
  | cons pair rest ih =>
    obtain ⟨name, value⟩ := pair
    cases hset : env.contains name with
    | true =>
      rw [bindAll_of_set hset] at h ⊢
      rw [ih h, additions_cons_of_set hset]
    | false =>
      cases hbind : Environment.bindError? name value with
      | some cause =>
        rw [bindAll_of_some hset hbind] at h
        exact absurd h (by simp)
      | none =>
        rw [bindAll_of_none hset hbind] at h ⊢
        rw [ih h, Table.slots_insert_of_new hset, additions_cons_of_new hset, List.append_assoc,
          List.singleton_append]

/-! ## Where a reading stops -/

section Stops

variable {env : Environment} {before after : List (String × String)} {name value : String}

/-- Behind pairs that could all be set, a name is new exactly if it is not set then. -/
theorem isNew_iff_of_bindAll (h : (bindAll env before).2 = none) :
    IsNew env before name ↔ (bindAll env before).1.contains name = false := by
  rw [isNew_iff, ← find?_bindAll h name, Table.contains, Option.isSome_eq_false_iff,
    Option.isNone_iff_eq_none]

theorem bindAll_of_isRefused (h : (bindAll env before).2 = none) (hnew : IsNew env before name)
    (hrefused : IsRefused name value) :
    bindAll env (before ++ (name, value) :: after) =
      ((bindAll env before).1, some (refusal name value)) := by
  have hstep := (isNew_iff_of_bindAll h).1 hnew
  rw [bindAll_append]
  cases hbefore : bindAll env before with
  | mk env' cause =>
    rw [hbefore] at h hstep
    obtain rfl : cause = none := h
    exact bindAll_of_some hstep (bindError?_of_isRefused hrefused) after

end Stops

section Readings

variable {env : Environment} {pairs : List (String × String)}
  (hnames : ∀ pair ∈ pairs, '=' ∉ pair.1.toList)

include hnames

/-- A reading that stops does so at a new name with a variable that is refused, and all in front
of it can be set. -/
theorem exists_stop {cause : BindError} (h : (bindAll env pairs).2 = some cause) :
    ∃ before name value after, pairs = before ++ (name, value) :: after ∧
      (bindAll env before).2 = none ∧ IsNew env before name ∧ IsRefused name value := by
  obtain ⟨before, name, value, after, env', hpairs, hbefore, hnew, hcause⟩ :=
    bindAll_eq_some_iff.1 h
  have hnone : (bindAll env before).2 = none := by rw [hbefore]
  refine ⟨before, name, value, after, hpairs, hnone, ?_, ?_⟩
  · rw [isNew_iff_of_bindAll hnone, hbefore]
    exact hnew
  · have hname : '=' ∉ name.toList := hnames (name, value) (by simp [hpairs])
    by_contra hnot
    rw [(bindError?_eq_none_iff hname).2 hnot] at hcause
    exact absurd hcause (by simp)

/-- A reading goes through exactly if it meets no variable under a new name that is refused. -/
theorem bindAll_eq_none_iff : (bindAll env pairs).2 = none ↔ ¬ MeetsRefused env pairs := by
  constructor
  · intro hnone hmeets
    obtain ⟨before, name, value, after, rfl, hnew, hrefused⟩ := hmeets
    -- the pairs in front can be set, for a reading that stops there would not get here
    have hbefore : (bindAll env before).2 = none := by
      rw [bindAll_append] at hnone
      cases hfront : bindAll env before with
      | mk env' cause =>
        rw [hfront] at hnone
        cases cause with
        | none => rfl
        | some cause => exact absurd hnone (by simp)
    rw [bindAll_of_isRefused hbefore hnew hrefused] at hnone
    exact absurd hnone (by simp)
  · intro hnot
    cases hcause : (bindAll env pairs).2 with
    | none => rfl
    | some cause =>
      obtain ⟨before, name, value, after, hpairs, -, hnew, hrefused⟩ := exists_stop hnames hcause
      exact absurd ⟨before, name, value, after, hpairs, hnew, hrefused⟩ hnot

end Readings

/-- A variable that is set keeps its value. -/
theorem find?_bindAll_of_set {env : Environment} {name value : String}
    (h : env.find? name = some value) (pairs : List (String × String)) :
    (bindAll env pairs).1.find? name = some value := by
  refine keeps_bindAll (fun env => env.find? name = some value) ?_ h pairs
  intro env name' value' hset hnew _
  have hne : name' ≠ name := by
    intro e
    rw [e, Table.contains, hset] at hnew
    exact absurd hnew (by simp)
  rw [Table.find?_insert, if_neg hne, hset]

theorem find?_load_of_set {env : Environment} {name value : String}
    (h : env.find? name = some value) (file : Bytes) :
    (load env file).1.find? name = some value := by
  unfold load
  split
  · exact h
  · exact find?_bindAll_of_set h _

end DotEnv

namespace Variables

/-! ## Reading after reading -/

/-- What happens to the variables of a process. -/
inductive Event where
  /-- A file is to be read into them, with the files as they are then. -/
  | reading (files : Files) (path : String)
  /-- Something else in the process changes them. -/
  | change (environment : Environment)

/-- The variables after an event. A path that cannot be followed leaves them as they are. -/
def after (vars : Variables) : Event → Variables
  | .reading files path =>
    match vars.loadAt files path with
    | .ok (vars', _) => vars'
    | .error _ => vars
  | .change environment => ⟨environment, vars.fileRead⟩

def afterAll (vars : Variables) (events : List Event) : Variables := events.foldl after vars

theorem loadAt_of_fileRead {vars : Variables} (h : vars.fileRead = true) (files : Files)
    (path : String) : vars.loadAt files path = .ok (vars, none) := by
  rw [loadAt, if_pos h]

theorem load_of_unread (env : Environment) (file : Bytes) :
    load ⟨env, false⟩ (some file) =
      (⟨(DotEnv.load env file).1, (DotEnv.load env file).2.isNone⟩, (DotEnv.load env file).2) :=
  rfl

theorem fileRead_after {vars : Variables} (h : vars.fileRead = true) (event : Event) :
    (vars.after event).fileRead = true := by
  cases event with
  | reading files path =>
    rw [after, loadAt_of_fileRead h]
    exact h
  | change environment => exact h

/-- A reading that went through is the last, whatever happens afterwards. -/
theorem fileRead_afterAll {vars : Variables} (h : vars.fileRead = true) (events : List Event) :
    (vars.afterAll events).fileRead = true := by
  induction events generalizing vars with
  | nil => exact h
  | cons event events ih => exact ih (fileRead_after h event)

section Kept

variable {vars : Variables} {name value : String}

theorem find?_load_of_set (h : vars.environment.find? name = some value) (file : Option Bytes) :
    (vars.load file).1.environment.find? name = some value := by
  unfold load
  split
  · exact h
  · split
    · exact h
    · exact DotEnv.find?_load_of_set h _

theorem find?_after_reading (h : vars.environment.find? name = some value) (files : Files)
    (path : String) :
    (vars.after (.reading files path)).environment.find? name = some value := by
  rw [after, loadAt]
  cases vars.fileRead with
  | true => exact h
  | false =>
    rw [if_neg (by decide)]
    cases files.read path with
    | error error => exact h
    | ok file => exact find?_load_of_set h file

/-- A variable that is set keeps its value through all readings. -/
theorem find?_afterAll_readings (h : vars.environment.find? name = some value)
    (readings : List (Files × String)) :
    (vars.afterAll (readings.map fun r => .reading r.1 r.2)).environment.find? name =
      some value := by
  induction readings generalizing vars with
  | nil => exact h
  | cons r readings ih => exact ih (find?_after_reading h r.1 r.2)

end Kept

/--
**What a reading of a file does, once and for all.**

Take the pairs of a text in order. If one of them has a new name and is refused, the reading stops
at the first that does. It says what is wrong with that pair, the pairs in front of it are set as
far as their names are new, and the next reading is a first reading again. Otherwise it goes
through: what is added are the first pairs of all new names, and no later reading changes anything
or goes wrong, whatever has become of the file and of the variables. Through any readings of any
files a variable that is set keeps its value.
-/
theorem load_outcome (env : Environment) (text : String) :
    let pairs := DotEnv.pairs text.toList
    let outcome := load ⟨env, false⟩ (some (Utf8.encodeString text))
    (DotEnv.MeetsRefused env pairs → ∃ before name value after,
        pairs = before ++ (name, value) :: after ∧ DotEnv.IsNew env before name ∧
        DotEnv.IsRefused name value ∧ ¬ DotEnv.MeetsRefused env before ∧
        outcome.2 = some (.refused (DotEnv.refusal name value)) ∧
        outcome.1.environment.slots = env.slots ++ DotEnv.additions env before ∧
        outcome.1.fileRead = false) ∧
      (¬ DotEnv.MeetsRefused env pairs → outcome.2 = none ∧
        outcome.1.environment.slots = env.slots ++ DotEnv.additions env pairs ∧
        ∀ events files path, let later := outcome.1.afterAll events
          later.loadAt files path = .ok (later, none)) ∧
      ∀ (vars : Variables) (readings : List (Files × String)) (name value : String),
        vars.environment.find? name = some value →
          (vars.afterAll (readings.map fun r => .reading r.1 r.2)).environment.find? name =
            some value := by
  intro pairs outcome
  have hnames : ∀ pair ∈ pairs, '=' ∉ pair.1.toList := fun _ => DotEnv.eq_not_mem_of_mem_pairs
  have houtcome : outcome = (⟨(DotEnv.bindAll env pairs).1,
      ((DotEnv.bindAll env pairs).2.map DotEnv.LoadError.refused).isNone⟩,
      (DotEnv.bindAll env pairs).2.map .refused) := by
    show load _ _ = _
    rw [load_of_unread, DotEnv.load_encodeString]
  rw [houtcome]
  refine ⟨?_, ?_, fun _ readings _ _ h => find?_afterAll_readings h readings⟩
  · intro hmeets
    obtain ⟨cause, hcause⟩ : ∃ cause, (DotEnv.bindAll env pairs).2 = some cause := by
      rw [← Option.ne_none_iff_exists', Ne, DotEnv.bindAll_eq_none_iff hnames, not_not]
      exact hmeets
    obtain ⟨before, name, value, after, hpairs, hbefore, hnew, hrefused⟩ :=
      DotEnv.exists_stop hnames hcause
    have hfront : ∀ pair ∈ before, '=' ∉ pair.1.toList := by
      intro pair hp
      exact hnames pair (by simp [hpairs, hp])
    have hfirst := (DotEnv.bindAll_eq_none_iff hfront).1 hbefore
    refine ⟨before, name, value, after, hpairs, hnew, hrefused, hfirst, ?_⟩
    rw [hpairs, DotEnv.bindAll_of_isRefused hbefore hnew hrefused]
    exact ⟨rfl, DotEnv.slots_bindAll hbefore, rfl⟩
  · intro hnot
    have hnone := (DotEnv.bindAll_eq_none_iff hnames).2 hnot
    rw [hnone]
    refine ⟨rfl, DotEnv.slots_bindAll hnone, ?_⟩
    intro events files path later
    exact loadAt_of_fileRead (fileRead_afterAll rfl events) files path

end Variables

end CatalogCache
