import CatalogCache.Proofs.EnvironmentFiles
import Mathlib.Data.List.TakeWhile

/-!
# Variables without a name

A line of a file may have nothing in front of its equals sign. It is taken for a variable with
the empty name, which the operating system refuses. So a reading can end there, though it need
not: it may have ended before, and a name that is set is not set again. `MeetsNameless` is the
exact condition for a text, and `SetsNameless` that for a process with its file
(`load_eq_emptyName_iff`). Where no line begins with an equals sign neither is met
(`not_setsNameless`).

Any reading that ends early ends at the first variable that is not set yet and cannot be set
(`bindAll_eq_some_iff`). The rest is about the empty name, which no reading can set.
-/

namespace CatalogCache

namespace Text

theorem mem_of_mem_trim {cs : List Char} {c : Char} (h : c ∈ trim cs) : c ∈ cs := by
  rw [trim, trimWhile, dropEndWhile, List.mem_reverse] at h
  have hback := (List.dropWhile_suffix isBlank).mem h
  exact (List.dropWhile_suffix isBlank).mem (List.mem_reverse.1 hback)

/-- What is left of a text begins with no blank space. -/
theorem isBlank_of_head?_trim {cs : List Char} {c : Char} (h : (trim cs).head? = some c) :
    isBlank c = false := by
  have hfront : trim cs <+: cs.dropWhile isBlank := by
    have hback : ((cs.dropWhile isBlank).reverse).dropWhile isBlank <:+
        (cs.dropWhile isBlank).reverse := List.dropWhile_suffix isBlank
    rw [trim, trimWhile, dropEndWhile, ← List.reverse_suffix, List.reverse_reverse]
    exact hback
  obtain ⟨rest, hrest⟩ := hfront
  have hhead : (cs.dropWhile isBlank).head? = some c := by
    rw [← hrest, List.head?_append, h, Option.some_or]
  have hnot := List.head?_dropWhile_not isBlank cs
  rw [hhead] at hnot
  exact hnot

/-- Nothing is left of blank space only. -/
theorem isBlank_of_trim_eq_nil {cs : List Char} (h : trim cs = []) :
    ∀ c ∈ cs, isBlank c = true := by
  rw [trim, trimWhile, dropEndWhile, List.reverse_eq_nil_iff, List.dropWhile_eq_nil_iff] at h
  cases hcs : cs.dropWhile isBlank with
  | nil => exact List.dropWhile_eq_nil_iff.1 hcs
  | cons c rest =>
    have hnot := List.head?_dropWhile_not isBlank cs
    rw [hcs] at h hnot
    have hblank : isBlank c = true := h c (by simp)
    have hfalse : isBlank c = false := hnot
    exact absurd (hblank.symm.trans hfalse) (by decide)

end Text

theorem Environment.bindError?_eq_emptyName_iff {name value : String} :
    bindError? name value = some .emptyName ↔ name = "" ∧ '\x00' ∉ value.toList := by
  unfold bindError?
  constructor
  · intro h
    split at h
    · exact absurd h (by simp)
    · rename_i hnul
      split at h
      · exact absurd h (by simp)
      · split at h
        · rename_i hempty
          rw [Bool.or_eq_true, not_or] at hnul
          exact ⟨String.isEmpty_iff.1 hempty, by simpa using hnul.2⟩
        · exact absurd h (by simp)
  · rintro ⟨rfl, hnul⟩
    simp [hnul]

theorem Environment.bindError?_empty_ne_none {value : String} : bindError? "" value ≠ none := by
  unfold bindError?
  split <;> simp

namespace DotEnv

theorem bindAll_append (env : Environment) (front back : List (String × String)) :
    bindAll env (front ++ back) =
      match bindAll env front with
      | (env', none) => bindAll env' back
      | (env', some cause) => (env', some cause) := by
  induction front generalizing env with
  | nil => rfl
  | cons pair front ih =>
    obtain ⟨name, value⟩ := pair
    rw [List.cons_append]
    cases hset : env.contains name with
    | true => rw [bindAll_of_set hset, bindAll_of_set hset, ih]
    | false =>
      cases hbind : Environment.bindError? name value with
      | some cause => rw [bindAll_of_some hset hbind, bindAll_of_some hset hbind]
      | none => rw [bindAll_of_none hset hbind, bindAll_of_none hset hbind, ih]

/-- The reading ends at the first variable that is not set yet and cannot be set. -/
theorem bindAll_eq_some_iff {env : Environment} {pairs : List (String × String)}
    {cause : BindError} :
    (bindAll env pairs).2 = some cause ↔ ∃ before name value after env',
      pairs = before ++ (name, value) :: after ∧ bindAll env before = (env', none) ∧
        env'.contains name = false ∧ Environment.bindError? name value = some cause := by
  constructor
  · intro h
    induction pairs generalizing env with
    | nil => exact absurd h (by simp [bindAll])
    | cons pair rest ih =>
      obtain ⟨name, value⟩ := pair
      cases hset : env.contains name with
      | true =>
        rw [bindAll_of_set hset] at h
        obtain ⟨before, name', value', after, env', rfl, hbefore, hnew, hcause⟩ := ih h
        refine ⟨(name, value) :: before, name', value', after, env', rfl, ?_, hnew, hcause⟩
        rw [bindAll_of_set hset, hbefore]
      | false =>
        cases hbind : Environment.bindError? name value with
        | some cause' =>
          rw [bindAll_of_some hset hbind] at h
          obtain rfl := Option.some.inj h
          exact ⟨[], name, value, rest, env, rfl, rfl, hset, hbind⟩
        | none =>
          rw [bindAll_of_none hset hbind] at h
          obtain ⟨before, name', value', after, env', rfl, hbefore, hnew, hcause⟩ := ih h
          refine ⟨(name, value) :: before, name', value', after, env', rfl, ?_, hnew, hcause⟩
          rw [bindAll_of_none hset hbind, hbefore]
  · rintro ⟨before, name, value, after, env', rfl, hbefore, hnew, hcause⟩
    rw [bindAll_append, hbefore]
    dsimp only
    rw [bindAll_of_some hnew hcause]

/-- A variable without a name is met that is not set, and all in front of it can be set. -/
def MeetsNameless (env : Environment) (pairs : List (String × String)) : Prop :=
  env.find? "" = none ∧ ∃ before value after, pairs = before ++ ("", value) :: after ∧
    (bindAll env before).2 = none ∧ '\x00' ∉ value.toList

/-- What setting a new variable keeps, a reading keeps. -/
theorem keeps_bindAll (keeps : Environment → Prop)
    (hstep : ∀ env name value, keeps env → env.contains name = false →
      Environment.bindError? name value = none → keeps (env.insert name value))
    {env : Environment} (h : keeps env) (pairs : List (String × String)) :
    keeps (bindAll env pairs).1 := by
  induction pairs generalizing env with
  | nil => exact h
  | cons pair rest ih =>
    obtain ⟨name, value⟩ := pair
    cases hset : env.contains name with
    | true =>
      rw [bindAll_of_set hset]
      exact ih h
    | false =>
      cases hbind : Environment.bindError? name value with
      | some cause =>
        rw [bindAll_of_some hset hbind]
        exact h
      | none =>
        rw [bindAll_of_none hset hbind]
        exact ih (hstep env name value h hset hbind)

/-- No variables give a value to the empty name. -/
theorem find?_bindAll_empty {env : Environment} (h : env.find? "" = none)
    (pairs : List (String × String)) : (bindAll env pairs).1.find? "" = none := by
  refine keeps_bindAll (fun env => env.find? "" = none) ?_ h pairs
  intro env name value hunset _ hbind
  have hname : name ≠ "" := by
    rintro rfl
    exact absurd hbind Environment.bindError?_empty_ne_none
  rw [Table.find?_insert, if_neg hname, hunset]

theorem bindAll_eq_emptyName_iff {env : Environment} {pairs : List (String × String)} :
    (bindAll env pairs).2 = some .emptyName ↔ MeetsNameless env pairs := by
  rw [bindAll_eq_some_iff]
  constructor
  · rintro ⟨before, name, value, after, env', rfl, hbefore, hnew, hcause⟩
    obtain ⟨rfl, hnul⟩ := Environment.bindError?_eq_emptyName_iff.1 hcause
    have hnone : (bindAll env before).2 = none := by rw [hbefore]
    have hmerges := find?_bindAll hnone ""
    rw [hbefore] at hmerges
    have hnew' : env'.find? "" = none := by simpa [Table.contains] using hnew
    have hunset : (env.find? "").or (Keyed.find? "" before) = none := hmerges.symm.trans hnew'
    exact ⟨(Option.or_eq_none_iff.1 hunset).1, before, value, after, rfl, hnone, hnul⟩
  · rintro ⟨hunset, before, value, after, rfl, hbefore, hnul⟩
    have hnew := find?_bindAll_empty hunset before
    refine ⟨before, "", value, after, (bindAll env before).1, rfl, ?_, ?_, ?_⟩
    · rw [← hbefore]
    · rw [Table.contains, hnew]
      rfl
    · exact Environment.bindError?_eq_emptyName_iff.2 ⟨rfl, hnul⟩

/-- A line has an empty name only if it begins with its equals sign. -/
theorem head?_trim_of_pair? {line : List Char} {value : String}
    (h : pair? line = some ("", value)) : (Text.trim line).head? = some '=' := by
  unfold pair? at h
  dsimp only at h
  split at h
  · exact absurd h (by simp)
  · split at h
    · exact absurd h (by simp)
    · rename_i hsplit
      have hname := (Prod.mk.inj (Option.some.inj h)).1
      have hblank := Text.isBlank_of_trim_eq_nil (String.ofList_eq_empty_iff.1 hname)
      cases htext : Text.trim line with
      | nil =>
        rw [htext] at hsplit
        exact absurd hsplit (by simp)
      | cons c rest =>
        by_cases hc : c = '='
        · rw [hc]
          rfl
        · -- the name would begin with blank space, which was taken away before
          have hfirst : (Text.trim line).head? = some c := by rw [htext]; rfl
          have hhead := Text.isBlank_of_head?_trim hfirst
          rw [htext, List.takeWhile_cons_of_pos (by simpa using hc)] at hblank
          rw [hblank c List.mem_cons_self] at hhead
          exact absurd hhead (by decide)

end DotEnv

namespace Variables

/-- The file of a process is still to be read, and sets a variable without a name. -/
def SetsNameless (vars : Variables) (file : Option Bytes) : Prop :=
  vars.fileRead = false ∧ ∃ bytes text, file = some bytes ∧ Utf8.decode? bytes = some text ∧
    DotEnv.MeetsNameless vars.environment (DotEnv.pairs text)

theorem load_eq_emptyName_iff {vars : Variables} {file : Option Bytes} :
    (vars.load file).2 = some (.refused .emptyName) ↔ vars.SetsNameless file := by
  cases hread : vars.fileRead with
  | true => simp [load, SetsNameless, hread]
  | false =>
    cases file with
    | none => simp [load, SetsNameless, hread]
    | some bytes =>
      have hload : (vars.load (some bytes)).2 = (DotEnv.load vars.environment bytes).2 := by
        rw [load, hread]
        rfl
      rw [hload, DotEnv.load]
      cases htext : Utf8.decode? bytes with
      | none =>
        obtain ⟨defect, hdefect⟩ :=
          Option.isSome_iff_exists.1 ((Utf8.defect?_isSome_iff bytes).2 htext)
        simp [SetsNameless, hdefect, htext]
      | some text =>
        have hdefect : Utf8.defect? bytes = none := by
          rw [← Option.not_isSome_iff_eq_none, Utf8.defect?_isSome_iff, htext]
          exact Option.some_ne_none text
        rw [hdefect]
        dsimp only
        rw [Utf8.decodeLossy_of_decode? htext]
        simp [SetsNameless, hread, htext, ← DotEnv.bindAll_eq_emptyName_iff]

/-- A file in which no line begins with an equals sign sets no variable without a name. -/
theorem not_setsNameless {vars : Variables} {file : Option Bytes}
    (hlines : ∀ bytes text, file = some bytes → Utf8.decode? bytes = some text →
      ∀ line ∈ Text.lines text, (Text.trim line).head? ≠ some '=') :
    ¬ vars.SetsNameless file := by
  rintro ⟨-, bytes, text, hfile, htext, -, before, value, after, hpairs, -⟩
  have hpair : ("", value) ∈ DotEnv.pairs text := by
    rw [hpairs]
    exact List.mem_append_right before List.mem_cons_self
  obtain ⟨line, hline, hsome⟩ := List.mem_filterMap.1 hpair
  exact hlines bytes text hfile htext line hline (DotEnv.head?_trim_of_pair? hsome)

end Variables

end CatalogCache
