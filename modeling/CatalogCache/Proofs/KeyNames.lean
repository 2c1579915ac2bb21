import CatalogCache.Key
import Mathlib.Data.List.TakeWhile

/-!
# Which texts are keys

A text is a key exactly if two names stand at its beginning with an underscore between them, and
nothing or another underscore behind them (`IsReadFrom`). Names are not empty and hold no
underscore of their own, and so a text begins with at most one pair of them.

All of it comes from one fact about a row of code points. What stands before its first underscore
is the only part without underscores that ends with the list or in front of an underscore
(`leading_eq_iff`); a key is that fact, used twice.

Writing and reading are inverse on model versions with such names, and on no other ones
(`ofKey_key_iff`). A name with an underscore is written all right, and read back as something else.
-/

namespace CatalogCache.ModelVersion

/-! ## Names -/

/-- Both names are there, and neither holds an underscore. -/
structure IsNamed (v : ModelVersion) : Prop where
  model_ne : v.model ≠ []
  version_ne : v.version ≠ []
  model_plain : .char '_' ∉ v.model
  version_plain : .char '_' ∉ v.version

/-- The names of a model version are those that a text begins with. -/
structure IsReadFrom (v : ModelVersion) (text : Text) : Prop where
  named : v.IsNamed
  /-- The text ends with the second name, or an underscore ends the name. -/
  begins : text = v.model ++ "_" ++ v.version ∨
    ∃ rest, text = v.model ++ "_" ++ v.version ++ "_" ++ rest

theorem inName_iff {c : CodePoint} : inName c = true ↔ c ≠ .char '_' := by
  rw [inName, delimiter, bne_iff_ne]

theorem forall_inName_iff {cs : Text} : (∀ c ∈ cs, inName c = true) ↔ .char '_' ∉ cs := by
  constructor
  · intro h hm
    exact inName_iff.1 (h _ hm) rfl
  · intro h c hc
    refine inName_iff.2 ?_
    rintro rfl
    exact h hc

/-- What stands in front of the first underscore, and behind it. -/
theorem divided_iff {cs name rest : Text} :
    cs.takeWhile inName = name ∧ cs.dropWhile inName = .char '_' :: rest ↔
      .char '_' ∉ name ∧ cs = name ++ .char '_' :: rest := by
  constructor
  · rintro ⟨rfl, hdrop⟩
    refine ⟨forall_inName_iff.1 fun c hc => List.mem_takeWhile_imp hc, ?_⟩
    rw [← hdrop, List.takeWhile_append_dropWhile]
  · rintro ⟨hname, rfl⟩
    have hin := forall_inName_iff.2 hname
    rw [List.takeWhile_append_of_pos hin, List.dropWhile_append_of_pos hin]
    exact ⟨List.append_nil name, rfl⟩

/-- What is left behind the first part without underscores begins with one. -/
theorem eq_of_dropWhile_inName {cs rest : Text} {c : CodePoint}
    (h : cs.dropWhile inName = c :: rest) : c = .char '_' := by
  have hne : cs.dropWhile inName ≠ [] := by
    rw [h]
    exact List.cons_ne_nil c rest
  have hstop := List.head_dropWhile_not inName hne
  simp only [h, List.head_cons] at hstop
  by_contra hc
  rw [inName_iff.2 hc] at hstop
  exact Bool.noConfusion hstop

/-- **The first part without underscores ends with the list or in front of an underscore.** -/
theorem leading_eq_iff {cs name : Text} :
    cs.takeWhile inName = name ↔
      .char '_' ∉ name ∧ (cs = name ∨ ∃ rest, cs = name ++ .char '_' :: rest) := by
  constructor
  · intro h
    cases hdrop : cs.dropWhile inName with
    | nil =>
      have hall : cs.takeWhile inName = cs := by
        have hsplit := List.takeWhile_append_dropWhile (p := inName) (l := cs)
        rwa [hdrop, List.append_nil] at hsplit
      have hcs : cs = name := hall.symm.trans h
      refine ⟨forall_inName_iff.1 fun c hc => ?_, Or.inl hcs⟩
      exact List.mem_takeWhile_imp (h ▸ hc)
    | cons c rest =>
      obtain rfl := eq_of_dropWhile_inName hdrop
      obtain ⟨hname, hcs⟩ := divided_iff.1 ⟨h, hdrop⟩
      exact ⟨hname, Or.inr ⟨rest, hcs⟩⟩
  · rintro ⟨hname, rfl | ⟨rest, rfl⟩⟩
    · exact List.takeWhile_eq_self_iff.2 (forall_inName_iff.2 hname)
    · exact (divided_iff.2 ⟨hname, rfl⟩).1

/-- The first name is looked for in the list, the second in what follows its underscore. -/
theorem names?_eq_some_iff_exists {cs model version : Text} :
    names? cs = some (model, version) ↔
      ∃ rest, (cs.takeWhile inName = model ∧ cs.dropWhile inName = .char '_' :: rest) ∧
        rest.takeWhile inName = version ∧ model ≠ [] ∧ version ≠ [] := by
  rw [names?]
  cases hdrop : cs.dropWhile inName with
  | nil => simp
  | cons c rest =>
    obtain rfl := eq_of_dropWhile_inName hdrop
    dsimp only
    split
    · rename_i hempty
      rw [Bool.or_eq_true, List.isEmpty_iff, List.isEmpty_iff] at hempty
      constructor
      · intro h
        exact absurd h (by simp)
      · rintro ⟨rest', ⟨rfl, hrest⟩, rfl, hmodel, hversion⟩
        obtain rfl := (List.cons.inj hrest).2
        exact absurd hempty (not_or.2 ⟨hmodel, hversion⟩)
    · rename_i hne
      rw [Bool.or_eq_true, not_or, List.isEmpty_iff, List.isEmpty_iff] at hne
      constructor
      · intro h
        obtain ⟨rfl, rfl⟩ := Prod.mk.inj (Option.some.inj h)
        exact ⟨rest, ⟨rfl, rfl⟩, rfl, hne.1, hne.2⟩
      · rintro ⟨rest', ⟨rfl, hrest⟩, rfl, -, -⟩
        rw [(List.cons.inj hrest).2]

/-- Two names are found exactly if a list begins with them. -/
theorem names?_eq_some_iff {cs model version : Text} :
    names? cs = some (model, version) ↔
      (model ≠ [] ∧ version ≠ [] ∧ .char '_' ∉ model ∧ .char '_' ∉ version) ∧
        (cs = model ++ .char '_' :: version ∨
          ∃ rest, cs = model ++ .char '_' :: (version ++ .char '_' :: rest)) := by
  rw [names?_eq_some_iff_exists]
  constructor
  · rintro ⟨tail, hfirst, hsecond, hm, hv⟩
    obtain ⟨hmodel, rfl⟩ := divided_iff.1 hfirst
    obtain ⟨hversion, rfl | ⟨rest, rfl⟩⟩ := leading_eq_iff.1 hsecond
    · exact ⟨⟨hm, hv, hmodel, hversion⟩, Or.inl rfl⟩
    · exact ⟨⟨hm, hv, hmodel, hversion⟩, Or.inr ⟨rest, rfl⟩⟩
  · rintro ⟨⟨hm, hv, hmodel, hversion⟩, rfl | ⟨rest, rfl⟩⟩
    · exact ⟨version, divided_iff.2 ⟨hmodel, rfl⟩, leading_eq_iff.2 ⟨hversion, Or.inl rfl⟩, hm, hv⟩
    · exact ⟨_, divided_iff.2 ⟨hmodel, rfl⟩, leading_eq_iff.2 ⟨hversion, Or.inr ⟨rest, rfl⟩⟩, hm,
        hv⟩

/-! ## Keys -/

theorem isReadFrom_iff {v : ModelVersion} {text : Text} :
    v.IsReadFrom text ↔ names? text = some (v.model, v.version) := by
  have hmark : (("_" : String) : Text) = [.char '_'] := rfl
  rw [names?_eq_some_iff]
  constructor
  · rintro ⟨⟨hm, hv, hmodel, hversion⟩, hbegins⟩
    refine ⟨⟨hm, hv, hmodel, hversion⟩, ?_⟩
    rcases hbegins with rfl | ⟨rest, rfl⟩
    · exact Or.inl (by simp [hmark])
    · exact Or.inr ⟨rest, by simp [hmark]⟩
  · rintro ⟨⟨hm, hv, hmodel, hversion⟩, hbegins⟩
    refine ⟨⟨hm, hv, hmodel, hversion⟩, ?_⟩
    rcases hbegins with rfl | ⟨rest, rfl⟩
    · exact Or.inl (by simp [hmark])
    · exact Or.inr ⟨rest, by simp [hmark]⟩

/-- A text is accepted exactly if it begins with two names, and these are what it is read as. -/
theorem ofKey_eq_ok_iff {text : Text} {v : ModelVersion} :
    ofKey (some text) = .ok v ↔ v.IsReadFrom text := by
  rw [isReadFrom_iff, ofKey]
  split
  · rename_i hempty
    rw [List.isEmpty_iff.1 hempty]
    simp [names?]
  · cases hnames : names? text with
    | none => simp
    | some names =>
      obtain ⟨model, version⟩ := names
      simp only [Except.ok.injEq, ModelVersion.ext_iff, Option.some.injEq, Prod.mk.injEq]

/-- A text begins with at most one pair of names. -/
theorem IsReadFrom.unique {v w : ModelVersion} {text : Text} (hv : v.IsReadFrom text)
    (hw : w.IsReadFrom text) : v = w :=
  Except.ok.inj ((ofKey_eq_ok_iff.2 hv).symm.trans (ofKey_eq_ok_iff.2 hw))

theorem isString_uri {v : ModelVersion} (hm : v.model.IsString) (hv : v.version.IsString)
    (format : String) : (v.uri format).IsString := by
  simp only [uri, Text.isString_append, Text.isString_ofString, hm, hv, and_self]

/-- A key without surrogates stands for a URI without surrogates. -/
theorem isString_of_uriOfKey {key : Option Text} {format : String} {uri : Text}
    (hkey : ∀ text, key = some text → text.IsString) (h : uriOfKey key format = .ok uri) :
    uri.IsString := by
  obtain ⟨v, hv, rfl⟩ := uriOfKey_eq_ok_iff.1 h
  cases key with
  | none => exact absurd hv (by simp [ofKey])
  | some text =>
    have htext := hkey text rfl
    rcases (ofKey_eq_ok_iff.1 hv).begins with rfl | ⟨rest, rfl⟩
    · simp only [Text.isString_append] at htext
      exact isString_uri htext.1.1 htext.2 format
    · simp only [Text.isString_append] at htext
      exact isString_uri htext.1.1.1.1 htext.1.1.2 format

/-- Why a text is refused: an empty one counts as none. -/
def refusal : Option Text → KeyError
  | none => .missing
  | some text => if text.isEmpty then .missing else .malformed text

theorem eq_refusal_of_ofKey_eq_error {key : Option Text} {e : KeyError}
    (h : ofKey key = .error e) : e = refusal key := by
  cases key with
  | none => exact (Except.error.inj h).symm
  | some text =>
    rw [ofKey] at h
    rw [refusal]
    split at h
    · rename_i hempty
      rw [if_pos hempty]
      exact (Except.error.inj h).symm
    · rename_i hempty
      rw [if_neg hempty]
      split at h
      · exact absurd h (by simp)
      · exact (Except.error.inj h).symm

theorem isString_message {key : Option Text} {e : KeyError}
    (hkey : ∀ text, key = some text → text.IsString) (h : ofKey key = .error e) :
    e.message.IsString := by
  rw [eq_refusal_of_ofKey_eq_error h]
  cases key with
  | none => exact Text.isString_ofString _
  | some text =>
    rw [refusal]
    split
    · exact Text.isString_ofString _
    · exact Text.isString_append.2 ⟨Text.isString_ofString _, hkey text rfl⟩

/-- What begins with no two names is refused, and so is the absence of a text. -/
theorem ofKey_eq_error_iff {key : Option Text} :
    ofKey key = .error (refusal key) ↔
      ∀ text v, key = some text → ¬ IsReadFrom v text := by
  constructor
  · rintro h text v rfl hread
    exact absurd ((ofKey_eq_ok_iff.2 hread).symm.trans h) (by simp)
  · intro h
    cases hkey : ofKey key with
    | error e => rw [eq_refusal_of_ofKey_eq_error hkey]
    | ok v =>
      cases key with
      | none => exact absurd hkey (by simp [ofKey])
      | some text => exact absurd (ofKey_eq_ok_iff.1 hkey) (h text v rfl)

/-- The key of a model version is read as it exactly if both names can be told apart in it. -/
theorem ofKey_key_iff {v : ModelVersion} : ofKey (some v.key) = .ok v ↔ v.IsNamed := by
  rw [ofKey_eq_ok_iff]
  exact ⟨fun h => h.named, fun h => ⟨h, Or.inl rfl⟩⟩

theorem IsReadFrom.exists_eq_key_append {v : ModelVersion} {text : Text}
    (h : v.IsReadFrom text) : ∃ rest, text = v.key ++ rest := by
  rcases h.begins with rfl | ⟨rest, rfl⟩
  · exact ⟨[], by simp [key]⟩
  · exact ⟨"_" ++ rest, by simp [key]⟩

/--
**A key is read as the two names that it begins with.**

A text is accepted exactly if it begins with two names, of which there is only one pair; all
else, the absence of a text among it, is refused. What was read can be written again: the key of
the names is how the text begins, is read as the same names, and has the same URI in every
format. What is written is read back exactly if neither name is empty or holds an underscore.
-/
theorem ofKey_reads_names :
    (∀ text v, ofKey (some text) = .ok v ↔ IsReadFrom v text) ∧
    (∀ text v w, IsReadFrom v text → IsReadFrom w text → v = w) ∧
    (∀ key, ofKey key = .error (refusal key) ↔
      ∀ text v, key = some text → ¬ IsReadFrom v text) ∧
    (∀ text v, ofKey (some text) = .ok v →
      (∃ rest, text = v.key ++ rest) ∧ ofKey (some v.key) = .ok v ∧
      ∀ format, uriOfKey (some v.key) format = uriOfKey (some text) format) ∧
    (∀ v : ModelVersion, ofKey (some v.key) = .ok v ↔ v.IsNamed) := by
  refine ⟨?_, ?_, ?_, ?_, ?_⟩
  · intro text v
    exact ofKey_eq_ok_iff
  · intro text v w
    exact IsReadFrom.unique
  · intro key
    exact ofKey_eq_error_iff
  · intro text v h
    have hread := ofKey_eq_ok_iff.1 h
    have hkey := ofKey_key_iff.2 hread.named
    refine ⟨hread.exists_eq_key_append, hkey, ?_⟩
    intro format
    rw [uriOfKey, uriOfKey, hkey, h]
  · intro v
    exact ofKey_key_iff

example : ofKey (some (key ⟨"mnist_v1", "json"⟩)) = .ok ⟨"mnist", "v1"⟩ := rfl

end CatalogCache.ModelVersion
