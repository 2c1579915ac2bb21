import CatalogCache.Text

/-!
# Keys and URIs

A document belongs to one version of one model. Its key joins the two names by an
underscore, its URI is the path of model, version and output format.

A key is read at its first two underscores: the model stands before the first, the version
between the two (or up to the end), and what follows the second is ignored. Both names must
be there, so neither can hold an underscore.
-/

namespace CatalogCache

/-- A version of a model. -/
@[ext] structure ModelVersion where
  model : Text
  version : Text
  deriving DecidableEq, Repr

/-- Why a text is no key. -/
inductive KeyError where
  /-- There is no text, or an empty one. -/
  | missing
  /-- One of the two names is missing. -/
  | malformed (key : Text)
  deriving DecidableEq, Repr

def KeyError.message : KeyError → Text
  | .missing => "need a 'key' parameter"
  | .malformed key => "bad key format: " ++ key

namespace ModelVersion

/-- The character between the names in a key. -/
def delimiter : CodePoint := .char '_'

/-- A code point that is part of a name. -/
def inName (p : CodePoint) : Bool := p != delimiter

/-- The two names in front of a text, if both are there. -/
def names? (cs : Text) : Option (Text × Text) :=
  match cs.dropWhile inName with
  | [] => none
  | _ :: rest =>
    let model := cs.takeWhile inName
    let version := rest.takeWhile inName
    if model.isEmpty || version.isEmpty then none else some (model, version)

/-- The model and version that a key names. -/
def ofKey : Option Text → Except KeyError ModelVersion
  | none => .error .missing
  | some key =>
    if key.isEmpty then .error .missing
    else
      match names? key with
      | some (model, version) => .ok ⟨model, version⟩
      | none => .error (.malformed key)

/-- The key of a model version. -/
def key (v : ModelVersion) : Text := v.model ++ "_" ++ v.version

/-- The URI of a model version in an output format. -/
def uri (v : ModelVersion) (format : String) : Text :=
  "/" ++ v.model ++ "/" ++ v.version ++ "/" ++ format

end ModelVersion

/-- The URI that a key stands for in an output format. -/
def uriOfKey (key : Option Text) (format : String) : Except KeyError Text :=
  (ModelVersion.ofKey key).map (·.uri format)

theorem uriOfKey_eq_ok_iff {key : Option Text} {format : String} {uri : Text} :
    uriOfKey key format = .ok uri ↔ ∃ v, ModelVersion.ofKey key = .ok v ∧ v.uri format = uri := by
  rw [uriOfKey]
  cases ModelVersion.ofKey key with
  | error e => simp [Except.map]
  | ok v => simp [Except.map]

/-- Both names of an accepted key are there. -/
theorem ModelVersion.names_of_ofKey {key : Option Text} {v : ModelVersion}
    (h : ofKey key = .ok v) : v.model ≠ [] ∧ v.version ≠ [] := by
  cases key with
  | none => exact absurd h (by simp [ofKey])
  | some key =>
    rw [ofKey] at h
    split at h
    · exact absurd h (by simp)
    · split at h
      · rename_i model version hnames
        obtain rfl := Except.ok.inj h
        rw [names?] at hnames
        split at hnames
        · exact absurd hnames (by simp)
        · dsimp only at hnames
          split at hnames
          · exact absurd hnames (by simp)
          · rename_i hne
            obtain ⟨rfl, rfl⟩ := Prod.mk.inj (Option.some.inj hnames)
            rw [Bool.or_eq_true, not_or, List.isEmpty_iff, List.isEmpty_iff] at hne
            exact hne
      · exact absurd h (by simp)

end CatalogCache
