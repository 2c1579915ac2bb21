import CatalogCache.Proofs.Base64Texts
import CatalogCache.Proofs.Steps
import CatalogCache.Upsert

/-!
# Which values are upserts

A JSON value is an upsert if it is an object with a document in base64 and if the three members
that are texts are texts, as far as they are there (`IsPayload`). What it is an upsert of can be
read off the members one by one (`Describes`), and nothing hangs on any other member. Both are
said without the reader, and the reader agrees with them on every value (`ofJson_outcome`).

The reader takes the members in a row and stops at the first that does not fit. So it succeeds
exactly if each single step does, and each step looks at one member only
(`bodyOf_eq_ok_iff`, `textOf_eq_ok_iff`).
-/

namespace CatalogCache.Upsert

/-! ## Members -/

/-- The members that are texts, if they are there. -/
def textNames : List Text := ["modelCardKey", "modelCard", "lastUpdateTimeSinceEpoch"]

/-- A member that may be left out or null, and the text that it holds. -/
inductive OptionalText : Option Json → Text → Prop where
  | missing : OptionalText none []
  | null : OptionalText (some .null) []
  | text (s : Text) : OptionalText (some (.string s)) s

/-- A member that is left out or null stands for the empty text. -/
theorem OptionalText.eq_empty {v : Option Json} {text : Text} (h : OptionalText v text)
    (hv : v = none ∨ v = some .null) : text = [] := by
  cases h with
  | missing => rfl
  | null => rfl
  | text s =>
    rcases hv with hv | hv
    · exact absurd hv (by simp)
    · exact absurd hv (by simp)

/-- The members of an object are those of an upsert. -/
structure Describes (members : List (Text × Json)) (upsert : Upsert) : Prop where
  /-- The document is that of which the text is the base64, but for what says nothing. -/
  body : ∃ cs, Keyed.find? ("body" : Text) members = some (.string (.ofChars cs)) ∧
    Base64.TextOf upsert.body.length (Base64.encode upsert.body) cs
  cardKey : OptionalText (Keyed.find? ("modelCardKey" : Text) members) upsert.cardKey
  card : OptionalText (Keyed.find? ("modelCard" : Text) members) upsert.card
  token : OptionalText (Keyed.find? ("lastUpdateTimeSinceEpoch" : Text) members) upsert.token

/-- A value with all that an upsert needs. -/
def IsPayload (payload : Json) : Prop :=
  ∃ members, payload = .object members ∧
    (∃ cs length canonical, Keyed.find? ("body" : Text) members = some (.string (.ofChars cs)) ∧
      Base64.TextOf length canonical cs) ∧
    ∀ name ∈ textNames, ∃ text, OptionalText (Keyed.find? name members) text

theorem textOf_eq_ok_iff {name : String} {v : Option Json} {text : Text} :
    textOf name v = .ok text ↔ OptionalText v text := by
  constructor
  · intro h
    unfold textOf at h
    split at h
    · obtain rfl := Except.ok.inj h
      exact .missing
    · obtain rfl := Except.ok.inj h
      exact .null
    · obtain rfl := Except.ok.inj h
      exact .text _
    · exact absurd h (by simp)
  · intro h
    cases h <;> rfl

theorem bodyOf_eq_ok_iff {v : Option Json} {content : Bytes} :
    bodyOf v = .ok content ↔ ∃ cs, v = some (.string (.ofChars cs)) ∧
      Base64.TextOf content.length (Base64.encode content) cs := by
  constructor
  · intro h
    unfold bodyOf at h
    split at h
    · exact absurd h (by simp)
    · exact absurd h (by simp)
    · split at h
      · rename_i bytes hdecode
        obtain rfl := Except.ok.inj h
        obtain ⟨cs, rfl, htext⟩ := Base64.decodeText_eq_ok_iff.1 hdecode
        exact ⟨cs, rfl, htext⟩
      · exact absurd h (by simp)
    · exact absurd h (by simp)
  · rintro ⟨cs, rfl, htext⟩
    rw [bodyOf, Base64.decodeText_eq_ok_iff.2 ⟨cs, rfl, htext⟩]

/-! ## Values -/

theorem ofJson_object_eq_ok_iff {members : List (Text × Json)} {upsert : Upsert} :
    ofJson (.object members) = .ok upsert ↔ Describes members upsert := by
  simp only [ofJson, bind_eq_ok_iff, bodyOf_eq_ok_iff, textOf_eq_ok_iff]
  constructor
  · rintro ⟨body, hbody, cardKey, hcardKey, card, hcard, token, htoken, h⟩
    obtain rfl := Except.ok.inj h
    exact ⟨hbody, hcardKey, hcard, htoken⟩
  · intro h
    exact ⟨_, h.body, _, h.cardKey, _, h.card, _, h.token, rfl⟩

theorem ofJson_eq_ok_iff {payload : Json} {upsert : Upsert} :
    ofJson payload = .ok upsert ↔
      ∃ members, payload = .object members ∧ Describes members upsert := by
  cases payload with
  | object members => simp [ofJson_object_eq_ok_iff]
  | null | bool | int | float | string | array => simp [ofJson]

/-- A value with all that is needed describes an upsert. -/
theorem isPayload_iff {payload : Json} :
    IsPayload payload ↔ ∃ upsert, ofJson payload = .ok upsert := by
  constructor
  · rintro ⟨members, rfl, ⟨cs, length, canonical, hbody, htext⟩, htexts⟩
    obtain ⟨content, hdecode, hlength, hencode⟩ := Base64.decode_of_textOf htext
    obtain ⟨cardKey, hcardKey⟩ := htexts "modelCardKey" (by simp [textNames])
    obtain ⟨card, hcard⟩ := htexts "modelCard" (by simp [textNames])
    obtain ⟨token, htoken⟩ := htexts "lastUpdateTimeSinceEpoch" (by simp [textNames])
    refine ⟨⟨content, cardKey, card, token⟩, ofJson_object_eq_ok_iff.2 ?_⟩
    exact ⟨⟨cs, hbody, Base64.decode_eq_ok_iff.1 hdecode⟩, hcardKey, hcard, htoken⟩
  · rintro ⟨upsert, h⟩
    obtain ⟨members, rfl, hd⟩ := ofJson_eq_ok_iff.1 h
    obtain ⟨cs, hbody, htext⟩ := hd.body
    refine ⟨members, rfl, ⟨cs, _, _, hbody, htext⟩, ?_⟩
    intro name hname
    simp only [textNames, List.mem_cons, List.not_mem_nil, or_false] at hname
    rcases hname with rfl | rfl | rfl
    · exact ⟨_, hd.cardKey⟩
    · exact ⟨_, hd.card⟩
    · exact ⟨_, hd.token⟩

/--
**A value is taken exactly if it has all that an upsert needs, and for what it says.**

Any other value is refused. The upsert has the document and the three texts that the members
hold, and objects that have the document and the three texts alike are taken alike, whatever
else they hold.
-/
theorem ofJson_outcome (payload : Json) :
    ((∃ upsert, ofJson payload = .ok upsert) ↔ IsPayload payload) ∧
      (¬ IsPayload payload → ∃ error, ofJson payload = .error error) ∧
      (∀ upsert, ofJson payload = .ok upsert ↔
        ∃ members, payload = .object members ∧ Describes members upsert) ∧
      ∀ members members', payload = .object members →
        (∀ name ∈ ("body" : Text) :: textNames,
          Keyed.find? name members' = Keyed.find? name members) →
        ofJson (.object members') = ofJson payload := by
  refine ⟨isPayload_iff.symm, ?_, fun upsert => ofJson_eq_ok_iff, ?_⟩
  · intro hnot
    cases h : ofJson payload with
    | ok upsert => exact absurd (isPayload_iff.2 ⟨upsert, h⟩) hnot
    | error error => exact ⟨error, rfl⟩
  · rintro members members' rfl hsame
    rw [ofJson, ofJson, hsame "body" (by simp), hsame "modelCardKey" (by simp [textNames]),
      hsame "modelCard" (by simp [textNames]),
      hsame "lastUpdateTimeSinceEpoch" (by simp [textNames])]

end CatalogCache.Upsert
