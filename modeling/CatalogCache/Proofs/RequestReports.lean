import CatalogCache.Http.App
import CatalogCache.Proofs.Utf8Texts

/-!
# What is reported about a request

A request with a method is reported in one record. In the place of the body stands a word, or
the text of the body, cut if it is too long (`Shows`). The cases do not overlap, so that the
record is determined by them (`shows_iff`).

Bytes have a text only if all of them together are UTF-8. What spoils them may stand far behind
the place of the cut. The cut goes through the text and not through the bytes: it leaves whole
characters.

The cases leave out the bodies that nothing can be shown of (`isShowable_iff`). For them the
report fails as a whole. A body of bytes is none of them, so what the service itself
reports never fails (`App.serve_log`).
-/

namespace CatalogCache.Http

namespace Payload

/-- Payloads that count as nothing. -/
inductive IsNothing : Payload → Prop where
  | absent : IsNothing .absent
  | noBytes : IsNothing (.bytes [])
  | null : IsNothing (.json .null)
  | false : IsNothing (.json (.bool false))
  | zero : IsNothing (.json (.int 0))
  | floatZero (negative : Bool) (exponent : Int) :
      IsNothing (.json (.float (.finite negative 0 exponent)))
  | emptyString : IsNothing (.json (.string []))
  | emptyArray : IsNothing (.json (.array []))
  | emptyObject : IsNothing (.json (.object []))

/-- A value that can be written where values may nest to a depth of `room`. -/
structure IsWritable (room : Nat) (value : Json) : Prop where
  depth : value.depth ≤ room
  integers : value.hasShortIntegers = true

/-- A payload that something can be shown of: no value that cannot be written, and nothing that
fails when it is asked for a text. -/
def IsShowable (room : Nat) : Payload → Prop
  | .json value => IsNothing (.json value) ∨ IsWritable room value
  | .mute => False
  | .unavailable | .absent | .bytes _ | .shown _ => True

/-- The text of a payload, before it is cut. -/
inductive HasText (room : Nat) : Payload → Text → Prop where
  | bytes {body : Bytes} {text : String} :
      body ≠ [] → Utf8.encodeString text = body → HasText room (.bytes body) text
  | json {value : Json} :
      ¬ IsNothing (.json value) → IsWritable room value →
      HasText room (.json value) (value.render Json.spaced)
  | shown (text : Text) : HasText room (.shown text) text

/-- What is left of a text: all of it, or its first code points and a mark. -/
inductive Cut (text : Text) : Text → Prop where
  | whole : text.length ≤ 2048 → Cut text text
  | front (front back : Text) :
      text = front ++ back → front.length = 2048 → back ≠ [] → Cut text (front ++ "...<truncated>")

/-- What stands in the place of a payload. -/
inductive Shows (room : Nat) : Payload → Text → Prop where
  | missing : Shows room .unavailable "<missing>"
  | empty {payload : Payload} : payload.IsNothing → Shows room payload "<empty>"
  | binary {body : Bytes} : ¬ Utf8.IsText body → Shows room (.bytes body) "<binary>"
  | text {payload : Payload} {text shown : Text} :
      payload.HasText room text → Cut text shown → Shows room payload shown

/-! ## Cutting a text -/

theorem truncate_append {front back : Text} (h : front.length = 2048) (hback : back ≠ []) :
    truncate (front ++ back) = front ++ "...<truncated>" := by
  have hpos : 0 < back.length := List.length_pos_iff.2 hback
  have hlong : ¬ (front ++ back).length ≤ previewLimit := by
    rw [List.length_append, previewLimit]
    omega
  rw [truncate, if_neg hlong, previewLimit, ← h, List.take_left]

/-- A text that is too long has a first part of the right length, with something behind it. -/
theorem exists_append_of_length {text : Text} (h : ¬ text.length ≤ 2048) :
    ∃ front back : Text, text = front ++ back ∧ front.length = 2048 ∧ back ≠ [] := by
  refine ⟨text.take 2048, text.drop 2048, (List.take_append_drop 2048 text).symm, ?_, ?_⟩
  · rw [List.length_take]
    omega
  · rw [Ne, List.drop_eq_nil_iff]
    exact h

theorem cut_iff {text shown : Text} : Cut text shown ↔ truncate text = shown := by
  constructor
  · intro h
    cases h with
    | whole hle => exact if_pos hle
    | front front back htext hlength hback => rw [htext, truncate_append hlength hback]
  · rintro rfl
    by_cases hle : text.length ≤ 2048
    · have hwhole : truncate text = text := if_pos hle
      rw [hwhole]
      exact .whole hle
    · obtain ⟨front, back, htext, hlength, hback⟩ := exists_append_of_length hle
      rw [htext, truncate_append hlength hback]
      exact .front front back rfl hlength hback

theorem Cut.length_le {text shown : Text} (h : Cut text shown) : shown.length ≤ 2062 := by
  have hmark : ("...<truncated>" : Text).length = 14 := by decide
  cases h with
  | whole hle => omega
  | front front back htext hlength hback =>
    rw [List.length_append]
    omega

/-! ## What stands in the place of a payload -/

theorem isNothing_json_iff {value : Json} : IsNothing (.json value) ↔ value.isBlank = true := by
  constructor
  · intro h
    cases h <;> rfl
  · intro h
    cases value with
    | null => exact .null
    | bool b =>
      rw [Json.isBlank, Bool.not_eq_true'] at h
      rw [h]
      exact .false
    | int n =>
      rw [Json.isBlank, beq_iff_eq] at h
      rw [h]
      exact .zero
    | float x =>
      cases x with
      | nan => exact absurd h (by simp [Json.isBlank])
      | infinite negative => exact absurd h (by simp [Json.isBlank])
      | finite negative significand exponent =>
        rw [Json.isBlank, beq_iff_eq] at h
        rw [h]
        exact .floatZero negative exponent
    | string s =>
      rw [Json.isBlank, List.isEmpty_iff] at h
      rw [h]
      exact .emptyString
    | array items =>
      rw [Json.isBlank, List.isEmpty_iff] at h
      rw [h]
      exact .emptyArray
    | object members =>
      rw [Json.isBlank, List.isEmpty_iff] at h
      rw [h]
      exact .emptyObject

section Room

variable {room : Nat}

theorem isShowable_bytes (body : Bytes) : IsShowable room (.bytes body) := trivial

/-- An integer of too many digits cannot be shown. -/
theorem not_isShowable_int {n : Int} (h : Nat.pow 10 Decimal.maxDigits ≤ n.natAbs) :
    ¬ IsShowable room (.json (.int n)) := by
  have hpos : ∀ d, 0 < Nat.pow 10 d := fun d => Nat.pow_pos (by decide)
  rintro (hnothing | hwritable)
  · rw [isNothing_json_iff, Json.isBlank, beq_iff_eq] at hnothing
    rw [hnothing] at h
    exact absurd h (Nat.not_le.2 (hpos _))
  · have hshort : Json.isShort n = true := hwritable.integers
    rw [Json.isShort, decide_eq_true_eq] at hshort
    exact absurd h (Nat.not_le.2 hshort)

theorem preview_of_isNothing {payload : Payload} (h : payload.IsNothing) :
    payload.preview room = some ("<empty>" : Text) := by
  cases h <;> rfl

/-- No bytes are the encoding of the empty text, so bytes that are no text are there. -/
theorem preview_of_not_isText {body : Bytes} (h : ¬ Utf8.IsText body) :
    preview room (.bytes body) = some ("<binary>" : Text) := by
  have hne : ¬ body.isEmpty = true := by
    rw [List.isEmpty_iff]
    rintro rfl
    exact h ⟨"", rfl⟩
  rw [preview, previewBytes, if_neg hne, Utf8.decodeString?_eq_none_iff.2 h]

theorem preview_of_hasText {payload : Payload} {text : Text} (h : payload.HasText room text) :
    payload.preview room = some (truncate text) := by
  cases h with
  | bytes hne htext =>
    rw [preview, previewBytes, if_neg (by rwa [List.isEmpty_iff]),
      Utf8.decodeString?_eq_some_iff.2 htext]
  | json hsome hwritable =>
    rw [isNothing_json_iff] at hsome
    rw [preview, if_neg hsome, if_pos ⟨hwritable.depth, hwritable.integers⟩]
  | shown => rfl

theorem preview_of_not_isShowable {payload : Payload} (h : ¬ payload.IsShowable room) :
    payload.preview room = none := by
  cases payload with
  | json value =>
    rw [IsShowable, not_or, isNothing_json_iff] at h
    rw [preview, if_neg h.1, if_neg]
    rintro ⟨hdepth, hintegers⟩
    exact h.2 ⟨hdepth, hintegers⟩
  | mute => rfl
  | unavailable | absent | bytes | shown => exact absurd trivial h

/-- For a payload that can be shown one of the cases applies. -/
theorem exists_shows {payload : Payload} (h : payload.IsShowable room) :
    ∃ shown, payload.Shows room shown := by
  have htext : ∀ {text : Text}, payload.HasText room text → ∃ shown, payload.Shows room shown :=
    fun ht => ⟨_, .text ht (cut_iff.2 rfl)⟩
  cases payload with
  | unavailable => exact ⟨_, .missing⟩
  | absent => exact ⟨_, .empty .absent⟩
  | bytes body =>
    by_cases hempty : body = []
    · rw [hempty]
      exact ⟨_, .empty .noBytes⟩
    · by_cases hbody : Utf8.IsText body
      · obtain ⟨text, hencode⟩ := hbody
        exact htext (.bytes hempty hencode)
      · exact ⟨_, .binary hbody⟩
  | json value =>
    by_cases hnothing : IsNothing (.json value)
    · exact ⟨_, .empty hnothing⟩
    · exact htext (.json hnothing (h.resolve_left hnothing))
  | shown text => exact htext (.shown text)
  | mute => exact h.elim

/-- **What is shown of a payload is what the cases say.** -/
theorem shows_iff {payload : Payload} {shown : Text} :
    payload.Shows room shown ↔ payload.preview room = some shown := by
  have hpreview : ∀ {shown : Text}, payload.Shows room shown →
      payload.preview room = some shown := by
    intro shown h
    cases h with
    | missing => rfl
    | empty hnothing => exact preview_of_isNothing hnothing
    | binary hbinary => exact preview_of_not_isText hbinary
    | text htext hcut => rw [preview_of_hasText htext, cut_iff.1 hcut]
  constructor
  · exact hpreview
  · intro h
    by_cases hshowable : payload.IsShowable room
    · obtain ⟨other, hother⟩ := exists_shows hshowable
      obtain rfl := Option.some.inj ((hpreview hother).symm.trans h)
      exact hother
    · rw [preview_of_not_isShowable hshowable] at h
      exact absurd h (by simp)

/-- The cases apply to what can be shown, and to nothing else. -/
theorem isShowable_iff {payload : Payload} :
    payload.IsShowable room ↔ ∃ shown, payload.Shows room shown := by
  constructor
  · exact exists_shows
  · rintro ⟨shown, h⟩
    by_cases hshowable : payload.IsShowable room
    · exact hshowable
    · rw [shows_iff, preview_of_not_isShowable hshowable] at h
      exact absurd h (by simp)

theorem Shows.length_le {payload : Payload} {shown : Text} (h : payload.Shows room shown) :
    shown.length ≤ 2062 := by
  cases h with
  | missing => decide
  | empty hnothing => decide
  | binary hbinary => decide
  | text htext hcut => exact hcut.length_le

/-- What is shown in a few characters was not cut. -/
theorem Cut.eq_of_length_lt {text shown : Text} (h : Cut text shown)
    (hlt : shown.length < 2048) : text = shown := by
  cases h with
  | whole hle => rfl
  | front front back htext hlength hback =>
    rw [List.length_append] at hlt
    omega

/-- The word for bytes that are no text stands there for them alone, and for itself. -/
theorem shows_binary_iff {body : Bytes} :
    Shows room (.bytes body) "<binary>" ↔
      ¬ Utf8.IsText body ∨ body = Utf8.encodeString "<binary>" := by
  constructor
  · intro h
    by_cases htext : Utf8.IsText body
    · obtain ⟨text, rfl⟩ := htext
      have hne : Utf8.encodeString text ≠ [] := by
        intro hnil
        rw [hnil, shows_iff, preview_of_isNothing .noBytes] at h
        exact absurd h (by decide)
      rw [shows_iff, preview_of_hasText (.bytes hne rfl), Option.some.injEq, ← cut_iff] at h
      rw [Text.ofString_inj.1 (h.eq_of_length_lt (by decide))]
      exact Or.inr rfl
    · exact Or.inl htext
  · rintro (hbinary | rfl)
    · exact .binary hbinary
    · exact .text (.bytes (by decide) rfl) (.whole (by decide))

end Room

end Payload

namespace RequestSummary

theorem given?_of_ne_nil {text : Text} (h : text ≠ []) : given? (some text) = some text := by
  rw [given?, if_neg (by rwa [List.isEmpty_iff])]

theorem records_of_method {summary : RequestSummary} {method : Text}
    (h : summary.method = some method) (hne : method ≠ []) (logger : String)
    (id : Option Text) (shown : Text) :
    summary.records logger id shown =
      [⟨.info, logger, summary.heading method id ++ " body=" ++ shown⟩] := by
  rw [records, h, given?_of_ne_nil hne]

theorem log?_of_method {summary : RequestSummary} {method : Text}
    (h : summary.method = some method) (hne : method ≠ []) (payload : Payload) (room : Nat)
    (logger : String) (id : Option Text) :
    summary.log? payload room logger id =
      (payload.preview room).map (summary.records logger id) := by
  rw [log?, h, given?_of_ne_nil hne]

theorem log?_of_no_method {summary : RequestSummary}
    (h : summary.method = none ∨ summary.method = some []) (payload : Payload) (room : Nat)
    (logger : String) (id : Option Text) : summary.log? payload room logger id = some [] := by
  rcases h with h | h
  · rw [log?, h]
    rfl
  · rw [log?, h]
    rfl

/--
**A request with a method is reported once, with its body or what is left of it, if the body can
be shown; otherwise the report fails.**

A body can be shown unless it is a value that nests deeper than there is room for, or that holds
an integer of too many digits, or something that fails when it is asked for a text. Bytes can
always be shown. There is then one record, and none for a request without a method. In the place
of the body stands what the cases of `Shows` say and nothing else, in at most 2062 code points.
Bytes are called binary if they are not UTF-8, and only then, apart from bytes that spell the word
itself. All of them count for this, whatever text they begin with and however long it is.
-/
theorem log_shows (summary : RequestSummary) (payload : Payload) (room : Nat) (logger : String)
    (id : Option Text) :
    (∀ method, summary.method = some method → method ≠ [] →
      (payload.IsShowable room → ∃ shown, payload.Shows room shown ∧
        summary.log? payload room logger id =
          some [⟨.info, logger, summary.heading method id ++ " body=" ++ shown⟩]) ∧
      (¬ payload.IsShowable room → summary.log? payload room logger id = none)) ∧
    (summary.method = none ∨ summary.method = some [] →
      summary.log? payload room logger id = some []) ∧
    (∀ shown, payload.Shows room shown → shown.length ≤ 2062 ∧
      ∀ other, payload.Shows room other → other = shown) ∧
    (∀ body, payload = .bytes body → payload.IsShowable room ∧
      (payload.Shows room "<binary>" ↔
        ¬ Utf8.IsText body ∨ body = Utf8.encodeString "<binary>")) ∧
    (∀ front rest, payload = .bytes (Utf8.encodeString front ++ rest) →
      ¬ Utf8.IsText rest → payload.Shows room "<binary>") := by
  refine ⟨?_, ?_, ?_, ?_, ?_⟩
  · intro method hmethod hne
    rw [log?_of_method hmethod hne]
    refine ⟨?_, ?_⟩
    · intro hshowable
      obtain ⟨shown, hshown⟩ := Payload.exists_shows hshowable
      refine ⟨shown, hshown, ?_⟩
      rw [Payload.shows_iff.1 hshown, Option.map_some, records_of_method hmethod hne]
    · intro hnot
      rw [Payload.preview_of_not_isShowable hnot, Option.map_none]
  · intro h
    exact log?_of_no_method h payload room logger id
  · intro shown h
    refine ⟨h.length_le, ?_⟩
    intro other hother
    exact Option.some.inj ((Payload.shows_iff.1 hother).symm.trans (Payload.shows_iff.1 h))
  · rintro body rfl
    exact ⟨Payload.isShowable_bytes body, Payload.shows_binary_iff⟩
  · rintro front rest rfl hrest
    refine .binary ?_
    rwa [Utf8.isText_encodeString_append_iff]

/-- A value of one integer with a digit too many, and nothing is reported. -/
theorem long_integer_not_logged :
    let summary : RequestSummary := ⟨some "POST", "/", [], []⟩
    summary.log? (.json (.int (Nat.pow 10 Decimal.maxDigits))) 1000 "request_log" none =
      none := by
  intro summary
  have hlong : ∀ n : Nat, n ≤ (n : Int).natAbs := fun n => Nat.le_of_eq (Int.natAbs_natCast n).symm
  have hmethod : ("POST" : Text) ≠ [] := by decide
  rw [log?_of_method rfl hmethod,
    Payload.preview_of_not_isShowable (Payload.not_isShowable_int (hlong _)), Option.map_none]

end RequestSummary

/-- A request to the service is reported before anything that comes of it. -/
theorem App.serve_log (app : App) (id : String) {request : Request} (h : request.verb ≠ "")
    (room : Nat) :
    ∃ shown, (Payload.bytes request.body).Shows room shown ∧
      (app.serve id request).log =
        ⟨.info, "catalog_cache.webapp",
          (summary request (Route.of request.absolutePath request.verb)).heading request.verb
            (some (id : Text)) ++ " body=" ++ shown⟩ ::
          (app.answer id request (Route.of request.absolutePath request.verb)).log := by
  have hmethod : (request.verb : Text) ≠ [] := by rwa [Ne, Text.ofString_eq_nil_iff]
  refine ⟨Payload.previewBytes request.body, Payload.shows_iff.2 rfl, ?_⟩
  rw [serve]
  dsimp only
  rw [RequestSummary.records_of_method rfl hmethod]
  rfl

end CatalogCache.Http
