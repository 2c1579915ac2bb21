import CatalogCache.Proofs.JsonTexts
import CatalogCache.Proofs.Requests
import CatalogCache.Proofs.UpsertReplies

/-!
# A body in any encoding

A text can be sent in ten forms: in UTF-8, or in UTF-16 or UTF-32 with either byte first, and
each of them with or without a byte order mark. Nothing but the bytes says which form it was.

For a text that begins with an ASCII character and holds no NUL they do (`TellsEncoding`). Its
first character puts zero bytes at places that differ between the encodings, and the character
after it is not NUL and so cannot blur them. No mark can be taken for another either: the mark of
UTF-16 begins that of UTF-32 only where two zero bytes follow. Every JSON text is of this kind, so
it is read as the same text in each form (`ofBytes?_bytes`), and a request does the same and is
answered the same, whatever the form of its body (`serve_encoded_body`).
-/

namespace CatalogCache

/-- The first unit of a character other than NUL is not zero. -/
theorem Utf16.exists_units {c : Char} (h : c ≠ '\x00') : ∃ u us, units c = u :: us ∧ 0 < u := by
  unfold units
  dsimp only
  split
  · exact ⟨_, _, rfl, Json.toNat_pos_of_ne_nul h⟩
  · exact ⟨_, _, rfl, by omega⟩

namespace Json

namespace Encoding

/-- The bytes of a text. -/
def encode : Encoding → List Char → Bytes
  | .utf8, cs => Utf8.encode cs
  | .utf16 order, cs => Utf16.toBytes order (Utf16.encode cs)
  | .utf32 order, cs => Utf32.encode order cs

theorem decode?_encode (e : Encoding) (cs : List Char) :
    e.decode? (e.encode cs) = some (.ofChars cs) := by
  cases e with
  | utf8 => exact Utf8.decodeLoose?_encode cs
  | utf16 order => exact Utf16.decodeBytes?_encode order cs
  | utf32 order => exact Utf32.decodeBytes?_encode order cs

/-- The byte order mark: the character U+FEFF. -/
def mark (e : Encoding) : Bytes := e.encode [Char.ofNat 0xFEFF]

/-- A mark is recognized. That of UTF-16 with the least byte first must not be followed by two
zero bytes. -/
theorem detect_mark_append {e : Encoding} {bytes : Bytes}
    (h : e = .utf16 .little → ¬ [0, 0] <+: bytes) :
    detect (e.mark ++ bytes) = (e, bytes) := by
  have hmark : ofMark? (e.mark ++ bytes) = some (e, bytes) := by
    cases e with
    | utf8 => rfl
    | utf16 order =>
      cases order with
      | big => rfl
      | little =>
        have hlonger : [0xFF, 0xFE, 0, 0].isPrefixOf ((utf16 .little).mark ++ bytes) = false :=
          Bool.eq_false_iff.2 fun hzeros => h rfl (List.isPrefixOf_iff_prefix.1 hzeros)
        rw [ofMark?, marks, List.findSome?_cons, List.findSome?_cons, hlonger]
        rfl
    | utf32 order =>
      cases order with
      | big => rfl
      | little => rfl
  rw [detect, hmark, Option.getD_some]

/-! ## The first character -/

/-- The bytes of an ASCII character. -/
def asciiBytes : Encoding → UInt8 → Bytes
  | .utf8, a => [a]
  | .utf16 .big, a => [0, a]
  | .utf16 .little, a => [a, 0]
  | .utf32 .big, a => [0, 0, 0, a]
  | .utf32 .little, a => [a, 0, 0, 0]

theorem encode_cons_of_ascii (e : Encoding) {c : Char} (h : c.toNat < 128) (cs : List Char) :
    e.encode (c :: cs) = e.asciiBytes (UInt8.ofNat c.toNat) ++ e.encode cs := by
  have hone : Utf16.units c = [c.toNat] := by
    rw [Utf16.units]
    exact if_pos (by omega)
  have hlow : c.toNat % 256 = c.toNat := Nat.mod_eq_of_lt (by omega)
  have hhigh : c.toNat / 256 = 0 := Nat.div_eq_of_lt (by omega)
  have hhigher : c.toNat / 65536 = 0 := Nat.div_eq_of_lt (by omega)
  have hhighest : c.toNat / 16777216 = 0 := Nat.div_eq_of_lt (by omega)
  cases e with
  | utf8 => exact Json.encode_cons_of_ascii h cs
  | utf16 order =>
    rw [encode, Utf16.encode, List.flatMap_cons, hone, List.singleton_append, Utf16.toBytes,
      List.flatMap_cons]
    cases order with
    | big => rw [Utf16.unitBytes, hlow, hhigh]; rfl
    | little => rw [Utf16.unitBytes, hlow, hhigh]; rfl
  | utf32 order =>
    rw [encode, Utf32.encode, List.flatMap_cons]
    cases order with
    | big => rw [Utf32.unitBytes, hlow, hhigh, hhigher, hhighest]; rfl
    | little => rw [Utf32.unitBytes, hlow, hhigh, hhigher, hhighest]; rfl

/-- A text without NUL, in UTF-16, begins with two bytes of which one is not zero. -/
theorem encode_utf16_cases (order : ByteOrder) {cs : List Char} (h : '\x00' ∉ cs) :
    (utf16 order).encode cs = [] ∨
      ∃ a b rest, (utf16 order).encode cs = a :: b :: rest ∧ ¬ (a = 0 ∧ b = 0) := by
  cases cs with
  | nil => exact Or.inl rfl
  | cons c cs =>
    have hne : c ≠ '\x00' := fun he => h (he ▸ List.mem_cons_self)
    obtain ⟨u, us, hunits, hpos⟩ := Utf16.exists_units hne
    have hlt : u < 0x10000 := Utf16.units_lt c u (by rw [hunits]; exact List.mem_cons_self)
    have hzero : ¬ (UInt8.ofNat (u / 256) = 0 ∧ UInt8.ofNat (u % 256) = 0) := by
      rintro ⟨hhigh, hlow⟩
      have hhigh' : ¬ 0 < u / 256 := fun hp => zero_ne_ofNat hp (by omega) hhigh.symm
      have hlow' : ¬ 0 < u % 256 := fun hp => zero_ne_ofNat hp (by omega) hlow.symm
      omega
    refine Or.inr ?_
    rw [encode, Utf16.encode, List.flatMap_cons, hunits]
    cases order with
    | big => exact ⟨_, _, _, rfl, hzero⟩
    | little => exact ⟨_, _, _, rfl, fun hz => hzero hz.symm⟩

/-- The zero bytes tell the encoding of a text that begins with an ASCII character and holds no
NUL: the byte of the character is then the only one of its unit that is not zero. -/
theorem detect_encode (e : Encoding) {c : Char} {cs : List Char} (hc : c.toNat < 128)
    (h : '\x00' ∉ c :: cs) : detect (e.encode (c :: cs)) = (e, e.encode (c :: cs)) := by
  have hne : c ≠ '\x00' := fun he => h (he ▸ List.mem_cons_self)
  have hnext : '\x00' ∉ cs := fun hm => h (List.mem_cons_of_mem c hm)
  have ha : (UInt8.ofNat c.toNat).toNat < 128 := by
    rw [toNat_ofNat_of_ascii hc]
    exact hc
  have ha0 : UInt8.ofNat c.toNat ≠ 0 := (zero_ne_ofNat (toNat_pos_of_ne_nul hne) (by omega)).symm
  cases e with
  | utf8 =>
    have hzero : 0 ∉ encode .utf8 (c :: cs) := zero_not_mem_encode h
    rw [encode_cons_of_ascii _ hc] at hzero ⊢
    exact detect_of_zero_not_mem ha hzero
  | utf16 order =>
    rw [encode_cons_of_ascii _ hc]
    -- what follows is nothing, or it has a byte that is not zero where UTF-32 has zero bytes
    rcases encode_utf16_cases order hnext with hrest | ⟨b, d, rest, hrest, hbd⟩
    · rw [hrest]
      cases order with
      | big => simp [detect, ofMark?, marks, ofZeros, asciiBytes, ha0.symm]
      | little => simp [detect, asciiBytes, ofMark?_of_ascii ha ha0, ofZeros, ha0]
    · rw [hrest]
      cases order with
      | big => simp [detect, ofMark?, marks, ofZeros, asciiBytes, ha0, ha0.symm]
      | little => simp [detect, asciiBytes, ofMark?_of_ascii ha ha0, ofZeros, ha0, hbd]
  | utf32 order =>
    rw [encode_cons_of_ascii _ hc]
    cases order with
    | big => simp [detect, ofMark?, marks, ofZeros, asciiBytes]
    | little => simp [detect, asciiBytes, ofMark?_of_ascii ha ha0, ofZeros, ha0]

end Encoding

/-- The forms in which a text can be sent. -/
structure Form where
  encoding : Encoding
  /-- Whether a byte order mark stands in front. -/
  marked : Bool

/-- The bytes of a text in a form. -/
def Form.bytes (f : Form) (text : List Char) : Bytes :=
  (if f.marked then f.encoding.mark else []) ++ f.encoding.encode text

/-- A text that tells its encoding, whichever it is. -/
structure TellsEncoding (text : List Char) : Prop where
  ascii : ∃ c rest, text = c :: rest ∧ c.toNat < 128
  nul : '\x00' ∉ text

theorem IsSpellingOf.tellsEncoding {v : Json} {text : List Char}
    (h : IsSpellingOf v (.ofChars text)) : TellsEncoding text :=
  ⟨h.exists_ascii_char, h.nul_not_mem_chars⟩

variable {text : List Char}

theorem detect_bytes (h : TellsEncoding text) (f : Form) :
    Encoding.detect (f.bytes text) = (f.encoding, f.encoding.encode text) := by
  obtain ⟨encoding, marked⟩ := f
  cases marked with
  | true =>
    refine Encoding.detect_mark_append ?_
    rintro rfl
    rcases Encoding.encode_utf16_cases .little h.nul with hnil | ⟨a, b, rest, hcons, hzero⟩
    · simp [hnil]
    · rw [hcons]
      intro hzeros
      simp only [List.cons_prefix_cons] at hzeros
      exact hzero ⟨hzeros.1.symm, hzeros.2.1.symm⟩
  | false =>
    obtain ⟨c, rest, rfl, hc⟩ := h.ascii
    exact Encoding.detect_encode encoding hc h.nul

theorem ofBytes?_bytes (h : TellsEncoding text) (f : Form) :
    ofBytes? (f.bytes text) = parseText? (.ofChars text) := by
  rw [ofBytes?, detect_bytes h f]
  dsimp only
  rw [Encoding.decode?_encode, Option.bind_some]

theorem holds_bytes_iff (h : TellsEncoding text) (f : Form) {v : Json} :
    Holds (f.bytes text) v ↔ IsSpellingOf v (.ofChars text) := by
  rw [← ofBytes?_eq_some_iff, ofBytes?_bytes h f, parseText?_eq_some_iff]

end Json

namespace Http

namespace App

/-! ## What a request does with its body -/

/-- A body counts only for the upsert that is read from it. -/
theorem answer_congr_body (app : App) (id : String) (r : Request) (route : Route) {b b' : Bytes}
    (h : upsertOf b = upsertOf b') :
    app.answer id { r with body := b } route = app.answer id { r with body := b' } route := by
  have hhandle : ∀ e, app.handle { r with body := b } e = app.handle { r with body := b' } e := by
    intro e
    cases e with
    | upsert =>
      show app.upsert { r with body := b } = app.upsert { r with body := b' }
      rw [upsert, upsert]
      simp only [h]
      rfl
    | list | remove | modelCard | item version format | file name => rfl
  cases route with
  | found e =>
    rw [answer, answer, hhandle]
    rfl
  | unknown | refused allowed | moved path => rfl

theorem upsertOf_bytes {text : List Char} (h : Json.TellsEncoding text) (f g : Json.Form) :
    upsertOf (f.bytes text) = upsertOf (g.bytes text) := by
  rw [upsertOf, upsertOf, Json.ofBytes?_bytes h f, Json.ofBytes?_bytes h g]

/--
**The form in which a JSON text is sent makes no difference.**

A JSON text begins with an ASCII character and holds no NUL. For every text of this kind, in any
two of the ten forms and with any method, path and query, the request leaves the same state and is
answered the same. In each form the body holds the value that the text stands for, if it stands
for one, and otherwise none.
-/
theorem serve_encoded_body (app : App) (id : String) (r : Request) (text : List Char) :
    ((∃ v, Json.IsSpellingOf v (.ofChars text)) → Json.TellsEncoding text) ∧
    (Json.TellsEncoding text → ∀ f g : Json.Form,
      let x := app.serve id { r with body := f.bytes text }
      let y := app.serve id { r with body := g.bytes text }
      x.state = y.state ∧ x.response = y.response ∧
        ∀ v, Json.Holds (f.bytes text) v ↔ Json.IsSpellingOf v (.ofChars text)) := by
  refine ⟨?_, ?_⟩
  · rintro ⟨v, hv⟩
    exact hv.tellsEncoding
  · intro h f g x y
    have hroute : ({ r with body := f.bytes text } : Request).route =
        ({ r with body := g.bytes text } : Request).route := rfl
    have hanswer := answer_congr_body app id r r.route (upsertOf_bytes h f g)
    refine ⟨?_, ?_, fun v => Json.holds_bytes_iff h f⟩
    · show (app.serve id _).state = (app.serve id _).state
      rw [serve_state, serve_state, hroute]
      exact congrArg Exchange.state hanswer
    · show (app.serve id _).response = (app.serve id _).response
      rw [serve_response, serve_response, hroute]
      exact congrArg Exchange.response hanswer

/-- An upsert with a character of two units in its card, sent in two forms. -/
theorem serve_encoded_body_mnist :
    let text := ['\x7b', '"', 'b', 'o', 'd', 'y', '"', ':', '"', '"', ',', '"', 'm', 'o', 'd', 'e',
      'l', 'C', 'a', 'r', 'd', '"', ':', '"', '😀', '"', '\x7d']
    let r := (postOf "mnist_v1").request
    let f : Json.Form := ⟨.utf16 .little, true⟩
    let g : Json.Form := ⟨.utf32 .big, false⟩
    let x := (fresh "json").serve "1" { r with body := f.bytes text }
    let y := (fresh "json").serve "1" { r with body := g.bytes text }
    (∃ v, Json.IsSpellingOf v (.ofChars text)) ∧ Json.TellsEncoding text ∧
      x.state = y.state ∧ x.response = y.response ∧
        ∀ v, Json.Holds (f.bytes text) v ↔ Json.IsSpellingOf v (.ofChars text) := by
  intro text r f g x y
  have hvalue : Json.parseText? (.ofChars text) =
      some (.object [("body", .string ""), ("modelCard", .string "😀")]) := rfl
  have hspelling : ∃ v, Json.IsSpellingOf v (.ofChars text) :=
    ⟨_, Json.parseText?_eq_some_iff.1 hvalue⟩
  obtain ⟨htells, hforms⟩ := serve_encoded_body (fresh "json") "1" r text
  exact ⟨hspelling, htells hspelling, hforms (htells hspelling) f g⟩

end App

end Http

end CatalogCache
