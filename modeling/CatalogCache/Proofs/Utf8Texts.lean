import CatalogCache.Encoding.Utf8

/-!
# Which byte strings are UTF-8

A byte string is UTF-8 exactly if it is the encoding of a text (`IsText`), and reading it gives
that text. One half is that what was encoded is read back. The other half is here: nothing is lost
in the pieces, for the bytes of all of them are the byte string again (`flatMap_bytes_pieces`).
So where every piece is a character, their encodings are the byte string.

For a piece of two to four bytes this is arithmetic. The bounds for its first two bytes keep its
number clear of the shorter encodings, of the surrogates, and of what is past the last character.
-/

namespace CatalogCache.Utf8

/-- The bytes are the encoding of a text. -/
def IsText (bytes : Bytes) : Prop := ∃ text : String, encodeString text = bytes

/-- The bytes at the place of a piece. -/
def Piece.bytes : Piece → Bytes
  | .char c => String.utf8EncodeChar c
  | .malformed bytes => bytes

/-! ## One character -/

theorem width_eq_one {a : UInt8} (h : width a = 1) : a.toNat < 0x80 := by
  grind [width]

theorem width_eq_two {a : UInt8} (h : width a = 2) : 0xC2 ≤ a.toNat ∧ a.toNat < 0xE0 := by
  grind [width]

theorem width_eq_three {a : UInt8} (h : width a = 3) : 0xE0 ≤ a.toNat ∧ a.toNat < 0xF0 := by
  grind [width]

theorem width_eq_four {a : UInt8} (h : width a = 4) : 0xF0 ≤ a.toNat ∧ a.toNat < 0xF5 := by
  grind [width]

theorem continues_iff {b : UInt8} : continues b = true ↔ 0x80 ≤ b.toNat ∧ b.toNat < 0xC0 := by
  rw [continues, beq_iff_eq]
  omega

/-- What is asked of the second byte, first byte by first byte. -/
theorem bounds_of_seconds {a b : UInt8} (h : seconds a b = true) :
    (0x80 ≤ b.toNat ∧ b.toNat < 0xC0) ∧ (a.toNat = 0xE0 → 0xA0 ≤ b.toNat) ∧
      (a.toNat = 0xED → b.toNat < 0xA0) ∧ (a.toNat = 0xF0 → 0x90 ≤ b.toNat) ∧
      (a.toNat = 0xF4 → b.toNat < 0x90) := by
  rw [seconds, Bool.and_eq_true, continues_iff] at h
  obtain ⟨hb, hbound⟩ := h
  grind

private theorem val_ofNat {n : Nat} (h : n.isValidChar) : (Char.ofNat n).val.toNat = n := by
  rw [Char.ofNat, dif_pos h]
  rfl

private theorem ofNat_eq_byte {n : Nat} {b : UInt8} (h : n = b.toNat) : UInt8.ofNat n = b := by
  rw [h, UInt8.ofNat_toNat]

theorem encodeChar_char1 {a : UInt8} (ha : width a = 1) :
    String.utf8EncodeChar (char1 a) = [a] := by
  have ha' := width_eq_one ha
  have hn : (char1 a).val.toNat = a.toNat := val_ofNat (Or.inl (by omega))
  simp only [String.utf8EncodeChar, hn]
  rw [if_pos (by omega), ofNat_eq_byte rfl]

theorem encodeChar_char2 {a b : UInt8} (ha : width a = 2) (hb : continues b = true) :
    String.utf8EncodeChar (char2 a b) = [a, b] := by
  have ha' := width_eq_two ha
  have hb' := continues_iff.1 hb
  have hn : (char2 a b).val.toNat = a.toNat % 32 * 64 + b.toNat % 64 :=
    val_ofNat (Or.inl (by omega))
  simp only [String.utf8EncodeChar, hn]
  rw [if_neg (by omega), if_pos (by omega), ofNat_eq_byte (b := a) (by omega),
    ofNat_eq_byte (b := b) (by omega)]

theorem encodeChar_char3 {a b c : UInt8} (ha : width a = 3) (hb : seconds a b = true)
    (hc : continues c = true) : String.utf8EncodeChar (char3 a b c) = [a, b, c] := by
  have ha' := width_eq_three ha
  obtain ⟨hb', hlow, hsurrogate, -, -⟩ := bounds_of_seconds hb
  have hc' := continues_iff.1 hc
  have hn : (char3 a b c).val.toNat =
      a.toNat % 16 * 4096 + b.toNat % 64 * 64 + c.toNat % 64 := by
    refine val_ofNat ?_
    unfold Nat.isValidChar
    omega
  simp only [String.utf8EncodeChar, hn]
  rw [if_neg (by omega), if_neg (by omega), if_pos (by omega),
    ofNat_eq_byte (b := a) (by omega), ofNat_eq_byte (b := b) (by omega),
    ofNat_eq_byte (b := c) (by omega)]

theorem encodeChar_char4 {a b c d : UInt8} (ha : width a = 4) (hb : seconds a b = true)
    (hc : continues c = true) (hd : continues d = true) :
    String.utf8EncodeChar (char4 a b c d) = [a, b, c, d] := by
  have ha' := width_eq_four ha
  obtain ⟨hb', -, -, hlow, hlast⟩ := bounds_of_seconds hb
  have hc' := continues_iff.1 hc
  have hd' := continues_iff.1 hd
  have hn : (char4 a b c d).val.toNat =
      a.toNat % 8 * 262144 + b.toNat % 64 * 4096 + c.toNat % 64 * 64 + d.toNat % 64 := by
    refine val_ofNat ?_
    unfold Nat.isValidChar
    omega
  simp only [String.utf8EncodeChar, hn]
  rw [if_neg (by omega), if_neg (by omega), if_neg (by omega),
    ofNat_eq_byte (b := a) (by omega), ofNat_eq_byte (b := b) (by omega),
    ofNat_eq_byte (b := c) (by omega), ofNat_eq_byte (b := d) (by omega)]

/-! ## All pieces -/

/-- **Nothing is lost in the pieces.** -/
theorem flatMap_bytes_pieces (bytes : Bytes) : (pieces bytes).flatMap Piece.bytes = bytes := by
  fun_induction pieces bytes with
  | case2 a rest ha ih => rw [List.flatMap_cons, ih, Piece.bytes, encodeChar_char1 ha]; rfl
  | case4 a ha b rest hb ih => rw [List.flatMap_cons, ih, Piece.bytes, encodeChar_char2 ha hb]; rfl
  | case8 a ha b hb c rest hc ih =>
    rw [List.flatMap_cons, ih, Piece.bytes, encodeChar_char3 ha hb hc]
    rfl
  | case14 a ha b hb c hc d rest hd ih =>
    rw [List.flatMap_cons, ih, Piece.bytes, encodeChar_char4 ha hb hc hd]
    rfl
  -- what belongs to no character is kept as it is
  | _ => simp_all [Piece.bytes]

/-- The pieces are the characters of a text exactly if the bytes are its encoding. -/
theorem pieces_eq_map_char_iff {bytes : Bytes} {cs : List Char} :
    pieces bytes = cs.map .char ↔ encode cs = bytes := by
  constructor
  · intro h
    have hpieces := flatMap_bytes_pieces bytes
    rwa [h, List.flatMap_map] at hpieces
  · rintro rfl
    exact pieces_encode cs

/-- **What is read is the text that has the encoding.** -/
theorem decodeString?_eq_some_iff {bytes : Bytes} {text : String} :
    decodeString? bytes = some text ↔ encodeString text = bytes := by
  rw [decodeString?, Option.map_eq_some_iff, encodeString, ← pieces_eq_map_char_iff]
  constructor
  · rintro ⟨cs, hcs, rfl⟩
    rw [String.toList_ofList]
    exact chars?_eq_some_iff.1 hcs
  · intro h
    exact ⟨text.toList, chars?_eq_some_iff.2 h, String.ofList_toList⟩

/-- **Nothing is read only where there is no such text.** -/
theorem decodeString?_eq_none_iff {bytes : Bytes} :
    decodeString? bytes = none ↔ ¬ IsText bytes := by
  rw [Option.eq_none_iff_forall_ne_some, IsText, not_exists]
  exact forall_congr' fun text => not_congr decodeString?_eq_some_iff

theorem encodeString_append (text more : String) :
    encodeString (text ++ more) = encodeString text ++ encodeString more := by
  rw [encodeString, encodeString, encodeString, String.toList_append, encode, encode, encode,
    List.flatMap_append]

/-- Whether bytes behind a text spoil it does not depend on the text, nor on its length. -/
theorem isText_encodeString_append_iff {text : String} {rest : Bytes} :
    IsText (encodeString text ++ rest) ↔ IsText rest := by
  constructor
  · rintro ⟨whole, hwhole⟩
    have hpieces : whole.toList.map .char = text.toList.map .char ++ pieces rest := by
      rw [← pieces_encode_append, ← pieces_encode]
      exact congrArg pieces hwhole
    obtain ⟨front, back, -, -, hback⟩ := List.map_eq_append_iff.1 hpieces
    refine ⟨String.ofList back, ?_⟩
    rw [encodeString, String.toList_ofList]
    exact pieces_eq_map_char_iff.1 hback.symm
  · rintro ⟨more, rfl⟩
    exact ⟨text ++ more, encodeString_append text more⟩

end CatalogCache.Utf8
