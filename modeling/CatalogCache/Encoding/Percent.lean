import CatalogCache.Encoding.Utf8
import CatalogCache.Text.Hex

/-!
# Percent-encoding

A percent sign and two hexadecimal digits stand for a byte, every other character for its
own UTF-8 bytes; the bytes together are read as UTF-8. Nothing is refused: a percent sign
without two digits after it stands for itself, and bytes that belong to no character stay
percent-encoded, in upper case.

Main statement: `decode_encode`, what was encoded is read back.
-/

namespace CatalogCache.Percent

/-- A byte as a percent sign and two digits. -/
def escape (b : UInt8) : List Char := ['%', Hex.upper (b.toNat / 16), Hex.upper (b.toNat % 16)]

/-- The byte that two digits stand for. -/
def byte? (a b : Char) : Option UInt8 :=
  match Hex.value? a, Hex.value? b with
  | some x, some y => some (UInt8.ofNat (x * 16 + y))
  | _, _ => none

/-- The bytes that a text stands for. -/
def bytes : List Char → Bytes
  | [] => []
  | c :: rest =>
    if c = '%' then
      match rest with
      | [] => [37]
      | [a] => 37 :: bytes [a]
      | a :: b :: rest₂ =>
        match byte? a b with
        | some x => x :: bytes rest₂
        | none => 37 :: bytes (a :: b :: rest₂)
    else String.utf8EncodeChar c ++ bytes rest

/-- A piece as text, percent-encoded where it is no character. -/
def shown : Utf8.Piece → List Char
  | .char c => [c]
  | .malformed bs => bs.flatMap escape

/-- The text that a percent-encoded text stands for. -/
def decode (cs : List Char) : List Char := (Utf8.pieces (bytes cs)).flatMap shown

/-- Letters, digits and the four marks that never need encoding. -/
def isUnreserved (c : Char) : Bool :=
  c.isAlphanum || c == '_' || c == '.' || c == '-' || c == '~'

/-- A byte as it stands when it is an ASCII character to be kept, else percent-encoded. -/
def encodeByte (keep : Char → Bool) (b : UInt8) : List Char :=
  if b.toNat < 128 && keep (Char.ofNat b.toNat) then [Char.ofNat b.toNat] else escape b

/-- A text with all characters percent-encoded but the ASCII ones to be kept. -/
def encode (keep : Char → Bool) (cs : List Char) : List Char :=
  (Utf8.encode cs).flatMap (encodeByte keep)

/-! ## What was encoded is read back -/

theorem byte?_digits (b : UInt8) :
    byte? (Hex.upper (b.toNat / 16)) (Hex.upper (b.toNat % 16)) = some b := by
  have := b.toNat_lt
  rw [byte?, Hex.value?_upper (by omega), Hex.value?_upper (by omega)]
  have e : b.toNat / 16 * 16 + b.toNat % 16 = b.toNat := by omega
  simp only [e, UInt8.ofNat_toNat]

theorem utf8EncodeChar_ascii {b : UInt8} (h : b.toNat < 128) :
    String.utf8EncodeChar (Char.ofNat b.toNat) = [b] := by
  have hv : (Char.ofNat b.toNat).toNat = b.toNat := by
    have table : ∀ n < 128, (Char.ofNat n).toNat = n := by decide
    exact table _ h
  have hv' : (Char.ofNat b.toNat).val.toNat = b.toNat := hv
  rw [String.utf8EncodeChar]
  simp only [hv']
  rw [if_pos (by omega), UInt8.ofNat_toNat]

theorem bytes_encodeByte_append {keep : Char → Bool} (hk : keep '%' = false) (b : UInt8)
    (rest : List Char) : bytes (encodeByte keep b ++ rest) = b :: bytes rest := by
  unfold encodeByte
  split
  · rename_i h
    rw [Bool.and_eq_true, decide_eq_true_eq] at h
    have hne : Char.ofNat b.toNat ≠ '%' := by
      intro e
      rw [e, hk] at h
      exact Bool.noConfusion h.2
    rw [List.cons_append, List.nil_append, bytes.eq_def]
    simp only [hne, if_false]
    rw [utf8EncodeChar_ascii h.1, List.cons_append, List.nil_append]
  · rw [escape, List.cons_append, List.cons_append, List.cons_append, List.nil_append,
      bytes.eq_def]
    simp only [if_true, byte?_digits]

theorem bytes_encode {keep : Char → Bool} (hk : keep '%' = false) (cs : List Char) :
    bytes (encode keep cs) = Utf8.encode cs := by
  rw [encode]
  induction Utf8.encode cs with
  | nil => rfl
  | cons b bs ih => rw [List.flatMap_cons, bytes_encodeByte_append hk, ih]

/-- What was encoded is read back, whatever characters were kept besides the percent sign. -/
theorem decode_encode {keep : Char → Bool} (hk : keep '%' = false) (cs : List Char) :
    decode (encode keep cs) = cs := by
  rw [decode, bytes_encode hk, Utf8.pieces_encode, List.flatMap_map]
  induction cs with
  | nil => rfl
  | cons c cs ih => rw [List.flatMap_cons, ih]; rfl

end CatalogCache.Percent
