import CatalogCache.Encoding.Utf16

/-!
# UTF-32

A text as the numbers of its characters, four bytes each. A surrogate is read for what it is,
as in the other encodings, and a number past the last character is refused.

Main statement: `decodeBytes?_encode`, what was encoded is read back.
-/

namespace CatalogCache.Utf32

/-- The four bytes of a number. -/
def unitBytes (order : ByteOrder) (n : Nat) : Bytes :=
  match order with
  | .big => [UInt8.ofNat (n / 16777216), UInt8.ofNat (n / 65536 % 256),
      UInt8.ofNat (n / 256 % 256), UInt8.ofNat (n % 256)]
  | .little => [UInt8.ofNat (n % 256), UInt8.ofNat (n / 256 % 256),
      UInt8.ofNat (n / 65536 % 256), UInt8.ofNat (n / 16777216)]

/-- The bytes of a text. -/
def encode (order : ByteOrder) (cs : List Char) : Bytes :=
  cs.flatMap fun c => unitBytes order c.toNat

/-- The code point of a number, if there is one. -/
def codePoint? (n : Nat) : Option CodePoint := if n < 0x110000 then some (.ofNat n) else none

/-- The number of four bytes. -/
def number (order : ByteOrder) (a b c d : UInt8) : Nat :=
  match order with
  | .big => a.toNat * 16777216 + b.toNat * 65536 + c.toNat * 256 + d.toNat
  | .little => d.toNat * 16777216 + c.toNat * 65536 + b.toNat * 256 + a.toNat

/-- The text of a byte string in one of the byte orders. -/
def decodeBytes? (order : ByteOrder) : Bytes → Option Text
  | [] => some []
  | a :: b :: c :: d :: rest =>
    match codePoint? (number order a b c d) with
    | some p => (decodeBytes? order rest).map (p :: ·)
    | none => none
  | _ => none

theorem codePoint?_toNat (c : Char) : codePoint? c.toNat = some (.char c) := by
  have hv : c.toNat < 0xD800 ∨ (0xDFFF < c.toNat ∧ c.toNat < 0x110000) := c.valid
  rw [codePoint?, if_pos (by omega), CodePoint.ofNat_toNat_char]

theorem decodeBytes?_unitBytes_append (order : ByteOrder) (c : Char) (rest : Bytes) :
    decodeBytes? order (unitBytes order c.toNat ++ rest)
      = (decodeBytes? order rest).map (.char c :: ·) := by
  have hv : c.toNat < 0xD800 ∨ (0xDFFF < c.toNat ∧ c.toNat < 0x110000) := c.valid
  have e1 : (UInt8.ofNat (c.toNat / 16777216)).toNat = c.toNat / 16777216 := by simp; omega
  have e2 : (UInt8.ofNat (c.toNat / 65536 % 256)).toNat = c.toNat / 65536 % 256 := by simp
  have e3 : (UInt8.ofNat (c.toNat / 256 % 256)).toNat = c.toNat / 256 % 256 := by simp
  have e4 : (UInt8.ofNat (c.toNat % 256)).toNat = c.toNat % 256 := by simp
  have en : c.toNat / 16777216 * 16777216 + c.toNat / 65536 % 256 * 65536
      + c.toNat / 256 % 256 * 256 + c.toNat % 256 = c.toNat := by omega
  cases order <;>
    simp only [unitBytes, List.cons_append, List.nil_append, decodeBytes?, number, e1, e2, e3, e4,
      en, codePoint?_toNat]

@[simp] theorem decodeBytes?_encode (order : ByteOrder) (cs : List Char) :
    decodeBytes? order (encode order cs) = some (.ofChars cs) := by
  induction cs with
  | nil => rfl
  | cons c cs ih =>
    rw [encode] at ih ⊢
    rw [List.flatMap_cons, decodeBytes?_unitBytes_append, ih, Option.map_some,
      Text.ofChars_cons]

end CatalogCache.Utf32
