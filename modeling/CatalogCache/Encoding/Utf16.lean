import CatalogCache.Bytes
import CatalogCache.Text

/-!
# UTF-16

A text as a row of units, the numbers below 65536, in which a character beyond U+FFFF is a pair
of surrogates. Reading is total: a surrogate without its partner is a code point of its own,
and so is every other unit. The same rule serves byte strings in either byte order and the
four-digit escapes of JSON. Between escapes a JSON text holds code points that are whole
already, and a surrogate among those is nobody's partner; so what is read is a row of parts
(`Part`), and only units that stand side by side make a pair.

Main statement: `decode_encode`, what was encoded is read back.
-/

namespace CatalogCache

/-- Which byte of a wide unit comes first. -/
inductive ByteOrder where
  | big
  | little
  deriving DecidableEq

namespace Utf16

/-- The first half of a pair. -/
def isHigh (n : Nat) : Bool := 0xD800 ≤ n && n < 0xDC00

/-- The second half of a pair. -/
def isLow (n : Nat) : Bool := 0xDC00 ≤ n && n < 0xE000

/-- The units of a character. -/
def units (c : Char) : List Nat :=
  let n := c.toNat
  if n < 0x10000 then [n] else [0xD800 + (n - 0x10000) / 1024, 0xDC00 + (n - 0x10000) % 1024]

/-- The units of a text. -/
def encode (cs : List Char) : List Nat := cs.flatMap units

/-- The character of a pair. -/
def join (high low : Nat) : Char :=
  Char.ofNat (0x10000 + (high - 0xD800) * 1024 + (low - 0xDC00))

/-- What a text is read from. -/
inductive Part where
  /-- A number that can be half of a pair. -/
  | unit (u : Nat)
  /-- A code point as it is. -/
  | whole (p : CodePoint)

/-- The text of some parts. -/
def decode : List Part → Text
  | [] => []
  | .whole p :: rest => p :: decode rest
  | .unit u :: rest =>
    match rest with
    | .unit v :: rest₂ =>
      if isHigh u && isLow v then .char (join u v) :: decode rest₂
      -- the unit after a lone surrogate is read again
      else .ofNat u :: decode (.unit v :: rest₂)
    | .whole p :: rest₂ => .ofNat u :: decode (.whole p :: rest₂)
    | [] => [.ofNat u]

/-- The text of some units. -/
def decodeUnits (us : List Nat) : Text := decode (us.map .unit)

/-- The two bytes of a unit. -/
def unitBytes (order : ByteOrder) (u : Nat) : Bytes :=
  match order with
  | .big => [UInt8.ofNat (u / 256), UInt8.ofNat (u % 256)]
  | .little => [UInt8.ofNat (u % 256), UInt8.ofNat (u / 256)]

/-- The bytes of some units. -/
def toBytes (order : ByteOrder) (us : List Nat) : Bytes := us.flatMap (unitBytes order)

/-- The units of some bytes, if their number is even. -/
def ofBytes? (order : ByteOrder) : Bytes → Option (List Nat)
  | [] => some []
  | [_] => none
  | a :: b :: rest =>
    let u := match order with
      | .big => a.toNat * 256 + b.toNat
      | .little => b.toNat * 256 + a.toNat
    (ofBytes? order rest).map (u :: ·)

/-- The text of a byte string in one of the byte orders. -/
def decodeBytes? (order : ByteOrder) (bytes : Bytes) : Option Text :=
  (ofBytes? order bytes).map decodeUnits

/-! ## What was encoded is read back -/

theorem decode_whole (p : CodePoint) (rest : List Part) :
    decode (.whole p :: rest) = p :: decode rest := by
  rw [decode]

/-- A unit that begins no pair is a code point. -/
theorem decode_unit {u : Nat} (h : isHigh u = false) (rest : List Part) :
    decode (.unit u :: rest) = .ofNat u :: decode rest := by
  match rest with
  | [] => rfl
  | .unit v :: rest => rw [decode, h]; rfl
  | .whole p :: rest => rfl

theorem decode_pair {u v : Nat} (hh : isHigh u = true) (hl : isLow v = true)
    (rest : List Part) : decode (.unit u :: .unit v :: rest) = .char (join u v) :: decode rest := by
  rw [decode, hh, hl]
  rfl

theorem isHigh_toNat_char (c : Char) : isHigh c.toNat = false := by
  have hv : c.toNat < 0xD800 ∨ (0xDFFF < c.toNat ∧ c.toNat < 0x110000) := c.valid
  simp only [isHigh, Bool.and_eq_false_iff, decide_eq_false_iff_not]
  omega

theorem decode_units_append (c : Char) (rest : List Part) :
    decode ((units c).map .unit ++ rest) = .char c :: decode rest := by
  have hv : c.toNat < 0xD800 ∨ (0xDFFF < c.toNat ∧ c.toNat < 0x110000) := c.valid
  unfold units
  dsimp only
  split
  · rw [List.map_singleton, List.singleton_append, decode_unit (isHigh_toNat_char c),
      CodePoint.ofNat_toNat_char]
  · have hh : isHigh (0xD800 + (c.toNat - 0x10000) / 1024) = true := by
      simp only [isHigh, Bool.and_eq_true, decide_eq_true_eq]; omega
    have hl : isLow (0xDC00 + (c.toNat - 0x10000) % 1024) = true := by
      simp only [isLow, Bool.and_eq_true, decide_eq_true_eq]; omega
    have hj : join (0xD800 + (c.toNat - 0x10000) / 1024) (0xDC00 + (c.toNat - 0x10000) % 1024)
        = c := by
      rw [join]
      have e : 0x10000 + (0xD800 + (c.toNat - 0x10000) / 1024 - 0xD800) * 1024
          + (0xDC00 + (c.toNat - 0x10000) % 1024 - 0xDC00) = c.toNat := by omega
      rw [e, Char.ofNat_toNat]
    rw [List.map_cons, List.map_singleton, List.cons_append, List.singleton_append,
      decode_pair hh hl, hj]

@[simp] theorem decode_encode (cs : List Char) : decodeUnits (encode cs) = .ofChars cs := by
  rw [decodeUnits]
  induction cs with
  | nil => rfl
  | cons c cs ih =>
    rw [encode, List.flatMap_cons, List.map_append, decode_units_append, Text.ofChars_cons]
    exact congrArg _ ih

theorem units_lt (c : Char) : ∀ u ∈ units c, u < 0x10000 := by
  have hv : c.toNat < 0xD800 ∨ (0xDFFF < c.toNat ∧ c.toNat < 0x110000) := c.valid
  intro u hu
  unfold units at hu
  dsimp only at hu
  split at hu
  · rw [List.mem_singleton] at hu; omega
  · simp only [List.mem_cons, List.not_mem_nil, or_false] at hu
    omega

theorem ofBytes?_toBytes (order : ByteOrder) {us : List Nat} (h : ∀ u ∈ us, u < 0x10000) :
    ofBytes? order (toBytes order us) = some us := by
  induction us with
  | nil => rfl
  | cons u us ih =>
    have hu := h u (by simp)
    have e1 : (UInt8.ofNat (u / 256)).toNat = u / 256 := by simp; omega
    have e2 : (UInt8.ofNat (u % 256)).toNat = u % 256 := by simp
    have ih' := ih fun v hv => h v (by simp [hv])
    rw [toBytes] at ih' ⊢
    -- the two orders differ only in which byte is asked for first
    cases order <;>
      · simp only [List.flatMap_cons, unitBytes, List.cons_append, List.nil_append, ofBytes?, ih',
          Option.map_some, e1, e2]
        congr 2
        omega

@[simp] theorem decodeBytes?_encode (order : ByteOrder) (cs : List Char) :
    decodeBytes? order (toBytes order (encode cs)) = some (.ofChars cs) := by
  have h : ∀ u ∈ encode cs, u < 0x10000 := by
    intro u hu
    obtain ⟨c, _, hc⟩ := List.mem_flatMap.mp hu
    exact units_lt c u hc
  rw [decodeBytes?, ofBytes?_toBytes order h, Option.map_some, decode_encode]

end Utf16

end CatalogCache
