import CatalogCache.Bytes
import CatalogCache.Text

/-!
# Base64

Three bytes are four symbols of six bits each. A text is read strictly: symbols first, then
padding, nothing else anywhere. One or two padding signs complete a last group of three or
two symbols, and not a character may follow them; after whole groups any number of padding
signs is tolerated, but no other character.

Main statement: `decode_encode`, what was encoded is read back.
-/

namespace CatalogCache.Base64

/-- Why a text is not base64. -/
inductive Error where
  /-- A character outside ASCII. -/
  | notAscii
  /-- Padding before any symbol. -/
  | leadingPadding
  /-- A character that is neither a symbol nor padding. -/
  | foreignCharacter
  /-- A symbol after padding. -/
  | symbolAfterPadding
  /-- Characters after the padding that ends the text. -/
  | excessData
  /-- So many symbols that one is left over. -/
  | leftoverSymbol (symbols : Nat)
  /-- Two or three symbols that no padding completes. -/
  | missingPadding
  deriving DecidableEq

def Error.message : Error → String
  | .notAscii => "string argument should contain only ASCII characters"
  | .leadingPadding => "Leading padding not allowed"
  | .foreignCharacter => "Only base64 data is allowed"
  | .symbolAfterPadding => "Discontinuous padding not allowed"
  | .excessData => "Excess data after padding"
  | .leftoverSymbol symbols =>
    s!"Invalid base64-encoded string: number of data characters ({symbols}) cannot be 1 more " ++
      "than a multiple of 4"
  | .missingPadding => "Incorrect padding"

/-- The symbol of a value below sixty-four. -/
def symbol (n : Nat) : Char :=
  if n < 26 then Char.ofNat (65 + n)
  else if n < 52 then Char.ofNat (71 + n)
  else if n < 62 then Char.ofNat (n - 4)
  else if n = 62 then '+' else '/'

/-- The value of a symbol. -/
def value? (c : Char) : Option Nat :=
  let n := c.toNat
  if 65 ≤ n ∧ n ≤ 90 then some (n - 65)
  else if 97 ≤ n ∧ n ≤ 122 then some (n - 71)
  else if 48 ≤ n ∧ n ≤ 57 then some (n + 4)
  else if n = 43 then some 62
  else if n = 47 then some 63
  else none

def pad : Char := '='

/-- The text of a byte string. -/
def encode : Bytes → List Char
  | [] => []
  | [a] => [symbol (a.toNat / 4), symbol (a.toNat % 4 * 16), pad, pad]
  | [a, b] =>
    [symbol (a.toNat / 4), symbol (a.toNat % 4 * 16 + b.toNat / 16),
      symbol (b.toNat % 16 * 4), pad]
  | a :: b :: c :: rest =>
    symbol (a.toNat / 4) :: symbol (a.toNat % 4 * 16 + b.toNat / 16) ::
      symbol (b.toNat % 16 * 4 + c.toNat / 64) :: symbol (c.toNat % 64) :: encode rest

/-- The values of some symbols, if all are symbols. -/
def values? : List Char → Option (List Nat)
  | [] => some []
  | c :: rest =>
    match value? c with
    | some n => (values? rest).map (n :: ·)
    | none => none

/-- The bytes of some values. A last group of two or three values has one or two bytes, and
the low bits that are left over do not count. -/
def bytesOfValues : List Nat → Bytes
  | a :: b :: c :: d :: rest =>
    UInt8.ofNat (a * 4 + b / 16) :: UInt8.ofNat (b % 16 * 16 + c / 4) ::
      UInt8.ofNat (c % 4 * 64 + d) :: bytesOfValues rest
  | [a, b, c] => [UInt8.ofNat (a * 4 + b / 16), UInt8.ofNat (b % 16 * 16 + c / 4)]
  | [a, b] => [UInt8.ofNat (a * 4 + b / 16)]
  | _ => []

/-- The error of a character that stands among padding. -/
def stray (c : Char) : Error :=
  if (value? c).isSome then .symbolAfterPadding else .foreignCharacter

/-- Checks that some characters are padding only. -/
def checkSurplus : List Char → Except Error Unit
  | [] => .ok ()
  | c :: rest => if c = pad then checkSurplus rest else .error (stray c)

/-- Checks that the text ends with exactly so many padding signs. -/
def checkPadding : (missing : Nat) → List Char → Except Error Unit
  | 0, [] => .ok ()
  | 0, _ :: _ => .error .excessData
  | _ + 1, [] => .error .missingPadding
  | missing + 1, c :: rest =>
    if c = pad then checkPadding missing rest else .error (stray c)

/-- Checks what follows so many symbols. -/
def checkTail (symbols : Nat) (tail : List Char) : Except Error Unit :=
  match symbols % 4 with
  | 0 => checkSurplus tail
  -- a stray character is reported before the symbol that is left over
  | 1 => do checkSurplus tail; .error (.leftoverSymbol symbols)
  | r => checkPadding (4 - r) tail

/-- The bytes of a text. -/
def decode (cs : List Char) : Except Error Bytes :=
  -- the order of the checks decides which error a text with several flaws gets
  if cs.any (fun c => 128 ≤ c.toNat) then .error .notAscii
  else if cs.head? = some pad then .error .leadingPadding
  else
    match values? (cs.takeWhile (· ≠ pad)) with
    | none => .error .foreignCharacter
    | some values =>
      match checkTail values.length (cs.dropWhile (· ≠ pad)) with
      | .error e => .error e
      | .ok () => .ok (bytesOfValues values)

/-- The bytes of a text. A surrogate is as little ASCII as any other code point above it. -/
def decodeText (text : Text) : Except Error Bytes :=
  match text.chars? with
  | none => .error .notAscii
  | some cs => decode cs

/-! ## What was encoded is read back -/

theorem value?_symbol {n : Nat} (h : n < 64) : value? (symbol n) = some n := by
  have table : ∀ m < 64, value? (symbol m) = some m := by decide
  exact table n h

theorem symbol_ne_pad {n : Nat} (h : n < 64) : symbol n ≠ pad := by
  have table : ∀ m < 64, symbol m ≠ pad := by decide
  exact table n h

theorem symbol_lt {n : Nat} (h : n < 64) : (symbol n).toNat < 128 := by
  have table : ∀ m < 64, (symbol m).toNat < 128 := by decide
  exact table n h

/-- The values of a byte string's symbols. -/
def valuesOf : Bytes → List Nat
  | [] => []
  | [a] => [a.toNat / 4, a.toNat % 4 * 16]
  | [a, b] => [a.toNat / 4, a.toNat % 4 * 16 + b.toNat / 16, b.toNat % 16 * 4]
  | a :: b :: c :: rest =>
    (a.toNat / 4) :: (a.toNat % 4 * 16 + b.toNat / 16) :: (b.toNat % 16 * 4 + c.toNat / 64) ::
      (c.toNat % 64) :: valuesOf rest

/-- The padding that a byte string needs. -/
def paddingOf (length : Nat) : List Char :=
  match length % 3 with
  | 0 => []
  | 1 => [pad, pad]
  | _ => [pad]

theorem encode_eq (bytes : Bytes) :
    encode bytes = (valuesOf bytes).map symbol ++ paddingOf bytes.length := by
  fun_induction encode bytes with
  | case1 => rfl
  | case2 => rfl
  | case3 => rfl
  | case4 a b c rest ih =>
    have : paddingOf (a :: b :: c :: rest).length = paddingOf rest.length := by
      simp [paddingOf, show rest.length + 1 + 1 + 1 = rest.length + 3 by omega]
    rw [this, valuesOf, ih]
    simp

theorem valuesOf_lt (bytes : Bytes) : ∀ n ∈ valuesOf bytes, n < 64 := by
  fun_induction valuesOf bytes with
  | case1 => simp
  | case2 a =>
    have := a.toNat_lt
    simp only [List.mem_cons, List.not_mem_nil, or_false]
    omega
  | case3 a b =>
    have := a.toNat_lt
    have := b.toNat_lt
    simp only [List.mem_cons, List.not_mem_nil, or_false]
    omega
  | case4 a b c rest ih =>
    have := a.toNat_lt
    have := b.toNat_lt
    have := c.toNat_lt
    intro n hn
    simp only [List.mem_cons] at hn
    rcases hn with h | h | h | h | h
    · omega
    · omega
    · omega
    · omega
    · exact ih n h

theorem values?_map_symbol {ns : List Nat} (h : ∀ n ∈ ns, n < 64) :
    values? (ns.map symbol) = some ns := by
  induction ns with
  | nil => rfl
  | cons n ns ih =>
    rw [List.map_cons, values?, value?_symbol (h n (by simp)), ih fun m hm => h m (by simp [hm])]
    rfl

private theorem ofNat_eq {n : Nat} {b : UInt8} (h : n = b.toNat) : UInt8.ofNat n = b := by
  rw [h, UInt8.ofNat_toNat]

theorem bytesOfValues_valuesOf (bytes : Bytes) : bytesOfValues (valuesOf bytes) = bytes := by
  fun_induction valuesOf bytes with
  | case1 => rfl
  | case2 a =>
    have := a.toNat_lt
    rw [bytesOfValues, ofNat_eq (b := a) (by omega)]
  | case3 a b =>
    have := a.toNat_lt
    have := b.toNat_lt
    rw [bytesOfValues, ofNat_eq (b := a) (by omega), ofNat_eq (b := b) (by omega)]
  | case4 a b c rest ih =>
    have := a.toNat_lt
    have := b.toNat_lt
    have := c.toNat_lt
    rw [bytesOfValues, ih, ofNat_eq (b := a) (by omega), ofNat_eq (b := b) (by omega),
      ofNat_eq (b := c) (by omega)]

theorem length_valuesOf_mod (bytes : Bytes) :
    (valuesOf bytes).length % 4 =
      match bytes.length % 3 with
      | 0 => 0
      | 1 => 2
      | _ => 3 := by
  fun_induction valuesOf bytes with
  | case1 => rfl
  | case2 => rfl
  | case3 => rfl
  | case4 a b c rest ih =>
    simp only [List.length_cons]
    rw [show (valuesOf rest).length + 1 + 1 + 1 + 1 = (valuesOf rest).length + 4 by omega,
      show rest.length + 1 + 1 + 1 = rest.length + 3 by omega, Nat.add_mod_right,
      Nat.add_mod_right, ih]

theorem checkTail_paddingOf (bytes : Bytes) :
    checkTail (valuesOf bytes).length (paddingOf bytes.length) = .ok () := by
  have h := length_valuesOf_mod bytes
  have hl : bytes.length % 3 < 3 := Nat.mod_lt _ (by omega)
  rw [checkTail, paddingOf]
  generalize bytes.length % 3 = r at h hl
  match r, hl with
  | 0, _ => rw [h]; rfl
  | 1, _ => rw [h]; rfl
  | 2, _ => rw [h]; rfl

/-- Symbols with padding that completes them are read. -/
theorem decode_append {ns : List Nat} {tail : List Char} (hns : ∀ n ∈ ns, n < 64)
    (htail : ∀ c ∈ tail, c = pad) (hne : ns = [] → tail = [])
    (hcheck : checkTail ns.length tail = .ok ()) :
    decode (ns.map symbol ++ tail) = .ok (bytesOfValues ns) := by
  have hs : ∀ c ∈ ns.map symbol, c ≠ pad := by
    intro c hc
    obtain ⟨n, hn, rfl⟩ := List.mem_map.mp hc
    exact symbol_ne_pad (hns n hn)
  -- none of the checks in front of the symbols refuses the text
  have ha : (ns.map symbol ++ tail).any (fun c => 128 ≤ c.toNat) = false := by
    rw [List.any_eq_false]
    intro c hc
    simp only [decide_eq_true_eq, Nat.not_le]
    rcases List.mem_append.mp hc with hc | hc
    · obtain ⟨n, hn, rfl⟩ := List.mem_map.mp hc
      exact symbol_lt (hns n hn)
    · rw [htail c hc]
      decide
  have hd : (ns.map symbol ++ tail).head? ≠ some pad := by
    cases ns with
    | nil =>
      rw [hne rfl]
      simp
    | cons n ns => simpa using symbol_ne_pad (hns n List.mem_cons_self)
  -- the first padding sign divides it into symbols and padding
  have hstop : tail.takeWhile (· ≠ pad) = [] ∧ tail.dropWhile (· ≠ pad) = tail := by
    cases tail with
    | nil => exact ⟨rfl, rfl⟩
    | cons c tail => simp [htail c List.mem_cons_self]
  have ht : (ns.map symbol ++ tail).takeWhile (· ≠ pad) = ns.map symbol := by
    rw [List.takeWhile_append_of_pos (by simpa using hs), hstop.1, List.append_nil]
  have hw : (ns.map symbol ++ tail).dropWhile (· ≠ pad) = tail := by
    rw [List.dropWhile_append_of_pos (by simpa using hs), hstop.2]
  rw [decode, ha, if_neg Bool.false_ne_true, if_neg hd, ht, hw, values?_map_symbol hns]
  simp only [hcheck]

/-- What was encoded is read back. -/
@[simp] theorem decode_encode (bytes : Bytes) : decode (encode bytes) = .ok bytes := by
  have hp : ∀ c ∈ paddingOf bytes.length, c = pad := by
    rw [paddingOf]
    split <;> simp
  have hne : valuesOf bytes = [] → paddingOf bytes.length = [] := by
    fun_cases valuesOf bytes <;> simp [paddingOf]
  rw [encode_eq, decode_append (valuesOf_lt bytes) hp hne (checkTail_paddingOf bytes),
    bytesOfValues_valuesOf]

@[simp] theorem decodeText_ofChars (cs : List Char) : decodeText (.ofChars cs) = decode cs := by
  rw [decodeText, Text.chars?_ofChars]

end CatalogCache.Base64
