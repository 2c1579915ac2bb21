import CatalogCache.Bytes
import CatalogCache.Text

/-!
# UTF-8

A byte string is read as a sequence of *pieces*: characters, and between them the byte runs
that belong to none. A run is as long as it can be while it is still the beginning of some
character's encoding, so that a sequence that breaks off is one piece and not several.

Everything that reads text from bytes is a view of the pieces. `decode?` refuses any
malformed run, `decodeLossy` puts U+FFFD in the place of each, and `decodeLoose?` refuses
all of them but the three-byte forms of the surrogates. Only the texts without surrogates have
an encoding (`encodeText?`).

Main statement: `decode?_encode`, what was encoded is read back.
-/

namespace CatalogCache.Utf8

/-- The bytes of a text. -/
def encode (cs : List Char) : Bytes := cs.flatMap String.utf8EncodeChar

/-- The bytes of a string. -/
def encodeString (s : String) : Bytes := encode s.toList

/-- The bytes of a text, if it has an encoding. -/
def encodeText? (text : Text) : Option Bytes := text.chars?.map encode

/-- What stands at a place of a byte string. -/
inductive Piece where
  /-- A whole character. -/
  | char (c : Char)
  /-- Bytes that belong to no character. -/
  | malformed (bytes : Bytes)
  deriving DecidableEq

/-- A byte that continues a character. -/
def continues (b : UInt8) : Bool := b.toNat / 64 == 2

/-- A byte that may come second after the first byte of a three- or four-byte character:
the first byte decides where overlong forms end and where surrogates and numbers past the
last character begin. -/
def seconds (a b : UInt8) : Bool :=
  continues b &&
    (if a.toNat = 0xE0 then 0xA0 ≤ b.toNat
     else if a.toNat = 0xED then b.toNat < 0xA0
     else if a.toNat = 0xF0 then 0x90 ≤ b.toNat
     else if a.toNat = 0xF4 then b.toNat < 0x90
     else true)

/-- How many bytes a character takes that begins with a byte, zero when none does. -/
def width (a : UInt8) : Nat :=
  let n := a.toNat
  if n < 0x80 then 1 else if n < 0xC2 then 0 else if n < 0xE0 then 2
  else if n < 0xF0 then 3 else if n < 0xF5 then 4 else 0

/-- The character of one byte. -/
def char1 (a : UInt8) : Char := Char.ofNat a.toNat

/-- The character of two bytes. -/
def char2 (a b : UInt8) : Char := Char.ofNat (a.toNat % 32 * 64 + b.toNat % 64)

/-- The character of three bytes. -/
def char3 (a b c : UInt8) : Char :=
  Char.ofNat (a.toNat % 16 * 4096 + b.toNat % 64 * 64 + c.toNat % 64)

/-- The character of four bytes. -/
def char4 (a b c d : UInt8) : Char :=
  Char.ofNat (a.toNat % 8 * 262144 + b.toNat % 64 * 4096 + c.toNat % 64 * 64 + d.toNat % 64)

/-- The pieces of a byte string. -/
def pieces : Bytes → List Piece
  | [] => []
  | a :: rest =>
    match width a with
    | 1 => .char (char1 a) :: pieces rest
    | 2 =>
      match rest with
      | [] => [.malformed [a]]
      | b :: rest₂ =>
        -- a byte that does not continue the character begins a piece of its own
        if continues b then .char (char2 a b) :: pieces rest₂
        else .malformed [a] :: pieces (b :: rest₂)
    | 3 =>
      match rest with
      | [] => [.malformed [a]]
      | b :: rest₂ =>
        if seconds a b then
          match rest₂ with
          | [] => [.malformed [a, b]]
          | c :: rest₃ =>
            if continues c then .char (char3 a b c) :: pieces rest₃
            else .malformed [a, b] :: pieces (c :: rest₃)
        else .malformed [a] :: pieces (b :: rest₂)
    | 4 =>
      match rest with
      | [] => [.malformed [a]]
      | b :: rest₂ =>
        if seconds a b then
          match rest₂ with
          | [] => [.malformed [a, b]]
          | c :: rest₃ =>
            if continues c then
              match rest₃ with
              | [] => [.malformed [a, b, c]]
              | d :: rest₄ =>
                if continues d then .char (char4 a b c d) :: pieces rest₄
                else .malformed [a, b, c] :: pieces (d :: rest₄)
            else .malformed [a, b] :: pieces (c :: rest₃)
        else .malformed [a] :: pieces (b :: rest₂)
    | _ => .malformed [a] :: pieces rest

/-- The character of a piece, if it is one. -/
def Piece.char? : Piece → Option Char
  | .char c => some c
  | .malformed _ => none

/-- The text of some pieces when all of them are characters. -/
def chars? : List Piece → Option (List Char)
  | [] => some []
  | .char c :: rest => (chars? rest).map (c :: ·)
  | .malformed _ :: _ => none

/-- The text of a byte string in which nothing is malformed. -/
def decode? (bytes : Bytes) : Option (List Char) := chars? (pieces bytes)

/-- The string of a byte string in which nothing is malformed. -/
def decodeString? (bytes : Bytes) : Option String := (decode? bytes).map String.ofList

/-- The character that stands for what cannot be read. -/
def replacement : Char := Char.ofNat 0xFFFD

/-- The text of a byte string, with U+FFFD for each malformed run. -/
def decodeLossy (bytes : Bytes) : List Char :=
  (pieces bytes).map fun
    | .char c => c
    | .malformed _ => replacement

/-- Three lone bytes that would be a surrogate. -/
def isSurrogate (a b c : UInt8) : Bool :=
  a.toNat == 0xED && 0xA0 ≤ b.toNat && continues b && continues c

/-- The surrogate of three bytes. -/
def surrogate (b c : UInt8) : CodePoint := .ofNat (0xD000 + b.toNat % 64 * 64 + c.toNat % 64)

/-- The text of some pieces, the surrogates among them read. -/
def looseText? : List Piece → Option Text
  | [] => some []
  | .char c :: rest => (looseText? rest).map (.char c :: ·)
  -- the first byte of a surrogate lets no second one follow, so its three bytes are three pieces
  | .malformed [a] :: .malformed [b] :: .malformed [c] :: rest =>
    if isSurrogate a b c then (looseText? rest).map (surrogate b c :: ·) else none
  | .malformed _ :: _ => none

/-- The text of a byte string in which nothing but surrogates is malformed. -/
def decodeLoose? (bytes : Bytes) : Option Text := looseText? (pieces bytes)

/-! ## What was encoded is read back -/

private theorem ofNat_eq {n : Nat} {c : Char} (h : n = c.toNat) : Char.ofNat n = c := by
  rw [h, Char.ofNat_toNat]

private theorem toNat_ofNat {n : Nat} (h : n < 256) : (UInt8.ofNat n).toNat = n := by
  simp [Nat.mod_eq_of_lt h]

theorem pieces_one {a : UInt8} (h : width a = 1) (rest : Bytes) :
    pieces (a :: rest) = .char (char1 a) :: pieces rest := by
  rw [pieces.eq_def]
  simp only [h]

theorem pieces_two {a b : UInt8} (h : width a = 2) (hb : continues b = true) (rest : Bytes) :
    pieces (a :: b :: rest) = .char (char2 a b) :: pieces rest := by
  rw [pieces.eq_def]
  simp only [h, hb, if_true]

theorem pieces_three {a b c : UInt8} (h : width a = 3) (hb : seconds a b = true)
    (hc : continues c = true) (rest : Bytes) :
    pieces (a :: b :: c :: rest) = .char (char3 a b c) :: pieces rest := by
  rw [pieces.eq_def]
  simp only [h, hb, hc, if_true]

theorem pieces_four {a b c d : UInt8} (h : width a = 4) (hb : seconds a b = true)
    (hc : continues c = true) (hd : continues d = true) (rest : Bytes) :
    pieces (a :: b :: c :: d :: rest) = .char (char4 a b c d) :: pieces rest := by
  rw [pieces.eq_def]
  simp only [h, hb, hc, hd, if_true]

/-- A character's bytes in front of others are one piece. -/
theorem pieces_encodeChar_append (c : Char) (rest : Bytes) :
    pieces (String.utf8EncodeChar c ++ rest) = .char c :: pieces rest := by
  have hc : c.val.toNat = c.toNat := rfl
  have hv : c.toNat < 0xD800 ∨ (0xDFFF < c.toNat ∧ c.toNat < 0x110000) := c.valid
  unfold String.utf8EncodeChar
  simp only [hc]
  split
  · rename_i h
    -- one byte
    have e : (UInt8.ofNat c.toNat).toNat = c.toNat := toNat_ofNat (by omega)
    have w : width (UInt8.ofNat c.toNat) = 1 := by
      simp only [width, e]
      rw [if_pos (by omega)]
    simp only [List.cons_append, List.nil_append]
    rw [pieces_one w]
    simp only [char1, e, Char.ofNat_toNat]
  · split
    · rename_i h1 h
      -- two bytes
      have ea : (UInt8.ofNat (c.toNat / 64 % 32 + 192)).toNat = c.toNat / 64 + 192 := by
        rw [toNat_ofNat (by omega)]; omega
      have eb : (UInt8.ofNat (c.toNat % 64 + 128)).toNat = c.toNat % 64 + 128 :=
        toNat_ofNat (by omega)
      have w : width (UInt8.ofNat (c.toNat / 64 % 32 + 192)) = 2 := by
        simp only [width, ea]
        rw [if_neg (by omega), if_neg (by omega), if_pos (by omega)]
      have k : continues (UInt8.ofNat (c.toNat % 64 + 128)) = true := by
        simp only [continues, eb, beq_iff_eq]; omega
      simp only [List.cons_append, List.nil_append]
      rw [pieces_two w k]
      simp only [char2, ea, eb]
      rw [ofNat_eq (c := c) (by omega)]
    · split
      · rename_i h1 h2 h
        -- three bytes: the second one keeps clear of overlong forms and of surrogates
        have ea : (UInt8.ofNat (c.toNat / 4096 % 16 + 224)).toNat = c.toNat / 4096 + 224 := by
          rw [toNat_ofNat (by omega)]; omega
        have eb : (UInt8.ofNat (c.toNat / 64 % 64 + 128)).toNat = c.toNat / 64 % 64 + 128 :=
          toNat_ofNat (by omega)
        have ec : (UInt8.ofNat (c.toNat % 64 + 128)).toNat = c.toNat % 64 + 128 :=
          toNat_ofNat (by omega)
        have w : width (UInt8.ofNat (c.toNat / 4096 % 16 + 224)) = 3 := by
          simp only [width, ea]
          rw [if_neg (by omega), if_neg (by omega), if_neg (by omega), if_pos (by omega)]
        have k : continues (UInt8.ofNat (c.toNat % 64 + 128)) = true := by
          simp only [continues, ec, beq_iff_eq]; omega
        have s : seconds (UInt8.ofNat (c.toNat / 4096 % 16 + 224))
            (UInt8.ofNat (c.toNat / 64 % 64 + 128)) = true := by
          simp only [seconds, continues, ea, eb, Bool.and_eq_true, beq_iff_eq]
          refine ⟨by omega, ?_⟩
          split
          · simp only [decide_eq_true_eq]; omega
          · split
            · simp only [decide_eq_true_eq]; omega
            · rw [if_neg (by omega), if_neg (by omega)]
        simp only [List.cons_append, List.nil_append]
        rw [pieces_three w s k]
        simp only [char3, ea, eb, ec]
        rw [ofNat_eq (c := c) (by omega)]
      · rename_i h1 h2 h
        -- four bytes: the second one keeps clear of overlong forms and of numbers too large
        have ea : (UInt8.ofNat (c.toNat / 262144 % 8 + 240)).toNat = c.toNat / 262144 + 240 := by
          rw [toNat_ofNat (by omega)]; omega
        have eb : (UInt8.ofNat (c.toNat / 4096 % 64 + 128)).toNat = c.toNat / 4096 % 64 + 128 :=
          toNat_ofNat (by omega)
        have ec : (UInt8.ofNat (c.toNat / 64 % 64 + 128)).toNat = c.toNat / 64 % 64 + 128 :=
          toNat_ofNat (by omega)
        have ed : (UInt8.ofNat (c.toNat % 64 + 128)).toNat = c.toNat % 64 + 128 :=
          toNat_ofNat (by omega)
        have w : width (UInt8.ofNat (c.toNat / 262144 % 8 + 240)) = 4 := by
          simp only [width, ea]
          rw [if_neg (by omega), if_neg (by omega), if_neg (by omega), if_neg (by omega),
            if_pos (by omega)]
        have k : continues (UInt8.ofNat (c.toNat / 64 % 64 + 128)) = true := by
          simp only [continues, ec, beq_iff_eq]; omega
        have k' : continues (UInt8.ofNat (c.toNat % 64 + 128)) = true := by
          simp only [continues, ed, beq_iff_eq]; omega
        have s : seconds (UInt8.ofNat (c.toNat / 262144 % 8 + 240))
            (UInt8.ofNat (c.toNat / 4096 % 64 + 128)) = true := by
          simp only [seconds, continues, ea, eb, Bool.and_eq_true, beq_iff_eq]
          refine ⟨by omega, ?_⟩
          rw [if_neg (by omega), if_neg (by omega)]
          split
          · simp only [decide_eq_true_eq]; omega
          · split
            · simp only [decide_eq_true_eq]; omega
            · rfl
        simp only [List.cons_append, List.nil_append]
        rw [pieces_four w s k k']
        simp only [char4, ea, eb, ec, ed]
        rw [ofNat_eq (c := c) (by omega)]

/-- The pieces of an encoded text are its characters. -/
theorem pieces_encode_append (cs : List Char) (rest : Bytes) :
    pieces (encode cs ++ rest) = cs.map .char ++ pieces rest := by
  induction cs with
  | nil => rfl
  | cons c cs ih =>
    simp only [encode, List.flatMap_cons, List.append_assoc, List.map_cons, List.cons_append]
    rw [pieces_encodeChar_append]
    exact congrArg _ ih

theorem pieces_encode (cs : List Char) : pieces (encode cs) = cs.map .char := by
  have h := pieces_encode_append cs []
  simpa [pieces] using h

theorem chars?_map_char (cs : List Char) : chars? (cs.map .char) = some cs := by
  induction cs with
  | nil => rfl
  | cons c cs ih => simp [chars?, ih]

/-- A text is made of pieces that are its characters, and of no other ones. -/
theorem chars?_eq_some_iff {ps : List Piece} {cs : List Char} :
    chars? ps = some cs ↔ ps = cs.map .char := by
  constructor
  · intro h
    induction ps generalizing cs with
    | nil =>
      obtain rfl := Option.some.inj h
      rfl
    | cons p ps ih =>
      cases p with
      | malformed bs => exact absurd h (by simp [chars?])
      | char c =>
        obtain ⟨rest, hrest, rfl⟩ := Option.map_eq_some_iff.1 h
        rw [ih hrest, List.map_cons]
  · rintro rfl
    exact chars?_map_char cs

/-- What was encoded is read back. -/
@[simp] theorem decode?_encode (cs : List Char) : decode? (encode cs) = some cs := by
  rw [decode?, pieces_encode, chars?_map_char]

@[simp] theorem decodeString?_encodeString (s : String) :
    decodeString? (encodeString s) = some s := by
  simp [decodeString?, encodeString, String.ofList_toList]

/-- Where nothing is malformed nothing is replaced. -/
theorem decodeLossy_of_decode? {bytes : Bytes} {cs : List Char} (h : decode? bytes = some cs) :
    decodeLossy bytes = cs := by
  have hpieces : pieces bytes = cs.map .char := chars?_eq_some_iff.1 h
  rw [decodeLossy, hpieces, List.map_map]
  exact List.map_id cs

@[simp] theorem decodeLossy_encode (cs : List Char) : decodeLossy (encode cs) = cs :=
  decodeLossy_of_decode? (decode?_encode cs)

@[simp] theorem decodeLoose?_encode (cs : List Char) :
    decodeLoose? (encode cs) = some (.ofChars cs) := by
  rw [decodeLoose?, pieces_encode]
  induction cs with
  | nil => rfl
  | cons c cs ih => rw [List.map_cons, looseText?, ih]; rfl

@[simp] theorem encodeText?_ofString (s : String) :
    encodeText? (.ofString s) = some (encodeString s) := by
  rw [encodeText?, Text.ofString, Text.chars?_ofChars]
  rfl

theorem encodeText?_eq_none_iff {text : Text} : encodeText? text = none ↔ ¬ text.IsString := by
  rw [encodeText?, Option.map_eq_none_iff, Text.chars?_eq_none_iff]

/-- Only the empty text takes no bytes. -/
theorem encodeText?_eq_some_nil_iff {text : Text} : encodeText? text = some [] ↔ text = [] := by
  rw [encodeText?, Option.map_eq_some_iff]
  constructor
  · rintro ⟨cs, hcs, hempty⟩
    have hnil : some cs = some [] := by
      rw [← decode?_encode cs, hempty]
      rfl
    rw [Text.chars?_eq_some_iff.1 hcs, Option.some.inj hnil, Text.ofChars_nil]
  · rintro rfl
    exact ⟨[], rfl, rfl⟩

end CatalogCache.Utf8
