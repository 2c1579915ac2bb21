import CatalogCache.Json.Document
import CatalogCache.Proofs.JsonGrammar

/-!
# What a JSON text says

The texts that senders of documents write hold no numbers, and no half of a surrogate pair:
`IsTextOf v text` says that a text is one of those that stand for a value. Blank space may be
anywhere between the tokens, and each character of a string may be written as it is, by its
letter, or by the escapes of its UTF-16 units, with digits in either case. This is a part of
the whole grammar (`IsTextOf.isSpellingOf`), told by characters where the grammar tells it by
parts.

The reader takes every text of a value for it, also when the text comes as UTF-8
(`ofBytes?_of_isSpellingOf`): no byte of such a text is zero, so it is not mistaken for one in
a wider encoding.
-/

namespace CatalogCache.Json

/-! ## Texts without numbers -/

/-- Escapes of some UTF-16 units in a row. -/
inductive UnitTexts : List Nat → Text → Prop where
  | nil : UnitTexts [] []
  | cons {u : Nat} {a b c d : CodePoint} {us : List Nat} {text : Text} :
      fourDigits? a b c d = some u → UnitTexts us text →
      UnitTexts (u :: us) (.char '\\' :: .char 'u' :: a :: b :: c :: d :: text)

/-- The ways to write a character inside a string. -/
inductive CharText (c : Char) : Text → Prop where
  | plain : c ≠ '"' → c ≠ '\\' → 32 ≤ c.toNat → CharText c [.char c]
  | letter {e : CodePoint} : letterEscape? e = some c → CharText c [.char '\\', e]
  | units {text : Text} : UnitTexts (Utf16.units c) text → CharText c text

/-- The ways to write the inside of a string. -/
inductive CharTexts : List Char → Text → Prop where
  | nil : CharTexts [] []
  | cons {c : Char} {cs : List Char} {text texts : Text} :
      CharText c text → CharTexts cs texts → CharTexts (c :: cs) (text ++ texts)

mutual

/-- The ways to write a value that holds no numbers. -/
inductive ValueText : Json → Text → Prop where
  | null : ValueText .null ['n', 'u', 'l', 'l']
  | true : ValueText (.bool true) ['t', 'r', 'u', 'e']
  | false : ValueText (.bool false) ['f', 'a', 'l', 's', 'e']
  | string {cs : List Char} {text : Text} :
      CharTexts cs text → ValueText (.string (.ofChars cs)) (.char '"' :: (text ++ [.char '"']))
  | emptyArray {b : Text} : Blanks b → ValueText (.array []) (.char '[' :: (b ++ [.char ']']))
  | array {items : List Json} {b text : Text} :
      Blanks b → ItemTexts items text →
      ValueText (.array items) (.char '[' :: (b ++ text ++ [.char ']']))
  | emptyObject {b : Text} :
      Blanks b → ValueText (.object []) (.char '\x7b' :: (b ++ [.char '\x7d']))
  /-- Of members with one name the last counts, in the place of the first. -/
  | object {members : List (Text × Json)} {b text : Text} :
      Blanks b → MemberTexts members text →
      ValueText (.object (Keyed.ofPairs members)) (.char '\x7b' :: (b ++ text ++ [.char '\x7d']))

/-- The ways to write the items of an array, each with the blank space after it. -/
inductive ItemTexts : List Json → Text → Prop where
  | one {v : Json} {text b : Text} :
      ValueText v text → Blanks b → ItemTexts [v] (text ++ b)
  | more {v : Json} {items : List Json} {text b b' texts : Text} :
      ValueText v text → Blanks b → Blanks b' → ItemTexts items texts →
      ItemTexts (v :: items) (text ++ b ++ .char ',' :: (b' ++ texts))

/-- The ways to write a member of an object. -/
inductive MemberText : Text × Json → Text → Prop where
  | mk {name : List Char} {v : Json} {inside b b' text : Text} :
      CharTexts name inside → Blanks b → Blanks b' → ValueText v text →
      MemberText (.ofChars name, v)
        (.char '"' :: (inside ++ .char '"' :: (b ++ .char ':' :: (b' ++ text))))

/-- The ways to write the members of an object, each with the blank space after it. -/
inductive MemberTexts : List (Text × Json) → Text → Prop where
  | one {member : Text × Json} {text b : Text} :
      MemberText member text → Blanks b → MemberTexts [member] (text ++ b)
  | more {member : Text × Json} {members : List (Text × Json)}
      {text b b' texts : Text} :
      MemberText member text → Blanks b → Blanks b' → MemberTexts members texts →
      MemberTexts (member :: members) (text ++ b ++ .char ',' :: (b' ++ texts))

end

/-- The texts of a value, with blank space around it. -/
def IsTextOf (v : Json) (text : Text) : Prop :=
  ∃ b inside b', Blanks b ∧ ValueText v inside ∧ Blanks b' ∧ text = b ++ inside ++ b'

/-! ## A part of the whole grammar -/

theorem UnitTexts.append {us : List Nat} {more : List Utf16.Part} {text texts : Text}
    (h : UnitTexts us text) (hm : PartsText more texts) :
    PartsText (us.map .unit ++ more) (text ++ texts) := by
  induction h with
  | nil => exact hm
  | cons hd _ ih => exact .unit hd ih

/-- A character takes one or two parts, however it is written. -/
theorem CharText.exists_parts {c : Char} {text : Text} (h : CharText c text) :
    ∃ parts, (∀ more, Utf16.decode (parts ++ more) = .char c :: Utf16.decode more) ∧
      ∀ {more : List Utf16.Part} {texts : Text}, PartsText more texts →
        PartsText (parts ++ more) (text ++ texts) := by
  cases h with
  | plain hq hb h32 =>
    have hq' : CodePoint.char c ≠ .char '"' := fun e => hq (CodePoint.char.inj e)
    have hb' : CodePoint.char c ≠ .char '\\' := fun e => hb (CodePoint.char.inj e)
    exact ⟨[.whole c], Utf16.decode_whole c, fun hm => .plain hq' hb' h32 hm⟩
  | letter he => exact ⟨[.whole c], Utf16.decode_whole c, fun hm => .letter he hm⟩
  | units hu =>
    exact ⟨(Utf16.units c).map .unit, Utf16.decode_units_append c, fun hm => hu.append hm⟩

theorem CharTexts.stringText {cs : List Char} {text : Text} (h : CharTexts cs text) :
    StringText (.ofChars cs) text := by
  induction h with
  | nil => exact ⟨[], .nil, rfl⟩
  | cons hc _ ih =>
    obtain ⟨more, hm, hd⟩ := ih
    obtain ⟨parts, hparts, happend⟩ := hc.exists_parts
    exact ⟨parts ++ more, happend hm, by rw [hparts, ← hd, Text.ofChars_cons]⟩

-- the recursion is that of the two grammars, constructor by constructor
mutual

theorem ValueText.spells {v : Json} {text : Text} : ValueText v text → Spells v text
  | .null => .scalar (.word (by simp [words]))
  | .true => .scalar (.word (by simp [words]))
  | .false => .scalar (.word (by simp [words]))
  | .string h => .string h.stringText
  | .emptyArray hb => .emptyArray hb
  | .array hb h => by
    rw [List.append_assoc]
    exact .array hb h.spells
  | .emptyObject hb => .emptyObject hb
  | .object hb h => by
    rw [List.append_assoc]
    exact .object hb h.spells

theorem ItemTexts.spells {items : List Json} {text : Text} :
    ItemTexts items text → SpellsItems items text
  | .one h hb => .one h.spells hb
  | .more h hb hb' hs => by
    rw [List.append_assoc]
    exact .more h.spells hb hb' hs.spells

theorem MemberText.spells {member : Text × Json} {text : Text} :
    MemberText member text → SpellsMember member text
  | .mk hn hb hb' h => .mk hn.stringText hb hb' h.spells

theorem MemberTexts.spells {members : List (Text × Json)} {text : Text} :
    MemberTexts members text → SpellsMembers members text
  | .one h hb => .one h.spells hb
  | .more h hb hb' hs => by
    rw [List.append_assoc]
    exact .more h.spells hb hb' hs.spells

end

theorem IsTextOf.isSpellingOf {v : Json} {text : Text} (h : IsTextOf v text) :
    IsSpellingOf v text := by
  obtain ⟨b, inside, b', hb, hv, hb', rfl⟩ := h
  exact ⟨b, inside, b', hb, hv.spells, hb', List.append_assoc b inside b'⟩

/-! ## No text holds a NUL -/

/-- The code point of which all bytes are zero. -/
abbrev nul : CodePoint := .char '\x00'

theorem nul_not_mem_blanks {b : Text} (h : Blanks b) : nul ∉ b := by
  intro hm
  exact absurd (h _ hm) (by decide)

theorem nul_not_mem_partsText {parts : List Utf16.Part} {text : Text}
    (h : PartsText parts text) : nul ∉ text := by
  induction h with
  | nil => exact List.not_mem_nil
  | plain _ _ h32 _ ih =>
    intro hm
    rcases List.mem_cons.1 hm with rfl | hm
    · exact absurd h32 (by decide)
    · exact ih hm
  | letter he _ ih =>
    intro hm
    simp only [List.mem_cons] at hm
    rcases hm with hm | rfl | hm
    · exact absurd hm (by decide)
    · exact absurd he (by simp [letterEscape?])
    · exact ih hm
  | @unit u a b c d parts text hd _ ih =>
    have hdigit : hexValue? nul = none := rfl
    intro hm
    simp only [List.mem_cons] at hm
    rcases hm with hm | hm | rfl | rfl | rfl | rfl | hm
    · exact absurd hm (by decide)
    · exact absurd hm (by decide)
    · simp [fourDigits?, hdigit] at hd
    · simp [fourDigits?, hdigit] at hd
    · simp [fourDigits?, hdigit] at hd
    · simp [fourDigits?, hdigit] at hd
    · exact ih hm

theorem StringText.nul_not_mem {s text : Text} (h : StringText s text) : nul ∉ text := by
  obtain ⟨parts, hparts, -⟩ := h
  exact nul_not_mem_partsText hparts

theorem Digits.nul_not_mem {cs : Text} (h : Digits cs) : nul ∉ cs := by
  intro hm
  exact absurd (h.2 _ hm) (by decide)

theorem ExponentText.nul_not_mem {e : Int} {text : Text} (h : ExponentText e text) :
    nul ∉ text := by
  cases h with
  | mk hm hs hd =>
    have hd' := hd.nul_not_mem
    rcases hm with rfl | rfl <;> cases hs <;> simp [hd']

theorem UnsignedText.nul_not_mem {negative : Bool} {v : Json} {text : Text}
    (h : UnsignedText negative v text) : nul ∉ text := by
  cases h with
  | int hw _ => exact hw.digits.nul_not_mem
  | exponent hw he => simp [hw.digits.nul_not_mem, he.nul_not_mem]
  | fraction hw hp => simp [hw.digits.nul_not_mem, hp.nul_not_mem]
  | both hw hp he => simp [hw.digits.nul_not_mem, hp.nul_not_mem, he.nul_not_mem]

theorem ScalarText.nul_not_mem {v : Json} {text : Text} (h : ScalarText v text) :
    nul ∉ text := by
  cases h with
  | word hw =>
    have hall : ∀ word ∈ words.map Prod.fst, nul ∉ word := by decide
    exact hall text (List.mem_map_of_mem hw)
  | least => decide
  | positive hu => exact hu.nul_not_mem
  | negative hu => simp [hu.nul_not_mem]

mutual

theorem Spells.nul_not_mem {v : Json} {text : Text} : Spells v text → nul ∉ text
  | .scalar h => h.nul_not_mem
  | .string h => by simp [h.nul_not_mem]
  | .emptyArray hb => by simp [nul_not_mem_blanks hb]
  | .array hb h => by simp [nul_not_mem_blanks hb, h.nul_not_mem]
  | .emptyObject hb => by simp [nul_not_mem_blanks hb]
  | .object hb h => by simp [nul_not_mem_blanks hb, h.nul_not_mem]

theorem SpellsItems.nul_not_mem {items : List Json} {text : Text} :
    SpellsItems items text → nul ∉ text
  | .one h hb => by simp [nul_not_mem_blanks hb, h.nul_not_mem]
  | .more h hb hb' hs => by
    simp [nul_not_mem_blanks hb, nul_not_mem_blanks hb', h.nul_not_mem, hs.nul_not_mem]

theorem SpellsMember.nul_not_mem {member : Text × Json} {text : Text} :
    SpellsMember member text → nul ∉ text
  | .mk hn hb hb' h => by
    simp [hn.nul_not_mem, nul_not_mem_blanks hb, nul_not_mem_blanks hb', h.nul_not_mem]

theorem SpellsMembers.nul_not_mem {members : List (Text × Json)} {text : Text} :
    SpellsMembers members text → nul ∉ text
  | .one h hb => by simp [nul_not_mem_blanks hb, h.nul_not_mem]
  | .more h hb hb' hs => by
    simp [nul_not_mem_blanks hb, nul_not_mem_blanks hb', h.nul_not_mem, hs.nul_not_mem]

end

theorem IsSpellingOf.nul_not_mem {v : Json} {text : Text} (h : IsSpellingOf v text) :
    nul ∉ text := by
  obtain ⟨b, inside, b', hb, hv, hb', rfl⟩ := h
  simp [nul_not_mem_blanks hb, hv.nul_not_mem, nul_not_mem_blanks hb']

/-! ## Texts in UTF-8 -/

theorem zero_ne_ofNat {n : Nat} (hpos : 0 < n) (hlt : n < 256) :
    (0 : UInt8) ≠ UInt8.ofNat n := by
  intro h
  have hn := congrArg UInt8.toNat h
  rw [UInt8.toNat_ofNat', Nat.mod_eq_of_lt hlt] at hn
  exact Nat.ne_of_lt hpos hn

theorem toNat_pos_of_ne_nul {c : Char} (h : c ≠ '\x00') : 0 < c.toNat := by
  refine Nat.pos_of_ne_zero ?_
  intro he
  exact h (by rw [← Char.ofNat_toNat c, he])

/-- Only the NUL character has a zero byte. -/
theorem zero_not_mem_utf8EncodeChar {c : Char} (h : c ≠ '\x00') :
    0 ∉ String.utf8EncodeChar c := by
  have hc : c.val.toNat = c.toNat := rfl
  have hpos : 0 < c.toNat := toNat_pos_of_ne_nul h
  unfold String.utf8EncodeChar
  simp only [hc]
  split
  · simp only [List.mem_singleton]
    exact zero_ne_ofNat hpos (by omega)
  · split
    · simp only [List.mem_cons, List.not_mem_nil, or_false, not_or]
      exact ⟨zero_ne_ofNat (by omega) (by omega), zero_ne_ofNat (by omega) (by omega)⟩
    · split
      · simp only [List.mem_cons, List.not_mem_nil, or_false, not_or]
        exact ⟨zero_ne_ofNat (by omega) (by omega), zero_ne_ofNat (by omega) (by omega),
          zero_ne_ofNat (by omega) (by omega)⟩
      · simp only [List.mem_cons, List.not_mem_nil, or_false, not_or]
        exact ⟨zero_ne_ofNat (by omega) (by omega), zero_ne_ofNat (by omega) (by omega),
          zero_ne_ofNat (by omega) (by omega), zero_ne_ofNat (by omega) (by omega)⟩

theorem zero_not_mem_encode {cs : List Char} (h : '\x00' ∉ cs) : 0 ∉ Utf8.encode cs := by
  intro hm
  obtain ⟨c, hc, hb⟩ := List.mem_flatMap.1 hm
  refine zero_not_mem_utf8EncodeChar ?_ hb
  intro he
  exact h (he ▸ hc)

/-- No mark begins with an ASCII character. -/
theorem ofMark?_of_ascii {a : UInt8} (ha : a.toNat < 128) (hzero : a ≠ 0) (rest : Bytes) :
    Encoding.ofMark? (a :: rest) = none := by
  have hne : ∀ b : UInt8, 128 ≤ b.toNat → b ≠ a := by
    intro b hb he
    subst he
    omega
  simp [Encoding.ofMark?, Encoding.marks, hzero.symm, hne 0xFF (by decide), hne 0xFE (by decide),
    hne 0xEF (by decide)]

/-- Bytes without zero that begin with an ASCII character are taken for UTF-8. -/
theorem detect_of_zero_not_mem {a : UInt8} {rest : Bytes} (ha : a.toNat < 128)
    (h : 0 ∉ a :: rest) : Encoding.detect (a :: rest) = (.utf8, a :: rest) := by
  rw [List.mem_cons, not_or] at h
  have ha0 : a ≠ 0 := fun e => h.1 e.symm
  have hzeros : Encoding.ofZeros (a :: rest) = .utf8 := by
    match rest, h.2 with
    | [], _ => rfl
    | [b], hr =>
      have hb0 : b ≠ 0 := fun e => hr (e ▸ List.mem_cons_self)
      simp [Encoding.ofZeros, ha0, hb0]
    | [b, c], _ => rfl
    | b :: c :: d :: rest, hr =>
      have hb0 : b ≠ 0 := fun e => hr (e ▸ List.mem_cons_self)
      simp [Encoding.ofZeros, ha0, hb0]
  rw [Encoding.detect, ofMark?_of_ascii ha ha0, hzeros]
  rfl

/-- The first code point of a text of a value is an ASCII character. -/
theorem IsSpellingOf.exists_ascii {v : Json} {text : Text} (h : IsSpellingOf v text) :
    ∃ p rest, text = p :: rest ∧ p.toNat < 128 := by
  obtain ⟨b, inside, b', hb, hv, -, rfl⟩ := h
  cases b with
  | nil =>
    obtain ⟨p, rest, rfl, hp⟩ := hv.exists_begin
    exact ⟨p, rest ++ b', rfl, hp.ascii⟩
  | cons p b =>
    have hs := hb p List.mem_cons_self
    refine ⟨p, b ++ (inside ++ b'), rfl, ?_⟩
    simp only [isSpace, Bool.or_eq_true, beq_iff_eq] at hs
    rcases hs with ((rfl | rfl) | rfl) | rfl <;> decide

theorem IsSpellingOf.exists_ascii_char {v : Json} {cs : List Char}
    (h : IsSpellingOf v (.ofChars cs)) : ∃ c rest, cs = c :: rest ∧ c.toNat < 128 := by
  obtain ⟨p, rest, htext, hp⟩ := h.exists_ascii
  cases cs with
  | nil => exact absurd htext (by simp)
  | cons c cs =>
    obtain ⟨rfl, -⟩ := List.cons.inj htext
    exact ⟨c, cs, rfl, hp⟩

theorem IsSpellingOf.nul_not_mem_chars {v : Json} {cs : List Char}
    (h : IsSpellingOf v (.ofChars cs)) : '\x00' ∉ cs :=
  fun hm => h.nul_not_mem (List.mem_map_of_mem hm)

theorem encode_cons_of_ascii {c : Char} (h : c.toNat < 128) (cs : List Char) :
    Utf8.encode (c :: cs) = UInt8.ofNat c.toNat :: Utf8.encode cs := by
  have hc : c.val.toNat ≤ 127 := Nat.le_of_lt_succ h
  rw [Utf8.encode, List.flatMap_cons, String.utf8EncodeChar]
  simp only [hc, if_true]
  rfl

theorem toNat_ofNat_of_ascii {c : Char} (h : c.toNat < 128) :
    (UInt8.ofNat c.toNat).toNat = c.toNat := by
  rw [UInt8.toNat_ofNat', Nat.mod_eq_of_lt (by omega)]

/-- **A text of a value, sent as UTF-8, is read as that value.** -/
theorem ofBytes?_of_isSpellingOf {v : Json} {text : List Char}
    (h : IsSpellingOf v (.ofChars text)) : ofBytes? (Utf8.encode text) = some v := by
  obtain ⟨c, rest, rfl, hc⟩ := h.exists_ascii_char
  have hzero := zero_not_mem_encode h.nul_not_mem_chars
  have hbytes := encode_cons_of_ascii hc rest
  have ha : (UInt8.ofNat c.toNat).toNat < 128 := by
    rw [toNat_ofNat_of_ascii hc]
    exact hc
  have hdetect : Encoding.detect (Utf8.encode (c :: rest)) = (.utf8, Utf8.encode (c :: rest)) := by
    rw [hbytes] at hzero ⊢
    exact detect_of_zero_not_mem ha hzero
  rw [ofBytes?, hdetect]
  show (Utf8.decodeLoose? (Utf8.encode (c :: rest))).bind parseText? = some v
  rw [Utf8.decodeLoose?_encode]
  exact parseText?_eq_some_iff.2 h

theorem ofBytes?_of_isTextOf {v : Json} {text : List Char} (h : IsTextOf v (.ofChars text)) :
    ofBytes? (Utf8.encode text) = some v :=
  ofBytes?_of_isSpellingOf h.isSpellingOf

end CatalogCache.Json
