import CatalogCache.Proofs.JsonTexts
import CatalogCache.Json.Printer
import Mathlib.Tactic.SplitIfs

/-!
# What is printed is read back

The printer writes one of the texts that stand for a value, as long as the value holds no
numbers, no surrogates and no name twice in an object (`isTextOf_print`). So the reader gives the
value back, also when the text was sent as UTF-8 with blank space after it, as the answers of the
service are (`ofBytes?_encode_print`). All that is printed for such a value is ASCII
(`isAscii_print`), so its bytes are too (`lt_of_mem_encode`).
-/

namespace CatalogCache.Json

theorem fourDigits?_digits {u : Nat} (h : u < 0x10000) :
    ∃ a b c d, Hex.digits 4 u = [a, b, c, d] ∧ fourDigits? a b c d = some u := by
  refine ⟨Hex.lower (u / 16 / 16 / 16 % 16), Hex.lower (u / 16 / 16 % 16),
    Hex.lower (u / 16 % 16), Hex.lower (u % 16), rfl, ?_⟩
  have hd : ∀ n, hexValue? (.char (Hex.lower (n % 16))) = some (n % 16) :=
    fun n => Hex.value?_lower (Nat.mod_lt n (by decide))
  simp only [fourDigits?, hd, Option.some.injEq]
  omega

theorem unitTexts_unitEscape {us : List Nat} (h : ∀ u ∈ us, u < 0x10000) :
    UnitTexts us (.ofChars (us.flatMap unitEscape)) := by
  induction us with
  | nil => exact .nil
  | cons u us ih =>
    obtain ⟨a, b, c, d, hd, hu⟩ := fourDigits?_digits (h u List.mem_cons_self)
    rw [List.flatMap_cons, unitEscape, hd]
    exact .cons hu (ih fun v hv => h v (List.mem_cons_of_mem u hv))

theorem charText_escaped (c : Char) : CharText c (.ofChars (escaped c)) := by
  unfold escaped
  split_ifs with h₁ h₂ h₃ h₄ h₅ h₆ h₇ h₈
  · exact .letter (by rw [h₁]; rfl)
  · exact .letter (by rw [h₂]; rfl)
  · exact .letter (by rw [h₃]; rfl)
  · exact .letter (by rw [h₄]; rfl)
  · exact .letter (by rw [h₅]; rfl)
  · exact .letter (by rw [h₆]; rfl)
  · exact .letter (by rw [h₇]; rfl)
  · exact .plain h₁ h₂ h₈.1
  · exact .units (unitTexts_unitEscape (Utf16.units_lt c))

theorem charTexts_escaped (cs : List Char) : CharTexts cs (.ofChars (cs.flatMap escaped)) := by
  induction cs with
  | nil => exact .nil
  | cons c cs ih =>
    rw [List.flatMap_cons, Text.ofChars_append]
    exact .cons (charText_escaped c) ih

/-- A text without surrogates is printed character by character. -/
theorem stringText_ofChars (cs : List Char) :
    stringText (.ofChars cs) = '"' :: (cs.flatMap escaped ++ ['"']) := by
  rw [stringText, Text.ofChars, List.flatMap_map]
  rfl

theorem valueText_stringText (cs : List Char) :
    ValueText (.string (.ofChars cs)) (.ofChars (stringText (.ofChars cs))) := by
  rw [stringText_ofChars, Text.ofChars_cons, Text.ofChars_append]
  exact .string (charTexts_escaped cs)

/-! ## Values -/

mutual

/-- A value that holds no numbers, no surrogates, and no name twice in an object. -/
def IsPlain : Json → Prop
  | .null | .bool _ => True
  | .string s => ∃ cs, s = .ofChars cs
  | .int _ | .float _ => False
  | .array items => ArePlain items
  | .object members => (Keyed.keys members).Nodup ∧ HavePlain members

/-- Some such values. -/
def ArePlain : List Json → Prop
  | [] => True
  | v :: rest => IsPlain v ∧ ArePlain rest

/-- Some members with such values. -/
def HavePlain : List (Text × Json) → Prop
  | [] => True
  | (name, v) :: rest => (∃ cs, name = .ofChars cs) ∧ IsPlain v ∧ HavePlain rest

end

theorem isPlain_string {text : Text} (h : text.IsString) : IsPlain (.string text) :=
  Text.isString_iff_exists_chars.1 h

theorem arePlain_map_string {texts : List Text} (h : ∀ text ∈ texts, text.IsString) :
    ArePlain (texts.map .string) := by
  induction texts with
  | nil => trivial
  | cons text texts ih =>
    exact ⟨isPlain_string (h text List.mem_cons_self),
      ih fun text' ht => h text' (List.mem_cons_of_mem _ ht)⟩

/-- An object with one member is plain if the value of the member is. -/
theorem isPlain_member (name : String) {v : Json} (hv : IsPlain v) :
    IsPlain (.object [((name : Text), v)]) :=
  ⟨List.nodup_cons.2 ⟨List.not_mem_nil, List.nodup_nil⟩, ⟨name.toList, rfl⟩, hv, trivial⟩

section Print

variable {b b' : List Char}

theorem memberText_print (name : List Char) {v : Json} (hb' : Blanks (.ofChars b'))
    (h : ValueText v (.ofChars (print ⟨',' :: b, ':' :: b'⟩ v))) :
    MemberText (.ofChars name, v)
      (.ofChars (stringText (.ofChars name) ++ (':' :: b') ++ print ⟨',' :: b, ':' :: b'⟩ v)) := by
  have hm := MemberText.mk (charTexts_escaped name) blanks_nil hb' h
  simpa [stringText_ofChars] using hm

-- the recursion is that of the printer: over a value, its items and its members
mutual

theorem valueText_print (hb : Blanks (.ofChars b)) (hb' : Blanks (.ofChars b')) :
    (v : Json) → IsPlain v → ValueText v (.ofChars (print ⟨',' :: b, ':' :: b'⟩ v))
  | .null, _ => .null
  | .bool true, _ => .true
  | .bool false, _ => .false
  | .string _, ⟨cs, rfl⟩ => valueText_stringText cs
  | .array [], _ => .emptyArray blanks_nil
  | .array (v :: rest), h => by
    have ht := ValueText.array blanks_nil
      (itemTexts_print hb hb' (v :: rest) (List.cons_ne_nil v rest) h)
    simpa [print] using ht
  | .object [], _ => .emptyObject blanks_nil
  | .object (m :: rest), h => by
    have ht := ValueText.object blanks_nil
      (memberTexts_print hb hb' (m :: rest) (List.cons_ne_nil m rest) h.2)
    rw [Keyed.ofPairs_of_nodup h.1] at ht
    simpa [print] using ht

theorem itemTexts_print (hb : Blanks (.ofChars b)) (hb' : Blanks (.ofChars b')) :
    (items : List Json) → items ≠ [] → ArePlain items →
      ItemTexts items (.ofChars (printItems ⟨',' :: b, ':' :: b'⟩ items))
  | [], hne, _ => absurd rfl hne
  | [v], _, h => by
    have ht := ItemTexts.one (valueText_print hb hb' v h.1) blanks_nil
    rw [List.append_nil] at ht
    exact ht
  | v :: w :: rest, _, h => by
    have hrest := itemTexts_print hb hb' (w :: rest) (List.cons_ne_nil w rest) h.2
    have ht := ItemTexts.more (valueText_print hb hb' v h.1) blanks_nil hb hrest
    simpa [printItems] using ht

theorem memberTexts_print (hb : Blanks (.ofChars b)) (hb' : Blanks (.ofChars b')) :
    (members : List (Text × Json)) → members ≠ [] → HavePlain members →
      MemberTexts members (.ofChars (printMembers ⟨',' :: b, ':' :: b'⟩ members))
  | [], hne, _ => absurd rfl hne
  | [(_, v)], _, ⟨⟨name, rfl⟩, hv, _⟩ => by
    have hm := memberText_print name hb' (valueText_print hb hb' v hv)
    have ht := MemberTexts.one hm blanks_nil
    rw [List.append_nil] at ht
    exact ht
  | (_, v) :: w :: rest, _, ⟨⟨name, rfl⟩, hv, hr⟩ => by
    have hm := memberText_print name hb' (valueText_print hb hb' v hv)
    have hrest := memberTexts_print hb hb' (w :: rest) (List.cons_ne_nil w rest) hr
    have ht := MemberTexts.more hm blanks_nil hb hrest
    simpa [printMembers] using ht

end

/-- **What is printed is a text of the value,** also with blank space after it. -/
theorem isTextOf_print (hb : Blanks (.ofChars b)) (hb' : Blanks (.ofChars b')) {v : Json}
    (h : IsPlain v) {after : List Char} (ha : Blanks (.ofChars after)) :
    IsTextOf v (.ofChars (print ⟨',' :: b, ':' :: b'⟩ v ++ after)) :=
  ⟨[], _, _, blanks_nil, valueText_print hb hb' v h, ha, by rw [Text.ofChars_append]; rfl⟩

end Print

/-- An answer in JSON is read back. -/
theorem ofBytes?_encode_print {v : Json} (h : IsPlain v) :
    ofBytes? (Utf8.encode (print compact v ++ ['\n'])) = some v := by
  have hnil : Blanks (.ofChars []) := blanks_nil
  refine ofBytes?_of_isTextOf (isTextOf_print hnil hnil h ?_)
  intro c hc
  rw [List.mem_singleton.1 hc]
  rfl

/-! ## What is printed is ASCII -/

/-- A text of ASCII characters. -/
def IsAscii (cs : List Char) : Prop := ∀ c ∈ cs, c.toNat < 128

instance (cs : List Char) : Decidable (IsAscii cs) :=
  List.decidableBAll (fun c : Char => c.toNat < 128) cs

@[simp] theorem isAscii_nil : IsAscii [] := fun _ hc => absurd hc List.not_mem_nil

@[simp] theorem isAscii_cons {c : Char} {cs : List Char} :
    IsAscii (c :: cs) ↔ c.toNat < 128 ∧ IsAscii cs := List.forall_mem_cons

@[simp] theorem isAscii_append {cs ds : List Char} :
    IsAscii (cs ++ ds) ↔ IsAscii cs ∧ IsAscii ds := List.forall_mem_append

theorem isAscii_flatMap {α : Type} {xs : List α} {f : α → List Char} (h : ∀ x, IsAscii (f x)) :
    IsAscii (xs.flatMap f) := by
  intro c hc
  obtain ⟨x, -, hcx⟩ := List.mem_flatMap.1 hc
  exact h x c hcx

theorem isAscii_digits (width n : Nat) : IsAscii (Hex.digits width n) := by
  have table : ∀ m < 16, (Hex.lower m).toNat < 128 := by decide
  induction width generalizing n with
  | zero => exact isAscii_nil
  | succ width ih => simp [Hex.digits, ih, table (n % 16) (Nat.mod_lt n (by decide))]

theorem isAscii_unitEscape (u : Nat) : IsAscii (unitEscape u) := by
  simp [unitEscape, isAscii_digits]

theorem isAscii_escaped (c : Char) : IsAscii (escaped c) := by
  unfold escaped
  split_ifs with h₁ h₂ h₃ h₄ h₅ h₆ h₇ h₈
  -- the escapes of a letter come first
  iterate 7 decide
  · rw [isAscii_cons]
    exact ⟨by omega, isAscii_nil⟩
  · exact isAscii_flatMap isAscii_unitEscape

theorem isAscii_escapedPoint (p : CodePoint) : IsAscii (escapedPoint p) := by
  cases p with
  | char c => exact isAscii_escaped c
  | surrogate n => exact isAscii_unitEscape _

theorem isAscii_stringText (s : Text) : IsAscii (stringText s) := by
  simp [stringText, isAscii_flatMap isAscii_escapedPoint]

section Ascii

variable {spacing : Spacing}

mutual

theorem isAscii_print (hcomma : IsAscii spacing.comma) (hcolon : IsAscii spacing.colon) :
    (v : Json) → IsPlain v → IsAscii (print spacing v)
  | .null, _ => by simp [print]
  | .bool true, _ => by simp [print]
  | .bool false, _ => by simp [print]
  | .string s, _ => by simp [print, isAscii_stringText]
  | .array items, h => by simp [print, isAscii_printItems hcomma hcolon items h]
  | .object members, h => by simp [print, isAscii_printMembers hcomma hcolon members h.2]

theorem isAscii_printItems (hcomma : IsAscii spacing.comma) (hcolon : IsAscii spacing.colon) :
    (items : List Json) → ArePlain items → IsAscii (printItems spacing items)
  | [], _ => by simp [printItems]
  | [v], h => by simp [printItems, isAscii_print hcomma hcolon v h.1]
  | v :: w :: rest, h => by
    have hrest := isAscii_printItems hcomma hcolon (w :: rest) h.2
    simp [printItems, isAscii_print hcomma hcolon v h.1, hcomma, hrest]

theorem isAscii_printMembers (hcomma : IsAscii spacing.comma) (hcolon : IsAscii spacing.colon) :
    (members : List (Text × Json)) → HavePlain members → IsAscii (printMembers spacing members)
  | [], _ => by simp [printMembers]
  | [(name, v)], h => by
    simp [printMembers, isAscii_stringText, hcolon, isAscii_print hcomma hcolon v h.2.1]
  | (name, v) :: m :: rest, h => by
    have hrest := isAscii_printMembers hcomma hcolon (m :: rest) h.2.2
    simp [printMembers, isAscii_stringText, hcolon, isAscii_print hcomma hcolon v h.2.1, hcomma,
      hrest]

end

end Ascii

/-- The bytes of an ASCII text are those of its characters. -/
theorem lt_of_mem_encode {cs : List Char} (h : IsAscii cs) {b : UInt8}
    (hb : b ∈ Utf8.encode cs) : b.toNat < 128 := by
  induction cs with
  | nil => exact absurd hb List.not_mem_nil
  | cons c cs ih =>
    obtain ⟨hc, hcs⟩ := isAscii_cons.1 h
    rw [encode_cons_of_ascii hc] at hb
    rcases List.mem_cons.1 hb with rfl | hb
    · rw [toNat_ofNat_of_ascii hc]
      exact hc
    · exact ih hcs hb

end CatalogCache.Json
