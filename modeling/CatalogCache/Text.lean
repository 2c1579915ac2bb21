/-!
# Texts

A text is a row of code points. Nearly all of them are characters. The others are the
surrogates, the numbers of which UTF-16 takes two for one character beyond U+FFFF. A JSON text
can name one of them alone, and then it stays where it is: it is kept, compared and written as
JSON again like any other code point. Only bytes cannot be made of it (`Text.chars?`).

Settings, paths and queries hold characters only and are kept as strings. Every string is a
text (`Text.ofString`).
-/

namespace CatalogCache

/-- What stands at a place of a text. -/
inductive CodePoint where
  | char (c : Char)
  /-- A surrogate without partner, counted from the first surrogate. -/
  | surrogate (n : Fin 0x800)
  deriving DecidableEq, Repr

namespace CodePoint

instance : Coe Char CodePoint := ⟨.char⟩

/-- The number of a code point. -/
def toNat : CodePoint → Nat
  | .char c => c.toNat
  | .surrogate n => 0xD800 + n

/-- Whether a number is that of a surrogate. -/
def isSurrogate (n : Nat) : Bool := 0xD800 ≤ n && n < 0xE000

/-- The code point of a number. -/
def ofNat (n : Nat) : CodePoint :=
  if isSurrogate n then .surrogate (Fin.ofNat 0x800 (n - 0xD800)) else .char (Char.ofNat n)

theorem isSurrogate_toNat_char (c : Char) : isSurrogate c.toNat = false := by
  have hv : c.toNat < 0xD800 ∨ (0xDFFF < c.toNat ∧ c.toNat < 0x110000) := c.valid
  simp only [isSurrogate, Bool.and_eq_false_iff, decide_eq_false_iff_not]
  omega

@[simp] theorem ofNat_toNat_char (c : Char) : ofNat c.toNat = .char c := by
  rw [ofNat, isSurrogate_toNat_char, Char.ofNat_toNat]
  rfl

/-- A surrogate is read back from its number too. -/
@[simp] theorem ofNat_toNat (p : CodePoint) : ofNat p.toNat = p := by
  cases p with
  | char c => exact ofNat_toNat_char c
  | surrogate n =>
    have hs : isSurrogate (0xD800 + n) = true := by
      simp only [isSurrogate, Bool.and_eq_true, decide_eq_true_eq]
      omega
    have hn : Fin.ofNat 0x800 (0xD800 + n - 0xD800) = n := by
      rw [Nat.add_sub_cancel_left]
      exact Fin.ofNat_val_eq_self n
    rw [toNat, ofNat, hs, hn]
    rfl

end CodePoint

/-- A text: its code points in order. -/
abbrev Text := List CodePoint

namespace Text

/-- Texts are compared like all other keys, by their decidable equality. -/
instance : BEq Text := instBEqOfDecidableEq

/-- The text of some characters. -/
def ofChars (cs : List Char) : Text := cs.map .char

/-- The text of a string. -/
@[coe] def ofString (s : String) : Text := ofChars s.toList

instance : Coe String Text := ⟨ofString⟩

/-- The characters of a text in which no surrogate stands. -/
def chars? : Text → Option (List Char)
  | [] => some []
  | .char c :: rest => (chars? rest).map (c :: ·)
  | .surrogate _ :: _ => none

/-- The string of a text in which no surrogate stands. -/
def string? (text : Text) : Option String := text.chars?.map String.ofList

@[simp] theorem ofChars_nil : ofChars [] = [] := rfl

@[simp] theorem ofChars_cons (c : Char) (cs : List Char) :
    ofChars (c :: cs) = .char c :: ofChars cs := rfl

@[simp] theorem ofChars_append (cs ds : List Char) :
    ofChars (cs ++ ds) = ofChars cs ++ ofChars ds := List.map_append

@[simp] theorem length_ofChars (cs : List Char) : (ofChars cs).length = cs.length :=
  List.length_map _

@[simp] theorem ofChars_inj {cs ds : List Char} : ofChars cs = ofChars ds ↔ cs = ds :=
  List.map_inj_right fun _ _ h => CodePoint.char.inj h

@[simp] theorem ofChars_eq_nil_iff {cs : List Char} : ofChars cs = [] ↔ cs = [] :=
  List.map_eq_nil_iff

@[simp] theorem mem_ofChars {c : Char} {cs : List Char} :
    CodePoint.char c ∈ ofChars cs ↔ c ∈ cs := by
  simp [ofChars]

@[simp] theorem drop_ofChars (n : Nat) (cs : List Char) :
    (ofChars cs).drop n = ofChars (cs.drop n) := List.map_drop.symm

/-- The texts without surrogates are those of some characters. -/
theorem chars?_eq_some_iff {text : Text} {cs : List Char} :
    chars? text = some cs ↔ text = ofChars cs := by
  constructor
  · intro h
    induction text generalizing cs with
    | nil =>
      obtain rfl := Option.some.inj h
      rfl
    | cons p text ih =>
      cases p with
      | surrogate n => exact absurd h (by simp [chars?])
      | char c =>
        obtain ⟨rest, hrest, rfl⟩ := Option.map_eq_some_iff.1 h
        rw [ih hrest, ofChars_cons]
  · rintro rfl
    induction cs with
    | nil => rfl
    | cons c cs ih => rw [ofChars_cons, chars?, ih, Option.map_some]

@[simp] theorem chars?_ofChars (cs : List Char) : chars? (ofChars cs) = some cs :=
  chars?_eq_some_iff.2 rfl

@[simp] theorem ofString_inj {s t : String} : ofString s = ofString t ↔ s = t := by
  rw [ofString, ofString, ofChars_inj, String.toList_inj]

@[simp] theorem ofString_append (s t : String) :
    ofString (s ++ t) = ofString s ++ ofString t := by
  rw [ofString, String.toList_append, ofChars_append]
  rfl

@[simp] theorem ofString_ofList (cs : List Char) : ofString (String.ofList cs) = ofChars cs := by
  rw [ofString, String.toList_ofList]

@[simp] theorem ofString_eq_nil_iff {s : String} : ofString s = [] ↔ s = "" := by
  rw [ofString, ofChars_eq_nil_iff, String.toList_eq_nil_iff]

/-- The texts without surrogates are those of strings. -/
theorem string?_eq_some_iff {text : Text} {s : String} :
    string? text = some s ↔ text = ofString s := by
  rw [string?, Option.map_eq_some_iff]
  constructor
  · rintro ⟨cs, hcs, rfl⟩
    rw [ofString_ofList]
    exact chars?_eq_some_iff.1 hcs
  · rintro rfl
    exact ⟨s.toList, chars?_ofChars _, String.ofList_toList⟩

@[simp] theorem string?_ofString (s : String) : string? (ofString s) = some s :=
  string?_eq_some_iff.2 rfl

/-! ## Texts without surrogates -/

/-- A text of characters only. -/
def IsString (text : Text) : Prop := ∃ s : String, text = s

theorem isString_ofString (s : String) : IsString s := ⟨s, rfl⟩

theorem isString_ofChars (cs : List Char) : IsString (ofChars cs) :=
  ⟨String.ofList cs, (ofString_ofList cs).symm⟩

theorem isString_iff_exists_chars {text : Text} : IsString text ↔ ∃ cs, text = ofChars cs := by
  constructor
  · rintro ⟨s, rfl⟩
    exact ⟨s.toList, rfl⟩
  · rintro ⟨cs, rfl⟩
    exact isString_ofChars cs

/-- It takes every single code point. -/
theorem isString_iff_forall {text : Text} :
    IsString text ↔ ∀ p ∈ text, ∃ c, p = CodePoint.char c := by
  rw [isString_iff_exists_chars]
  constructor
  · rintro ⟨cs, rfl⟩ p hp
    obtain ⟨c, -, rfl⟩ := List.mem_map.1 hp
    exact ⟨c, rfl⟩
  · intro h
    induction text with
    | nil => exact ⟨[], rfl⟩
    | cons p text ih =>
      obtain ⟨c, rfl⟩ := h p List.mem_cons_self
      obtain ⟨cs, rfl⟩ := ih fun q hq => h q (List.mem_cons_of_mem _ hq)
      exact ⟨c :: cs, rfl⟩

theorem isString_append {s t : Text} : IsString (s ++ t) ↔ IsString s ∧ IsString t := by
  rw [isString_iff_forall, isString_iff_forall, isString_iff_forall, List.forall_mem_append]

/-- What has no string has no bytes either. -/
theorem chars?_eq_none_iff {text : Text} : chars? text = none ↔ ¬ IsString text := by
  rw [isString_iff_exists_chars, Option.eq_none_iff_forall_not_mem]
  simp only [Option.mem_def, chars?_eq_some_iff, not_exists]

end Text

end CatalogCache
