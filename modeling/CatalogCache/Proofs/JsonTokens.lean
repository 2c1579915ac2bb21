import CatalogCache.Json.Parser
import Mathlib.Data.List.TakeWhile

/-!
# The tokens of JSON texts

What a string, a number or a word looks like in a JSON text, and what it stands for, said
without the reader. For each kind of token the two directions are proved: the reader takes
every token for what it stands for, and what it takes is such a token.

A string is a row of parts, each written by an escape or by a code point that stands for
itself; only the row as a whole is turned into a text, so two escapes can make one
character. A number may be followed by anything but a character that would go on with it
(`Ends`): the reader takes as much as it can.
-/

namespace CatalogCache.Json

/-! ## Blank space -/

/-- A row of blank characters. -/
def Blanks (cs : Text) : Prop := ∀ c ∈ cs, isSpace c = true

theorem blanks_nil : Blanks [] := by
  intro c h
  exact absurd h List.not_mem_nil

theorem skip_append {b : Text} (h : Blanks b) (cs : Text) : skip (b ++ cs) = skip cs :=
  List.dropWhile_append_of_pos h

theorem skip_cons {c : CodePoint} (h : isSpace c = false) (cs : Text) :
    skip (c :: cs) = c :: cs := by
  rw [skip, List.dropWhile_cons, h]
  rfl

theorem skip_blanks {b : Text} (h : Blanks b) : skip b = [] := by
  have hb := skip_append h []
  rw [List.append_nil] at hb
  exact hb

/-- What is skipped is blank space. -/
theorem exists_blanks_skip (cs : Text) : ∃ b, Blanks b ∧ cs = b ++ skip cs := by
  refine ⟨cs.takeWhile isSpace, ?_, List.takeWhile_append_dropWhile.symm⟩
  intro c hc
  exact List.mem_takeWhile_imp hc

/-! ## Strings -/

/-- The ways to write some parts of a text inside a string. -/
inductive PartsText : List Utf16.Part → Text → Prop where
  | nil : PartsText [] []
  /-- A code point that stands for itself. -/
  | plain {c : CodePoint} {parts : List Utf16.Part} {text : Text} :
      c ≠ .char '"' → c ≠ .char '\\' → 32 ≤ c.toNat → PartsText parts text →
      PartsText (.whole c :: parts) (c :: text)
  /-- A character by its letter. -/
  | letter {e : CodePoint} {c : Char} {parts : List Utf16.Part} {text : Text} :
      letterEscape? e = some c → PartsText parts text →
      PartsText (.whole (.char c) :: parts) (.char '\\' :: e :: text)
  /-- A unit by its four digits. -/
  | unit {u : Nat} {a b c d : CodePoint} {parts : List Utf16.Part} {text : Text} :
      fourDigits? a b c d = some u → PartsText parts text →
      PartsText (.unit u :: parts) (.char '\\' :: .char 'u' :: a :: b :: c :: d :: text)

/-- The ways to write the inside of a string. -/
def StringText (s : Text) (text : Text) : Prop :=
  ∃ parts, PartsText parts text ∧ s = Utf16.decode parts

theorem ne_u_of_letterEscape? {e : CodePoint} {c : Char} (h : letterEscape? e = some c) :
    e ≠ .char 'u' := by
  intro he
  subst he
  exact absurd h (by simp [letterEscape?])

theorem stringParts?_of_partsText {parts : List Utf16.Part} {text : Text}
    (h : PartsText parts text) (rest : Text) :
    stringParts? (text ++ .char '"' :: rest) = some (parts, rest) := by
  induction h with
  | nil => rw [List.nil_append, stringParts?.eq_def]; exact if_pos rfl
  | @plain c parts text hq hb h32 _ ih =>
    have hn : ¬ c.toNat < 32 := Nat.not_lt.2 h32
    rw [List.cons_append, stringParts?.eq_def]
    simp [hq, hb, hn, ih, consPart]
  | letter he _ ih =>
    rw [List.cons_append, List.cons_append, stringParts?.eq_def]
    simp [ne_u_of_letterEscape? he, he, ih, consPart]
  | unit hd _ ih =>
    simp only [List.cons_append]
    rw [stringParts?.eq_def]
    simp [hd, ih, consPart]

theorem eq_some_of_consPart {part : Utf16.Part} {read : Option (List Utf16.Part × Text)}
    {parts : List Utf16.Part} {rest : Text} (h : consPart part read = some (parts, rest)) :
    ∃ more, read = some (more, rest) ∧ parts = part :: more := by
  cases read with
  | none => exact absurd h (by simp [consPart])
  | some found =>
    obtain ⟨more, rest'⟩ := found
    simp only [consPart, Option.some.injEq, Prod.mk.injEq] at h
    obtain ⟨rfl, rfl⟩ := h
    exact ⟨more, rfl, rfl⟩

theorem exists_partsText {cs : Text} {parts : List Utf16.Part} {rest : Text}
    (h : stringParts? cs = some (parts, rest)) :
    ∃ text, PartsText parts text ∧ cs = text ++ .char '"' :: rest := by
  fun_induction stringParts? cs generalizing parts rest with
  | case1 => exact absurd h (by simp)
  | case2 rest' =>
    simp only [Option.some.injEq, Prod.mk.injEq] at h
    obtain ⟨rfl, rfl⟩ := h
    exact ⟨[], .nil, rfl⟩
  | case3 => exact absurd h (by simp)
  | case4 x₁ x₂ x₃ x₄ rest₃ u hu _ ih =>
    obtain ⟨more, hread, rfl⟩ := eq_some_of_consPart h
    obtain ⟨text, ht, rfl⟩ := ih hread
    exact ⟨_, .unit hu ht, rfl⟩
  | case5 => exact absurd h (by simp)
  | case6 => exact absurd h (by simp)
  | case7 e rest₂ _ x hx _ ih =>
    obtain ⟨more, hread, rfl⟩ := eq_some_of_consPart h
    obtain ⟨text, ht, rfl⟩ := ih hread
    exact ⟨_, .letter hx ht, rfl⟩
  | case8 => exact absurd h (by simp)
  | case9 => exact absurd h (by simp)
  | case10 c rest' hq hb hc ih =>
    obtain ⟨more, hread, rfl⟩ := eq_some_of_consPart h
    obtain ⟨text, ht, rfl⟩ := ih hread
    exact ⟨c :: text, .plain hq hb (Nat.not_lt.1 hc) ht, rfl⟩

/-- **A string is read exactly up to its closing quote.** -/
theorem string?_eq_some_iff {cs s rest : Text} :
    string? cs = some (s, rest) ↔ ∃ text, StringText s text ∧ cs = text ++ .char '"' :: rest := by
  constructor
  · intro h
    rw [string?] at h
    split at h
    · rename_i parts rest' hparts
      simp only [Option.some.injEq, Prod.mk.injEq] at h
      obtain ⟨rfl, rfl⟩ := h
      obtain ⟨text, ht, hcs⟩ := exists_partsText hparts
      exact ⟨text, ⟨parts, ht, rfl⟩, hcs⟩
    · exact absurd h (by simp)
  · rintro ⟨text, ⟨parts, ht, rfl⟩, rfl⟩
    rw [string?, stringParts?_of_partsText ht]

/-! ## Digits -/

/-- A row of at least one digit. -/
def Digits (cs : Text) : Prop := cs ≠ [] ∧ ∀ c ∈ cs, isDigit c = true

/-- No digit comes first. -/
def NoDigit (cs : Text) : Prop := ∀ c more, cs = c :: more → isDigit c = false

theorem isDigit_eq_false_of_mem {c : CodePoint} {cs : Text}
    (h : (cs.all fun c => !isDigit c) = true) (hc : c ∈ cs) : isDigit c = false := by
  simpa using List.all_eq_true.1 h c hc

theorem takeWhile_digits {digits rest : Text} (h : ∀ c ∈ digits, isDigit c = true)
    (hr : NoDigit rest) : (digits ++ rest).takeWhile isDigit = digits := by
  rw [List.takeWhile_append_of_pos h]
  cases rest with
  | nil => simp
  | cons c more => rw [List.takeWhile_cons, hr c more rfl]; simp

theorem dropWhile_digits {digits rest : Text} (h : ∀ c ∈ digits, isDigit c = true)
    (hr : NoDigit rest) : (digits ++ rest).dropWhile isDigit = rest := by
  rw [List.dropWhile_append_of_pos h]
  cases rest with
  | nil => rfl
  | cons c more => rw [List.dropWhile_cons, hr c more rfl]; simp

theorem digits_takeWhile {cs : Text} (h : cs.takeWhile isDigit ≠ []) :
    Digits (cs.takeWhile isDigit) := by
  refine ⟨h, ?_⟩
  intro c hc
  exact List.mem_takeWhile_imp hc

theorem Digits.exists_cons {cs : Text} (h : Digits cs) :
    ∃ c more, cs = c :: more ∧ isDigit c = true := by
  cases cs with
  | nil => exact absurd rfl h.1
  | cons c more => exact ⟨c, more, rfl, h.2 c List.mem_cons_self⟩

/-! ## The parts of a number -/

/-- The whole part of a number: a zero, or digits of which the first is no zero. -/
def WholeText (cs : Text) : Prop :=
  cs = [.char '0'] ∨ Digits cs ∧ cs.head? ≠ some (.char '0')

theorem WholeText.digits {cs : Text} (h : WholeText cs) : Digits cs := by
  rcases h with rfl | ⟨h, -⟩
  · exact ⟨by simp, by simp; rfl⟩
  · exact h

theorem whole_append {digits rest : Text} (h : WholeText digits) (hr : NoDigit rest) :
    whole (digits ++ rest) = (digits, rest) := by
  rcases h with rfl | ⟨hd, h0⟩
  · rfl
  · obtain ⟨c, more, rfl, -⟩ := hd.exists_cons
    have hc : c ≠ .char '0' := by simpa using h0
    rw [List.cons_append, whole]
    · rw [← List.cons_append, takeWhile_digits hd.2 hr, dropWhile_digits hd.2 hr]
    · intro rest' he
      exact hc (List.cons.inj he).1

theorem wholeText_of_whole {cs digits rest : Text} (h : whole cs = (digits, rest))
    (hne : digits ≠ []) : WholeText digits ∧ cs = digits ++ rest := by
  unfold whole at h
  split at h
  · obtain ⟨rfl, rfl⟩ := Prod.mk.inj h
    exact ⟨Or.inl rfl, rfl⟩
  · rename_i h0
    obtain ⟨rfl, rfl⟩ := Prod.mk.inj h
    refine ⟨Or.inr ⟨digits_takeWhile hne, ?_⟩, List.takeWhile_append_dropWhile.symm⟩
    intro hhead
    cases cs with
    | nil => exact absurd hhead (by simp)
    | cons c more =>
      rw [List.takeWhile_cons] at hhead
      split at hhead
      · have hc : c = .char '0' := by simpa using hhead
        exact h0 more (by rw [hc])
      · exact absurd hhead (by simp)

theorem fraction?_append {part rest : Text} (h : Digits part) (hr : NoDigit rest) :
    fraction? (.char '.' :: (part ++ rest)) = some (part, rest) := by
  obtain ⟨c, more, rfl, -⟩ := h.exists_cons
  simp only [fraction?, takeWhile_digits h.2 hr, dropWhile_digits h.2 hr]

theorem fraction?_eq_none {cs : Text} (h : ∀ more, cs ≠ .char '.' :: more) :
    fraction? cs = none := by
  unfold fraction?
  split
  · rename_i more
    exact absurd rfl (h more)
  · rfl

theorem digits_of_fraction? {cs part rest : Text} (h : fraction? cs = some (part, rest)) :
    Digits part ∧ cs = .char '.' :: (part ++ rest) := by
  unfold fraction? at h
  split at h
  · rename_i more
    split at h
    · exact absurd h (by simp)
    · rename_i hne
      simp only [Option.some.injEq, Prod.mk.injEq] at h
      obtain ⟨rfl, rfl⟩ := h
      exact ⟨digits_takeWhile hne, by rw [List.takeWhile_append_dropWhile]⟩
  · exact absurd h (by simp)

/-- The ways to write a sign in front of an exponent, and whether it is that of a negative one. -/
inductive SignText : Bool → Text → Prop where
  | none : SignText false []
  | plus : SignText false ['+']
  | minus : SignText true ['-']

/-- A number with its sign. -/
def signed (negative : Bool) (n : Nat) : Int := if negative then -(n : Int) else n

/-- The ways to write an exponent. -/
inductive ExponentText : Int → Text → Prop where
  | mk {mark : CodePoint} {negative : Bool} {sign digits : Text} :
      mark = .char 'e' ∨ mark = .char 'E' → SignText negative sign → Digits digits →
      ExponentText (signed negative (digitsValue digits)) (mark :: (sign ++ digits))

theorem exponentSign_append {negative : Bool} {sign digits : Text}
    (h : SignText negative sign) (hd : Digits digits) (rest : Text) :
    exponentSign (sign ++ (digits ++ rest)) = (negative, digits ++ rest) := by
  cases h with
  | plus => rfl
  | minus => rfl
  | none =>
    obtain ⟨c, more, rfl, hc⟩ := hd.exists_cons
    rw [List.nil_append, List.cons_append, exponentSign]
    · intro rest' he
      rw [(List.cons.inj he).1] at hc
      exact absurd hc (by decide)
    · intro rest' he
      rw [(List.cons.inj he).1] at hc
      exact absurd hc (by decide)

theorem exists_signText {cs rest : Text} {negative : Bool}
    (h : exponentSign cs = (negative, rest)) :
    ∃ sign, SignText negative sign ∧ cs = sign ++ rest := by
  unfold exponentSign at h
  split at h
  · obtain ⟨rfl, rfl⟩ := Prod.mk.inj h
    exact ⟨_, .minus, rfl⟩
  · obtain ⟨rfl, rfl⟩ := Prod.mk.inj h
    exact ⟨_, .plus, rfl⟩
  · obtain ⟨rfl, rfl⟩ := Prod.mk.inj h
    exact ⟨_, .none, rfl⟩

theorem exponent?_append {e : Int} {text rest : Text} (h : ExponentText e text)
    (hr : NoDigit rest) : exponent? (text ++ rest) = some (e, rest) := by
  cases h with
  | @mk mark negative sign digits hm hs hd =>
    have hsign := exponentSign_append hs hd rest
    have htake := takeWhile_digits hd.2 hr
    have hdrop := dropWhile_digits hd.2 hr
    obtain ⟨c, more, rfl, -⟩ := hd.exists_cons
    rw [List.cons_append, List.append_assoc, exponent?, if_pos hm, hsign]
    simp only [htake, hdrop, signed]

theorem exponent?_eq_none {cs : Text}
    (h : ∀ c more, cs = c :: more → c ≠ .char 'e' ∧ c ≠ .char 'E') : exponent? cs = none := by
  cases cs with
  | nil => rfl
  | cons c more =>
    obtain ⟨he, hE⟩ := h c more rfl
    rw [exponent?, if_neg (by rintro (rfl | rfl) <;> contradiction)]

theorem exists_exponentText {cs rest : Text} {e : Int} (h : exponent? cs = some (e, rest)) :
    ∃ text, ExponentText e text ∧ cs = text ++ rest := by
  unfold exponent? at h
  split at h
  · rename_i mark more
    split at h
    · rename_i hm
      split at h
      rename_i negative cs' hs
      split at h
      · exact absurd h (by simp)
      · rename_i hne
        simp only [Option.some.injEq, Prod.mk.injEq] at h
        obtain ⟨rfl, rfl⟩ := h
        obtain ⟨sign, hsign, rfl⟩ := exists_signText hs
        refine ⟨_, .mk hm hsign (digits_takeWhile hne), ?_⟩
        rw [List.cons_append, List.append_assoc, List.takeWhile_append_dropWhile]
    · exact absurd h (by simp)
  · exact absurd h (by simp)

/-! ## Numbers -/

/-- The ways to write a number after its sign. Without fraction and exponent it is an integer,
which may not have too many digits. -/
inductive UnsignedText (negative : Bool) : Json → Text → Prop where
  | int {digits : Text} :
      WholeText digits → digits.length ≤ Decimal.maxDigits →
      UnsignedText negative (.int (signed negative (digitsValue digits))) digits
  | exponent {digits text : Text} {e : Int} :
      WholeText digits → ExponentText e text →
      UnsignedText negative (.float (.ofDecimal negative (digitsValue digits) e)) (digits ++ text)
  | fraction {digits part : Text} :
      WholeText digits → Digits part →
      UnsignedText negative
        (.float (.ofDecimal negative (digitsValue (digits ++ part)) (0 - part.length)))
        (digits ++ .char '.' :: part)
  | both {digits part text : Text} {e : Int} :
      WholeText digits → Digits part → ExponentText e text →
      UnsignedText negative
        (.float (.ofDecimal negative (digitsValue (digits ++ part)) (e - part.length)))
        (digits ++ .char '.' :: (part ++ text))

/-- What may follow a number: nothing that would go on with it. -/
def Ends (rest : Text) : Prop :=
  ∀ c more, rest = c :: more → isDigit c = false ∧ c ≠ .char '.' ∧ c ≠ .char 'e' ∧ c ≠ .char 'E'

theorem Ends.noDigit {rest : Text} (h : Ends rest) : NoDigit rest :=
  fun c more hc => (h c more hc).1

theorem Ends.fraction?_eq_none {rest : Text} (h : Ends rest) : fraction? rest = none :=
  Json.fraction?_eq_none fun more hc => (h '.' more hc).2.1 rfl

theorem Ends.exponent?_eq_none {rest : Text} (h : Ends rest) : exponent? rest = none :=
  Json.exponent?_eq_none fun c more hc => (h c more hc).2.2

theorem ends_nil : Ends [] := by
  intro c more h
  exact absurd h (by simp)

theorem ends_cons {c : Char} (h : c ∈ [',', ']', '\x7d']) (rest : Text) :
    Ends (.char c :: rest) := by
  intro c' more he
  rw [← (List.cons.inj he).1]
  simp only [List.mem_cons, List.not_mem_nil, or_false] at h
  rcases h with rfl | rfl | rfl <;> decide

theorem Ends.blanks_append {b rest : Text} (hb : Blanks b) (h : Ends rest) :
    Ends (b ++ rest) := by
  have hall : ∀ c, isSpace c = true →
      isDigit c = false ∧ c ≠ .char '.' ∧ c ≠ .char 'e' ∧ c ≠ .char 'E' := by
    intro c hc
    simp only [isSpace, Bool.or_eq_true, beq_iff_eq] at hc
    rcases hc with ((rfl | rfl) | rfl) | rfl <;> decide
  cases b with
  | nil => exact h
  | cons c b =>
    intro c' more he
    rw [← (List.cons.inj he).1]
    exact hall c (hb c List.mem_cons_self)

theorem noDigit_exponentText {e : Int} {text : Text} (h : ExponentText e text)
    (rest : Text) : NoDigit (text ++ rest) := by
  cases h with
  | mk hm _ _ =>
    intro c more hc
    rw [← (List.cons.inj hc).1]
    rcases hm with rfl | rfl
    · decide
    · decide

theorem noDigit_point (rest : Text) : NoDigit (.char '.' :: rest) := by
  intro c more hc
  rw [← (List.cons.inj hc).1]
  decide

/-- An exponent does not begin with a point. -/
theorem fraction?_exponentText {e : Int} {text : Text} (h : ExponentText e text)
    (rest : Text) : fraction? (text ++ rest) = none := by
  cases h with
  | mk hm _ _ =>
    refine fraction?_eq_none ?_
    intro more hc
    rw [(List.cons.inj hc).1] at hm
    exact absurd hm (by decide)

theorem unsigned?_of_whole {negative : Bool} {cs digits rest : Text} (hd : Digits digits)
    (h : whole cs = (digits, rest)) :
    unsigned? negative cs =
      match fraction? rest with
      | some (part, rest₂) =>
        let (e, rest₃) := (exponent? rest₂).getD (0, rest₂)
        some (.float (.ofDecimal negative (digitsValue (digits ++ part)) (e - part.length)), rest₃)
      | none =>
        match exponent? rest with
        | some (e, rest₂) => some (.float (.ofDecimal negative (digitsValue digits) e), rest₂)
        | none =>
          match integer? negative digits with
          | some n => some (n, rest)
          | none => none := by
  obtain ⟨c, more, rfl, -⟩ := hd.exists_cons
  unfold unsigned?
  split
  · rename_i hwhole
    rw [h] at hwhole
    exact absurd (Prod.mk.inj hwhole).1 (by simp)
  · rename_i digits' rest' _ hwhole
    rw [h] at hwhole
    obtain ⟨rfl, rfl⟩ := Prod.mk.inj hwhole
    rfl

theorem unsigned?_append {negative : Bool} {v : Json} {text rest : Text}
    (h : UnsignedText negative v text) (hr : Ends rest) :
    unsigned? negative (text ++ rest) = some (v, rest) := by
  cases h with
  | int hw hlen =>
    have hn : ¬ Decimal.maxDigits < text.length := Nat.not_lt.2 hlen
    rw [unsigned?_of_whole hw.digits (whole_append hw hr.noDigit)]
    simp only [hr.fraction?_eq_none, hr.exponent?_eq_none, integer?, if_neg hn, signed]
  | @exponent digits text e hw he =>
    rw [List.append_assoc,
      unsigned?_of_whole hw.digits (whole_append hw (noDigit_exponentText he rest))]
    simp only [fraction?_exponentText he, exponent?_append he hr.noDigit]
  | @fraction digits part hw hp =>
    rw [List.append_assoc, List.cons_append,
      unsigned?_of_whole hw.digits (whole_append hw (noDigit_point (part ++ rest)))]
    simp only [fraction?_append hp hr.noDigit, hr.exponent?_eq_none, Option.getD_none]
  | @both digits part text e hw hp he =>
    rw [List.append_assoc, List.cons_append, List.append_assoc,
      unsigned?_of_whole hw.digits (whole_append hw (noDigit_point (part ++ (text ++ rest))))]
    simp only [fraction?_append hp (noDigit_exponentText he rest),
      exponent?_append he hr.noDigit, Option.getD_some]

theorem exists_unsignedText {negative : Bool} {v : Json} {cs rest : Text}
    (h : unsigned? negative cs = some (v, rest)) :
    ∃ text, UnsignedText negative v text ∧ cs = text ++ rest := by
  unfold unsigned? at h
  split at h
  · exact absurd h (by simp)
  · rename_i digits rest₁ hne hwhole
    obtain ⟨hw, rfl⟩ := wholeText_of_whole hwhole hne
    split at h
    · rename_i part rest₂ hf
      obtain ⟨hp, rfl⟩ := digits_of_fraction? hf
      simp only [Option.some.injEq, Prod.mk.injEq] at h
      cases he : exponent? rest₂ with
      | none =>
        rw [he, Option.getD_none] at h
        obtain ⟨rfl, rfl⟩ := h
        exact ⟨_, .fraction hw hp, by simp⟩
      | some found =>
        obtain ⟨e, rest₃⟩ := found
        rw [he, Option.getD_some] at h
        obtain ⟨rfl, rfl⟩ := h
        obtain ⟨text, ht, rfl⟩ := exists_exponentText he
        exact ⟨_, .both hw hp ht, by simp⟩
    · split at h
      · rename_i e rest₂ he
        simp only [Option.some.injEq, Prod.mk.injEq] at h
        obtain ⟨rfl, rfl⟩ := h
        obtain ⟨text, ht, rfl⟩ := exists_exponentText he
        exact ⟨_, .exponent hw ht, by simp⟩
      · split at h
        · rename_i n hn
          simp only [Option.some.injEq, Prod.mk.injEq] at h
          obtain ⟨rfl, rfl⟩ := h
          rw [integer?] at hn
          split at hn
          · exact absurd hn (by simp)
          · rename_i hlen
            obtain rfl := Option.some.inj hn
            exact ⟨_, .int hw (Nat.not_lt.1 hlen), rfl⟩
        · exact absurd h (by simp)

/-! ## Words and numbers -/

/-- The ways to write a value that holds no other values and is no string. -/
inductive ScalarText : Json → Text → Prop where
  | word {v : Json} {text : Text} : (text, v) ∈ words → ScalarText v text
  | least : ScalarText (.float (.infinite true)) ['-', 'I', 'n', 'f', 'i', 'n', 'i', 't', 'y']
  | positive {v : Json} {text : Text} : UnsignedText false v text → ScalarText v text
  | negative {v : Json} {text : Text} :
      UnsignedText true v text → ScalarText v (.char '-' :: text)

theorem eq_append_of_word? {word cs rest : Text} (h : word? word cs = some rest) :
    cs = word ++ rest := by
  induction word generalizing cs with
  | nil => exact (Option.some.inj h)
  | cons c word ih =>
    cases cs with
    | nil => exact absurd h (by simp [word?])
    | cons c' cs =>
      rw [word?] at h
      split at h
      · rename_i hc
        rw [hc, ih h]
        rfl
      · exact absurd h (by simp)

theorem UnsignedText.exists_cons {negative : Bool} {v : Json} {text : Text}
    (h : UnsignedText negative v text) : ∃ c more, text = c :: more ∧ isDigit c = true := by
  cases h with
  | int hw _ => exact hw.digits.exists_cons
  | exponent hw _ =>
    obtain ⟨c, more, rfl, hc⟩ := hw.digits.exists_cons
    exact ⟨c, _, rfl, hc⟩
  | fraction hw _ =>
    obtain ⟨c, more, rfl, hc⟩ := hw.digits.exists_cons
    exact ⟨c, _, rfl, hc⟩
  | both hw _ _ =>
    obtain ⟨c, more, rfl, hc⟩ := hw.digits.exists_cons
    exact ⟨c, _, rfl, hc⟩

/-- No word begins with a digit or a minus sign. -/
theorem scalar?_eq_number? {c : CodePoint} (h : isDigit c = true ∨ c = .char '-') (cs : Text) :
    scalar? (c :: cs) = number? (c :: cs) := by
  have hne : ∀ w ∈ (['n', 't', 'f', 'N', 'I'] : Text), w ≠ c := by
    rintro w hw rfl
    rcases h with h | rfl
    · rw [isDigit_eq_false_of_mem (by decide) hw] at h
      exact Bool.noConfusion h
    · exact absurd hw (by decide)
  simp only [List.forall_mem_cons] at hne
  obtain ⟨hn, ht, hf, hN, hI, -⟩ := hne
  simp [scalar?, words, word?, hn, ht, hf, hN, hI]

theorem scalar?_append {v : Json} {text rest : Text} (h : ScalarText v text)
    (hr : Ends rest) : scalar? (text ++ rest) = some (v, rest) := by
  cases h with
  | word hw =>
    simp only [words, List.mem_cons, Prod.mk.injEq, List.not_mem_nil, or_false] at hw
    rcases hw with ⟨rfl, rfl⟩ | ⟨rfl, rfl⟩ | ⟨rfl, rfl⟩ | ⟨rfl, rfl⟩ | ⟨rfl, rfl⟩ <;> rfl
  | least => rfl
  | positive hu =>
    have hread := unsigned?_append hu hr
    obtain ⟨c, more, rfl, hc⟩ := hu.exists_cons
    rw [List.cons_append, scalar?_eq_number? (Or.inl hc), number?, ← List.cons_append, hread]
    intro rest' he
    rw [(List.cons.inj he).1] at hc
    exact absurd hc (by decide)
  | @negative v text hu =>
    have hread := unsigned?_append hu hr
    obtain ⟨c, more, rfl, hc⟩ := hu.exists_cons
    have hword : word? ['I', 'n', 'f', 'i', 'n', 'i', 't', 'y'] (c :: more ++ rest) = none := by
      rw [List.cons_append, word?, if_neg]
      rintro rfl
      exact absurd hc (by decide)
    rw [List.cons_append, scalar?_eq_number? (Or.inr rfl), number?, hword]
    exact hread

theorem exists_scalarText {v : Json} {cs rest : Text} (h : scalar? cs = some (v, rest)) :
    ∃ text, ScalarText v text ∧ cs = text ++ rest := by
  unfold scalar? at h
  split at h
  · rename_i found hfound
    obtain rfl := Option.some.inj h
    obtain ⟨entry, hentry, hread⟩ := List.exists_of_findSome?_eq_some hfound
    obtain ⟨rest', hword, he⟩ := Option.map_eq_some_iff.1 hread
    obtain ⟨rfl, rfl⟩ := Prod.mk.inj he
    exact ⟨_, .word hentry, eq_append_of_word? hword⟩
  · unfold number? at h
    split at h
    · split at h
      · rename_i rest' hword
        simp only [Option.some.injEq, Prod.mk.injEq] at h
        obtain ⟨rfl, rfl⟩ := h
        rw [eq_append_of_word? hword]
        exact ⟨_, .least, rfl⟩
      · obtain ⟨text, ht, rfl⟩ := exists_unsignedText h
        exact ⟨_, .negative ht, rfl⟩
    · obtain ⟨text, ht, rfl⟩ := exists_unsignedText h
      exact ⟨_, .positive ht, rfl⟩

end CatalogCache.Json
