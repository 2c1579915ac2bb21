import CatalogCache.Encoding.Base64

/-!
# The texts of base64

`TextOf length canonical text` says which texts are base64, how many bytes such a text stands
for, and how an encoder writes these bytes. The decoder takes exactly these texts, and for a
text it gives the one byte string of that length whose encoding is that
(`decode_eq_ok_iff`).

A text need not be what an encoder writes. After whole groups padding may stand that says
nothing, and a last group that is not full has bits that say nothing. All else in a text can be
told from its bytes: that is what the argument has to show, and it goes group by group. Four
values and the three bytes that they make determine each other (`encode_bytesOfValues`), so
what is left is the last group.
-/

namespace CatalogCache.Base64

/-- The texts of base64. A symbol is that of a value below sixty-four, and whole groups are
four times so many of them. -/
inductive TextOf : (length : Nat) → (canonical text : List Char) → Prop where
  /-- Whole groups. There is no padding that says nothing without a group. -/
  | whole {n surplus : Nat} {ns : List Nat} : ns.length = 4 * n → (∀ m ∈ ns, m < 64) →
      (0 < surplus → 0 < n) →
      TextOf (3 * n) (ns.map symbol) (ns.map symbol ++ List.replicate surplus pad)
  /-- Two symbols more. The low four bits of the second say nothing. -/
  | two {n a b : Nat} {ns : List Nat} : ns.length = 4 * n → (∀ m ∈ ns, m < 64) → a < 64 → b < 64 →
      TextOf (3 * n + 1) (ns.map symbol ++ [symbol a, symbol (b / 16 * 16), pad, pad])
        (ns.map symbol ++ [symbol a, symbol b, pad, pad])
  /-- Three symbols more. The low two bits of the third say nothing. -/
  | three {n a b c : Nat} {ns : List Nat} : ns.length = 4 * n → (∀ m ∈ ns, m < 64) →
      a < 64 → b < 64 → c < 64 →
      TextOf (3 * n + 2) (ns.map symbol ++ [symbol a, symbol b, symbol (c / 4 * 4), pad])
        (ns.map symbol ++ [symbol a, symbol b, symbol c, pad])

/-! ## Whole groups -/

section Groups

variable {n : Nat} {ns : List Nat}

theorem exists_group {α : Type} {xs : List α} (h : xs.length = 4 * (n + 1)) :
    ∃ a b c d rest, xs = a :: b :: c :: d :: rest ∧ rest.length = 4 * n := by
  match xs, h with
  | a :: b :: c :: d :: rest, h =>
    simp only [List.length_cons] at h
    exact ⟨a, b, c, d, rest, rfl, by omega⟩

theorem bytesOfValues_append (h : ns.length = 4 * n) (rest : List Nat) :
    bytesOfValues (ns ++ rest) = bytesOfValues ns ++ bytesOfValues rest := by
  induction n generalizing ns with
  | zero =>
    obtain rfl := List.eq_nil_of_length_eq_zero h
    rfl
  | succ n ih =>
    obtain ⟨a, b, c, d, ns, rfl, hn⟩ := exists_group h
    simp only [List.cons_append, bytesOfValues, ih hn]

theorem length_bytesOfValues (h : ns.length = 4 * n) : (bytesOfValues ns).length = 3 * n := by
  induction n generalizing ns with
  | zero =>
    obtain rfl := List.eq_nil_of_length_eq_zero h
    rfl
  | succ n ih =>
    obtain ⟨a, b, c, d, ns, rfl, hn⟩ := exists_group h
    simp only [bytesOfValues, List.length_cons, ih hn]
    omega

theorem encode_append {bytes : Bytes} (h : bytes.length = 3 * n) (more : Bytes) :
    encode (bytes ++ more) = encode bytes ++ encode more := by
  induction n generalizing bytes with
  | zero =>
    obtain rfl := List.eq_nil_of_length_eq_zero h
    rfl
  | succ n ih =>
    match bytes, h with
    | a :: b :: c :: rest, h =>
      have hn : rest.length = 3 * n := by
        simp only [List.length_cons] at h
        omega
      simp only [List.cons_append, encode, ih hn]

theorem toNat_byte {m : Nat} (h : m < 256) : (UInt8.ofNat m).toNat = m := by
  rw [UInt8.toNat_ofNat', Nat.mod_eq_of_lt h]

/-- Whole groups can be told from their bytes. -/
theorem encode_bytesOfValues (h : ns.length = 4 * n) (hns : ∀ m ∈ ns, m < 64) :
    encode (bytesOfValues ns) = ns.map symbol := by
  induction n generalizing ns with
  | zero =>
    obtain rfl := List.eq_nil_of_length_eq_zero h
    rfl
  | succ n ih =>
    obtain ⟨a, b, c, d, ns, rfl, hn⟩ := exists_group h
    simp only [List.forall_mem_cons] at hns
    obtain ⟨ha, hb, hc, hd, hns⟩ := hns
    have hfirst : (a * 4 + b / 16) / 4 = a := by omega
    have hsecond : (a * 4 + b / 16) % 4 * 16 + (b % 16 * 16 + c / 4) / 16 = b := by omega
    have hthird : (b % 16 * 16 + c / 4) % 16 * 4 + (c % 4 * 64 + d) / 64 = c := by omega
    have hfourth : (c % 4 * 64 + d) % 64 = d := by omega
    rw [bytesOfValues, encode, toNat_byte (by omega), toNat_byte (by omega),
      toNat_byte (by omega), hfirst, hsecond, hthird, hfourth, ih hn hns]
    rfl

end Groups

/-! ## Padding -/

theorem checkSurplus_eq_ok_iff {cs : List Char} :
    checkSurplus cs = .ok () ↔ cs = List.replicate cs.length pad := by
  induction cs with
  | nil => simp [checkSurplus]
  | cons c cs ih =>
    rw [checkSurplus, List.length_cons, List.replicate_succ, List.cons.injEq]
    by_cases hc : c = pad
    · rw [if_pos hc, ih]
      simp [hc]
    · simp [hc]

theorem checkPadding_eq_ok_iff {missing : Nat} {cs : List Char} :
    checkPadding missing cs = .ok () ↔ cs = List.replicate missing pad := by
  induction missing generalizing cs with
  | zero => cases cs <;> simp [checkPadding]
  | succ missing ih =>
    cases cs with
    | nil => simp [checkPadding, List.replicate_succ]
    | cons c cs =>
      rw [checkPadding, List.replicate_succ, List.cons.injEq]
      by_cases hc : c = pad
      · rw [if_pos hc, ih]
        simp [hc]
      · simp [hc]

/-- What may stand behind so many symbols. -/
theorem checkTail_eq_ok_iff {symbols : Nat} {tail : List Char} :
    checkTail symbols tail = .ok () ↔
      symbols % 4 = 0 ∧ tail = List.replicate tail.length pad ∨
        (symbols % 4 = 2 ∨ symbols % 4 = 3) ∧ tail = List.replicate (4 - symbols % 4) pad := by
  have hlt : symbols % 4 < 4 := Nat.mod_lt symbols (by omega)
  unfold checkTail
  split
  · rename_i h
    rw [checkSurplus_eq_ok_iff]
    simp [h]
  · rename_i h
    cases checkSurplus tail <;> simp [h, bind, Except.bind]
  · rename_i h0 h1
    have hne : symbols % 4 ≠ 0 := h0
    have hne' : symbols % 4 ≠ 1 := h1
    have h23 : symbols % 4 = 2 ∨ symbols % 4 = 3 := by omega
    rw [checkPadding_eq_ok_iff]
    simp [hne, h23]

/-! ## Texts are read -/

/-- A last group is read with the padding that completes it. -/
theorem decode_lastGroup {n : Nat} {ns rest : List Nat} (hn : ns.length = 4 * n)
    (hns : ∀ m ∈ ns, m < 64) (hrest : ∀ m ∈ rest, m < 64)
    (hlength : rest.length = 2 ∨ rest.length = 3) :
    decode (ns.map symbol ++ (rest.map symbol ++ List.replicate (4 - rest.length) pad)) =
      .ok (bytesOfValues ns ++ bytesOfValues rest) := by
  have hall : ∀ m ∈ ns ++ rest, m < 64 := List.forall_mem_append.2 ⟨hns, hrest⟩
  have hmod : (ns ++ rest).length % 4 = rest.length := by
    rw [List.length_append]
    omega
  have hcheck : checkTail (ns ++ rest).length (List.replicate (4 - rest.length) pad) = .ok () := by
    rw [checkTail_eq_ok_iff, hmod]
    exact Or.inr ⟨hlength, rfl⟩
  have hne : ns ++ rest = [] → List.replicate (4 - rest.length) pad = [] := by
    intro h
    rw [h, List.length_nil] at hmod
    omega
  rw [← List.append_assoc, ← List.map_append, ← bytesOfValues_append hn]
  exact decode_append hall (fun c hc => List.eq_of_mem_replicate hc) hne hcheck

theorem decode_of_textOf {length : Nat} {canonical text : List Char}
    (h : TextOf length canonical text) :
    ∃ bytes, decode text = .ok bytes ∧ bytes.length = length ∧ encode bytes = canonical := by
  cases h with
  | @whole n surplus ns hn hns hs =>
    have hcheck : checkTail ns.length (List.replicate surplus pad) = .ok () := by
      rw [checkTail_eq_ok_iff, List.length_replicate]
      exact Or.inl ⟨by omega, rfl⟩
    have hne : ns = [] → List.replicate surplus pad = [] := by
      rintro rfl
      rw [List.length_nil] at hn
      have hzero : surplus = 0 := by omega
      rw [hzero]
      rfl
    exact ⟨_, decode_append hns (fun c hc => List.eq_of_mem_replicate hc) hne hcheck,
      length_bytesOfValues hn, encode_bytesOfValues hn hns⟩
  | @two n a b ns hn hns ha hb =>
    have hrest : ∀ m ∈ [a, b], m < 64 := by simp [ha, hb]
    refine ⟨_, decode_lastGroup hn hns hrest (Or.inl rfl), ?_, ?_⟩
    · rw [List.length_append, length_bytesOfValues hn]
      rfl
    · have hfirst : (a * 4 + b / 16) / 4 = a := by omega
      have hsecond : (a * 4 + b / 16) % 4 * 16 = b / 16 * 16 := by omega
      rw [encode_append (length_bytesOfValues hn), encode_bytesOfValues hn hns, bytesOfValues,
        encode, toNat_byte (by omega), hfirst, hsecond]
  | @three n a b c ns hn hns ha hb hc =>
    have hrest : ∀ m ∈ [a, b, c], m < 64 := by simp [ha, hb, hc]
    refine ⟨_, decode_lastGroup hn hns hrest (Or.inr rfl), ?_, ?_⟩
    · rw [List.length_append, length_bytesOfValues hn]
      rfl
    · have hfirst : (a * 4 + b / 16) / 4 = a := by omega
      have hsecond : (a * 4 + b / 16) % 4 * 16 + (b % 16 * 16 + c / 4) / 16 = b := by omega
      have hthird : (b % 16 * 16 + c / 4) % 16 * 4 = c / 4 * 4 := by omega
      rw [encode_append (length_bytesOfValues hn), encode_bytesOfValues hn hns, bytesOfValues,
        encode, toNat_byte (by omega), toNat_byte (by omega), hfirst, hsecond, hthird]

/-! ## What is read is a text -/

theorem eq_symbol_of_value? {c : Char} {n : Nat} (h : value? c = some n) :
    n < 64 ∧ c = symbol n := by
  have hc : Char.ofNat c.toNat = c := Char.ofNat_toNat c
  unfold value? at h
  dsimp only at h
  split at h
  · obtain rfl := Option.some.inj h
    refine ⟨by omega, ?_⟩
    rw [symbol, if_pos (by omega), Nat.add_sub_cancel' (by omega), hc]
  · split at h
    · obtain rfl := Option.some.inj h
      refine ⟨by omega, ?_⟩
      rw [symbol, if_neg (by omega), if_pos (by omega), Nat.add_sub_cancel' (by omega), hc]
    · split at h
      · obtain rfl := Option.some.inj h
        refine ⟨by omega, ?_⟩
        rw [symbol, if_neg (by omega), if_neg (by omega), if_pos (by omega),
          Nat.add_sub_cancel, hc]
      · split at h
        · rename_i h43
          obtain rfl := Option.some.inj h
          rw [h43] at hc
          exact ⟨by omega, hc.symm⟩
        · split at h
          · rename_i h47
            obtain rfl := Option.some.inj h
            rw [h47] at hc
            exact ⟨by omega, hc.symm⟩
          · exact absurd h (by simp)

theorem eq_map_symbol_of_values? {cs : List Char} {ns : List Nat} (h : values? cs = some ns) :
    (∀ m ∈ ns, m < 64) ∧ cs = ns.map symbol := by
  induction cs generalizing ns with
  | nil =>
    obtain rfl := Option.some.inj h
    exact ⟨by simp, rfl⟩
  | cons c cs ih =>
    rw [values?] at h
    split at h
    · rename_i n hvalue
      obtain ⟨rest, hrest, rfl⟩ := Option.map_eq_some_iff.1 h
      obtain ⟨hlt, rfl⟩ := eq_symbol_of_value? hvalue
      obtain ⟨hall, rfl⟩ := ih hrest
      exact ⟨List.forall_mem_cons.2 ⟨hlt, hall⟩, rfl⟩
    · exact absurd h (by simp)

/-- Values are those of whole groups and those that are left over. -/
theorem exists_groups (ns : List Nat) :
    ∃ front rest, ns = front ++ rest ∧ front.length = 4 * (ns.length / 4) ∧
      rest.length = ns.length % 4 := by
  refine ⟨ns.take (4 * (ns.length / 4)), ns.drop (4 * (ns.length / 4)),
    (List.take_append_drop _ ns).symm, ?_, ?_⟩
  · rw [List.length_take]
    omega
  · rw [List.length_drop]
    omega

theorem exists_textOf {ns : List Nat} {tail : List Char} (hns : ∀ m ∈ ns, m < 64)
    (hne : ns = [] → tail = []) (hcheck : checkTail ns.length tail = .ok ()) :
    ∃ length canonical, TextOf length canonical (ns.map symbol ++ tail) := by
  obtain ⟨front, rest, rfl, hfront, hrest⟩ := exists_groups ns
  obtain ⟨hfront', hrest'⟩ := List.forall_mem_append.1 hns
  rw [checkTail_eq_ok_iff, ← hrest] at hcheck
  rw [List.map_append, List.append_assoc]
  rcases hcheck with ⟨hzero, htail⟩ | ⟨htwo | hthree, htail⟩
  · obtain rfl := List.eq_nil_of_length_eq_zero hzero
    rw [htail, List.map_nil, List.nil_append]
    refine ⟨_, _, .whole hfront hfront' ?_⟩
    intro hsurplus
    -- padding without a group would be padding in front
    have htail' : tail ≠ [] := List.ne_nil_of_length_pos hsurplus
    have hpos : 0 < (front ++ []).length := List.length_pos_iff.2 (mt hne htail')
    omega
  · match rest, htwo with
    | [a, b], _ =>
      simp only [List.forall_mem_cons] at hrest'
      rw [htail]
      exact ⟨_, _, .two hfront hfront' hrest'.1 hrest'.2.1⟩
  · match rest, hthree with
    | [a, b, c], _ =>
      simp only [List.forall_mem_cons] at hrest'
      rw [htail]
      exact ⟨_, _, .three hfront hfront' hrest'.1 hrest'.2.1 hrest'.2.2.1⟩

theorem exists_textOf_of_decode {text : List Char} {bytes : Bytes} (h : decode text = .ok bytes) :
    ∃ length canonical, TextOf length canonical text := by
  unfold decode at h
  split at h
  · exact absurd h (by simp)
  split at h
  · exact absurd h (by simp)
  rename_i hhead
  split at h
  · exact absurd h (by simp)
  rename_i ns hvalues
  split at h
  · exact absurd h (by simp)
  rename_i hcheck
  obtain ⟨hns, hsymbols⟩ := eq_map_symbol_of_values? hvalues
  have htext : text = ns.map symbol ++ text.dropWhile (· ≠ pad) := by
    rw [← hsymbols, List.takeWhile_append_dropWhile]
  have hne : ns = [] → text.dropWhile (· ≠ pad) = [] := by
    rintro rfl
    cases text with
    | nil => rfl
    | cons c text =>
      have hc : c ≠ pad := by
        rintro rfl
        exact hhead rfl
      simp [hc] at hsymbols
  rw [htext]
  exact exists_textOf hns hne hcheck

/--
**The decoder takes exactly the texts of base64.** It gives the bytes whose encoding is the
text, but for padding and bits that say nothing.
-/
theorem decode_eq_ok_iff {text : List Char} {bytes : Bytes} :
    decode text = .ok bytes ↔ TextOf bytes.length (encode bytes) text := by
  constructor
  · intro h
    obtain ⟨length, canonical, htext⟩ := exists_textOf_of_decode h
    obtain ⟨bytes', hdecode, hlength, hencode⟩ := decode_of_textOf htext
    obtain rfl : bytes = bytes' := Except.ok.inj (h.symm.trans hdecode)
    rw [hlength, hencode]
    exact htext
  · intro h
    obtain ⟨bytes', hdecode, -, hencode⟩ := decode_of_textOf h
    have hsame : decode (encode bytes') = decode (encode bytes) := congrArg decode hencode
    rw [decode_encode, decode_encode] at hsame
    rw [hdecode, hsame]

/-- Three bytes with padding that says nothing, and one byte with bits that say nothing. -/
example : decode "TWFu===".toList = .ok [77, 97, 110] ∧ decode "TR==".toList = .ok [77] :=
  ⟨rfl, rfl⟩

/-- Of a text nothing but characters is taken. -/
theorem decodeText_eq_ok_iff {text : Text} {bytes : Bytes} :
    decodeText text = .ok bytes ↔
      ∃ cs, text = .ofChars cs ∧ TextOf bytes.length (encode bytes) cs := by
  constructor
  · intro h
    rw [decodeText] at h
    split at h
    · exact absurd h (by simp)
    · rename_i cs hcs
      exact ⟨cs, Text.chars?_eq_some_iff.1 hcs, decode_eq_ok_iff.1 h⟩
  · rintro ⟨cs, rfl, h⟩
    rw [decodeText_ofChars, decode_eq_ok_iff.2 h]

end CatalogCache.Base64
