import CatalogCache.Proofs.JsonTokens

/-!
# The grammar of JSON texts

`IsSpellingOf v text` says that a text is one of the many that stand for a value. The reader
and the grammar agree on every text: `parseText?_eq_some_iff`. So a text that the reader
refuses stands for no value at all, and no text stands for two.

Both directions are an induction on the bound that the reader carries, over the three readers
at once. Downwards, from a value to its parts, the bound pays for the length of the text: a
value needs twice its length, and the inside of an array or an object one call more, for the
step from an item to its value takes no character (`readsAll`). Upwards it only counts the
calls (`readsSoundly`).
-/

namespace CatalogCache.Json

/-! ## The grammar -/

mutual

/-- The ways to write a value. -/
inductive Spells : Json → Text → Prop where
  | scalar {v : Json} {text : Text} : ScalarText v text → Spells v text
  | string {s text : Text} :
      StringText s text → Spells (.string s) (.char '"' :: (text ++ [.char '"']))
  | emptyArray {b : Text} : Blanks b → Spells (.array []) (.char '[' :: (b ++ [.char ']']))
  | array {items : List Json} {b text : Text} :
      Blanks b → SpellsItems items text →
      Spells (.array items) (.char '[' :: (b ++ (text ++ [.char ']'])))
  | emptyObject {b : Text} : Blanks b → Spells (.object []) (.char '\x7b' :: (b ++ [.char '\x7d']))
  /-- Of members with one name the last counts, in the place of the first. -/
  | object {members : List (Text × Json)} {b text : Text} :
      Blanks b → SpellsMembers members text →
      Spells (.object (Keyed.ofPairs members)) (.char '\x7b' :: (b ++ (text ++ [.char '\x7d'])))

/-- The ways to write the items of an array, each with the blank space after it. -/
inductive SpellsItems : List Json → Text → Prop where
  | one {v : Json} {text b : Text} :
      Spells v text → Blanks b → SpellsItems [v] (text ++ b)
  | more {v : Json} {items : List Json} {text b b' texts : Text} :
      Spells v text → Blanks b → Blanks b' → SpellsItems items texts →
      SpellsItems (v :: items) (text ++ (b ++ .char ',' :: (b' ++ texts)))

/-- The ways to write a member of an object. -/
inductive SpellsMember : Text × Json → Text → Prop where
  | mk {name : Text} {v : Json} {inside b b' text : Text} :
      StringText name inside → Blanks b → Blanks b' → Spells v text →
      SpellsMember (name, v)
        (.char '"' :: (inside ++ .char '"' :: (b ++ .char ':' :: (b' ++ text))))

/-- The ways to write the members of an object, each with the blank space after it. -/
inductive SpellsMembers : List (Text × Json) → Text → Prop where
  | one {member : Text × Json} {text b : Text} :
      SpellsMember member text → Blanks b → SpellsMembers [member] (text ++ b)
  | more {member : Text × Json} {members : List (Text × Json)}
      {text b b' texts : Text} :
      SpellsMember member text → Blanks b → Blanks b' → SpellsMembers members texts →
      SpellsMembers (member :: members) (text ++ (b ++ .char ',' :: (b' ++ texts)))

end

/-- The texts of a value, with blank space around it. -/
def IsSpellingOf (v : Json) (text : Text) : Prop :=
  ∃ b inside b', Blanks b ∧ Spells v inside ∧ Blanks b' ∧ text = b ++ (inside ++ b')

/-! ## How a value begins -/

/-- A character that can begin a value. -/
structure Begins (c : CodePoint) : Prop where
  space : isSpace c = false
  bracket : c ≠ .char ']'
  ascii : c.toNat < 128

theorem begins_of_mem {c : Char} (h : c ∈ ['"', '[', '\x7b', '-', 'n', 't', 'f', 'N', 'I']) :
    Begins (.char c) := by
  simp only [List.mem_cons, List.not_mem_nil, or_false] at h
  rcases h with rfl | rfl | rfl | rfl | rfl | rfl | rfl | rfl | rfl <;>
    exact ⟨by decide, by decide, by decide⟩

theorem begins_of_isDigit {c : CodePoint} (h : isDigit c = true) : Begins c := by
  have hnot : ∀ w ∈ ([' ', '\t', '\n', '\r', ']'] : Text), c ≠ w := by
    rintro w hw rfl
    rw [isDigit_eq_false_of_mem (by decide) hw] at h
    exact Bool.noConfusion h
  simp only [List.forall_mem_cons] at hnot
  obtain ⟨hs, ht, hn, hr, hb, -⟩ := hnot
  refine ⟨by simp [isSpace, hs, ht, hn, hr], hb, ?_⟩
  simp only [isDigit, Bool.and_eq_true, decide_eq_true_eq] at h
  have h9 : c.toNat ≤ 57 := h.2
  omega

theorem ScalarText.exists_begin {v : Json} {text : Text} (h : ScalarText v text) :
    ∃ c more, text = c :: more ∧ Begins c ∧ c ≠ .char '"' ∧ c ≠ .char '[' ∧ c ≠ .char '\x7b' := by
  have hdigit : ∀ c, isDigit c = true →
      Begins c ∧ c ≠ .char '"' ∧ c ≠ .char '[' ∧ c ≠ .char '\x7b' := by
    intro c hc
    refine ⟨begins_of_isDigit hc, ?_, ?_, ?_⟩ <;>
      · rintro rfl
        exact absurd hc (by decide)
  cases h with
  | word hw =>
    simp only [words, List.mem_cons, Prod.mk.injEq, List.not_mem_nil, or_false] at hw
    rcases hw with ⟨rfl, -⟩ | ⟨rfl, -⟩ | ⟨rfl, -⟩ | ⟨rfl, -⟩ | ⟨rfl, -⟩ <;>
      exact ⟨_, _, rfl, begins_of_mem (by decide), by decide, by decide, by decide⟩
  | least => exact ⟨_, _, rfl, begins_of_mem (by decide), by decide, by decide, by decide⟩
  | positive hu =>
    obtain ⟨c, more, rfl, hc⟩ := hu.exists_cons
    exact ⟨c, more, rfl, hdigit c hc⟩
  | negative _ =>
    exact ⟨_, _, rfl, begins_of_mem (by decide), by decide, by decide, by decide⟩

theorem Spells.exists_begin {v : Json} {text : Text} (h : Spells v text) :
    ∃ c more, text = c :: more ∧ Begins c := by
  cases h with
  | scalar hs =>
    obtain ⟨c, more, rfl, hc, -⟩ := hs.exists_begin
    exact ⟨c, more, rfl, hc⟩
  | string _ => exact ⟨_, _, rfl, begins_of_mem (by decide)⟩
  | emptyArray _ => exact ⟨_, _, rfl, begins_of_mem (by decide)⟩
  | array _ _ => exact ⟨_, _, rfl, begins_of_mem (by decide)⟩
  | emptyObject _ => exact ⟨_, _, rfl, begins_of_mem (by decide)⟩
  | object _ _ => exact ⟨_, _, rfl, begins_of_mem (by decide)⟩

theorem Spells.length_pos {v : Json} {text : Text} (h : Spells v text) :
    0 < text.length := by
  obtain ⟨c, more, rfl, -⟩ := h.exists_begin
  exact Nat.succ_pos _

theorem Spells.skip_append {v : Json} {text b : Text} (h : Spells v text) (hb : Blanks b)
    (rest : Text) : skip (b ++ (text ++ rest)) = text ++ rest := by
  obtain ⟨c, more, rfl, hc⟩ := h.exists_begin
  rw [Json.skip_append hb, List.cons_append, skip_cons hc.space]

theorem SpellsItems.exists_begin {items : List Json} {text : Text}
    (h : SpellsItems items text) : ∃ c more, text = c :: more ∧ Begins c := by
  cases h with
  | one hv _ =>
    obtain ⟨c, more, rfl, hc⟩ := hv.exists_begin
    exact ⟨c, _, rfl, hc⟩
  | more hv _ _ _ =>
    obtain ⟨c, more, rfl, hc⟩ := hv.exists_begin
    exact ⟨c, _, rfl, hc⟩

theorem SpellsMembers.exists_quote {members : List (Text × Json)} {text : Text}
    (h : SpellsMembers members text) : ∃ more, text = .char '"' :: more := by
  cases h with
  | one hm _ => cases hm; exact ⟨_, rfl⟩
  | more hm _ _ _ => cases hm; exact ⟨_, rfl⟩

/-! ## What the reader does once it knows what comes next -/

theorem value?_string {s : Text} {cs rest : Text} (bound : Nat)
    (h : string? cs = some (s, rest)) :
    value? (bound + 1) (.char '"' :: cs) = some (.string s, rest) := by
  rw [value?, if_pos rfl, h]

theorem value?_emptyArray {cs rest : Text} (bound : Nat) (h : skip cs = .char ']' :: rest) :
    value? (bound + 1) (.char '[' :: cs) = some (.array [], rest) := by
  rw [value?, if_neg (by decide), if_pos rfl, h]
  rfl

theorem value?_array {items : List Json} {c : CodePoint} {cs cs' rest : Text} {bound : Nat}
    (hs : skip cs = c :: cs') (hc : c ≠ .char ']')
    (h : items? bound (c :: cs') = some (items, rest)) :
    value? (bound + 1) (.char '[' :: cs) = some (.array items, rest) := by
  rw [value?, if_neg (by decide), if_pos rfl, hs]
  split
  · rename_i heq
    exact absurd (List.cons.inj heq).1 hc
  · rw [h]

theorem value?_emptyObject {cs rest : Text} (bound : Nat) (h : skip cs = .char '\x7d' :: rest) :
    value? (bound + 1) (.char '\x7b' :: cs) = some (.object [], rest) := by
  rw [value?, if_neg (by decide), if_neg (by decide), if_pos rfl, h]
  rfl

theorem value?_object {members : List (Text × Json)} {c : CodePoint} {cs cs' rest : Text}
    {bound : Nat} (hs : skip cs = c :: cs') (hc : c ≠ .char '\x7d')
    (h : members? bound (c :: cs') = some (members, rest)) :
    value? (bound + 1) (.char '\x7b' :: cs) = some (.object (Keyed.ofPairs members), rest) := by
  rw [value?, if_neg (by decide), if_neg (by decide), if_pos rfl, hs]
  split
  · rename_i heq
    exact absurd (List.cons.inj heq).1 hc
  · rw [h]

theorem value?_scalar {v : Json} {c : CodePoint} {cs rest : Text} (bound : Nat) (hq : c ≠ .char '"')
    (ha : c ≠ .char '[') (ho : c ≠ .char '\x7b') (h : scalar? (c :: cs) = some (v, rest)) :
    value? (bound + 1) (c :: cs) = some (v, rest) := by
  rw [value?, if_neg hq, if_neg ha, if_neg ho, h]

theorem items?_one {v : Json} {cs cs' rest : Text} {bound : Nat}
    (hv : value? bound cs = some (v, cs')) (hs : skip cs' = .char ']' :: rest) :
    items? (bound + 1) cs = some ([v], rest) := by
  simp only [items?, hv, hs]

theorem items?_more {v : Json} {items : List Json} {cs cs' cs'' rest : Text} {bound : Nat}
    (hv : value? bound cs = some (v, cs')) (hs : skip cs' = .char ',' :: cs'')
    (h : items? bound (skip cs'') = some (items, rest)) :
    items? (bound + 1) cs = some (v :: items, rest) := by
  simp only [items?, hv, hs, h]

theorem members?_one {name : Text} {v : Json} {cs cs₁ cs₂ cs₃ rest : Text} {bound : Nat}
    (hn : string? cs = some (name, cs₁)) (hc : skip cs₁ = .char ':' :: cs₂)
    (hv : value? bound (skip cs₂) = some (v, cs₃)) (hs : skip cs₃ = .char '\x7d' :: rest) :
    members? (bound + 1) (.char '"' :: cs) = some ([(name, v)], rest) := by
  simp only [members?, hn, hc, hv, hs]

theorem members?_more {name : Text} {v : Json} {members : List (Text × Json)}
    {cs cs₁ cs₂ cs₃ cs₄ rest : Text} {bound : Nat}
    (hn : string? cs = some (name, cs₁)) (hc : skip cs₁ = .char ':' :: cs₂)
    (hv : value? bound (skip cs₂) = some (v, cs₃)) (hs : skip cs₃ = .char ',' :: cs₄)
    (h : members? bound (skip cs₄) = some (members, rest)) :
    members? (bound + 1) (.char '"' :: cs) = some ((name, v) :: members, rest) := by
  simp only [members?, hn, hc, hv, hs, h]

/-! ## What is written is read -/

/-- With this bound every value is read. -/
def ReadsValues (bound : Nat) : Prop :=
  ∀ v text rest, Spells v text → Ends rest → 2 * text.length ≤ bound →
    value? bound (text ++ rest) = some (v, rest)

/-- With this bound the items of every array are read. -/
def ReadsItems (bound : Nat) : Prop :=
  ∀ items text rest, SpellsItems items text → 2 * text.length + 1 ≤ bound →
    items? bound (text ++ .char ']' :: rest) = some (items, rest)

/-- With this bound the members of every object are read. -/
def ReadsMembers (bound : Nat) : Prop :=
  ∀ members text rest, SpellsMembers members text → 2 * text.length + 1 ≤ bound →
    members? bound (text ++ .char '\x7d' :: rest) = some (members, rest)

theorem readsValues_succ {bound : Nat} (hi : ReadsItems bound) (hm : ReadsMembers bound) :
    ReadsValues (bound + 1) := by
  intro v text rest h hr hb
  cases h with
  | scalar hs =>
    have hread := scalar?_append hs hr
    obtain ⟨c, more, rfl, -, hq, ha, ho⟩ := hs.exists_begin
    exact value?_scalar bound hq ha ho hread
  | @string s inside hs =>
    rw [List.cons_append, List.append_assoc]
    exact value?_string bound (string?_eq_some_iff.2 ⟨inside, hs, rfl⟩)
  | @emptyArray b hbl =>
    rw [List.cons_append, List.append_assoc]
    refine value?_emptyArray bound ?_
    rw [skip_append hbl]
    exact skip_cons (by decide) rest
  | @array items b inside hbl hit =>
    simp only [List.length_cons, List.length_append] at hb
    obtain ⟨c, more, rfl, hc⟩ := hit.exists_begin
    have hread := hi items _ rest hit (by omega)
    rw [List.cons_append, List.append_assoc, List.append_assoc]
    refine value?_array ?_ hc.bracket hread
    rw [skip_append hbl]
    exact skip_cons hc.space _
  | @emptyObject b hbl =>
    rw [List.cons_append, List.append_assoc]
    refine value?_emptyObject bound ?_
    rw [skip_append hbl]
    exact skip_cons (by decide) rest
  | @object members b inside hbl hmt =>
    simp only [List.length_cons, List.length_append] at hb
    obtain ⟨more, rfl⟩ := hmt.exists_quote
    have hread := hm members _ rest hmt (by omega)
    rw [List.cons_append, List.append_assoc, List.append_assoc]
    refine value?_object ?_ (by decide) hread
    rw [skip_append hbl]
    exact skip_cons (by decide) _

theorem readsItems_succ {bound : Nat} (hv : ReadsValues bound) (hi : ReadsItems bound) :
    ReadsItems (bound + 1) := by
  intro items text rest h hb
  cases h with
  | @one v inside b ht hbl =>
    simp only [List.length_append] at hb
    have hends : Ends (b ++ .char ']' :: rest) := (ends_cons (by simp) rest).blanks_append hbl
    rw [List.append_assoc]
    refine items?_one (hv v inside _ ht hends (by omega)) ?_
    rw [skip_append hbl]
    exact skip_cons (by decide) rest
  | @more v items inside b b' texts ht hbl hbl' hits =>
    simp only [List.length_append, List.length_cons] at hb
    have hends : Ends (b ++ .char ',' :: (b' ++ (texts ++ .char ']' :: rest))) :=
      (ends_cons (by simp) _).blanks_append hbl
    have hsep : skip (b ++ .char ',' :: (b' ++ (texts ++ .char ']' :: rest))) =
        .char ',' :: (b' ++ (texts ++ .char ']' :: rest)) := by
      rw [skip_append hbl]
      exact skip_cons (by decide) _
    simp only [List.append_assoc, List.cons_append]
    refine items?_more (hv v inside _ ht hends (by omega)) hsep ?_
    obtain ⟨c, more, rfl, hc⟩ := hits.exists_begin
    rw [skip_append hbl', List.cons_append, skip_cons hc.space]
    exact hi items _ rest hits (by omega)

theorem exists_read_member {name : Text} {v : Json} {text : Text} {bound : Nat}
    (h : SpellsMember (name, v) text) (hv : ReadsValues bound) (hb : 2 * text.length ≤ bound)
    {rest : Text} (hr : Ends rest) :
    ∃ cs cs₁ cs₂, text ++ rest = .char '"' :: cs ∧ string? cs = some (name, cs₁) ∧
      skip cs₁ = .char ':' :: cs₂ ∧ value? bound (skip cs₂) = some (v, rest) := by
  cases h with
  | @mk name v inside b b' text hn hbl hbl' ht =>
    simp only [List.length_append, List.length_cons] at hb
    refine ⟨inside ++ .char '"' :: (b ++ .char ':' :: (b' ++ (text ++ rest))), _,
      b' ++ (text ++ rest), ?_,
      string?_eq_some_iff.2 ⟨inside, hn, rfl⟩, ?_, ?_⟩
    · simp only [List.append_assoc, List.cons_append]
    · rw [skip_append hbl]
      exact skip_cons (by decide) _
    · rw [ht.skip_append hbl']
      exact hv v text rest ht hr (by omega)

theorem readsMembers_succ {bound : Nat} (hv : ReadsValues bound) (hm : ReadsMembers bound) :
    ReadsMembers (bound + 1) := by
  intro members text rest h hb
  cases h with
  | @one member inside b hmt hbl =>
    simp only [List.length_append] at hb
    obtain ⟨name, v⟩ := member
    have hends : Ends (b ++ .char '\x7d' :: rest) := (ends_cons (by simp) rest).blanks_append hbl
    obtain ⟨cs, cs₁, cs₂, hcs, hn, hc, hval⟩ := exists_read_member hmt hv (by omega) hends
    rw [List.append_assoc, hcs]
    refine members?_one hn hc hval ?_
    rw [skip_append hbl]
    exact skip_cons (by decide) rest
  | @more member members inside b b' texts hmt hbl hbl' hms =>
    simp only [List.length_append, List.length_cons] at hb
    obtain ⟨name, v⟩ := member
    have hends : Ends (b ++ .char ',' :: (b' ++ (texts ++ .char '\x7d' :: rest))) :=
      (ends_cons (by simp) _).blanks_append hbl
    have hsep : skip (b ++ .char ',' :: (b' ++ (texts ++ .char '\x7d' :: rest))) =
        .char ',' :: (b' ++ (texts ++ .char '\x7d' :: rest)) := by
      rw [skip_append hbl]
      exact skip_cons (by decide) _
    obtain ⟨cs, cs₁, cs₂, hcs, hn, hc, hval⟩ := exists_read_member hmt hv (by omega) hends
    simp only [List.append_assoc, List.cons_append]
    rw [hcs]
    refine members?_more hn hc hval hsep ?_
    obtain ⟨more, rfl⟩ := hms.exists_quote
    rw [skip_append hbl', List.cons_append, skip_cons (by decide)]
    exact hm members _ rest hms (by omega)

theorem readsAll (bound : Nat) : ReadsValues bound ∧ ReadsItems bound ∧ ReadsMembers bound := by
  induction bound with
  | zero =>
    refine ⟨?_, ?_, ?_⟩
    · intro v text rest h _ hb
      have := h.length_pos
      omega
    · intro items text rest h hb
      omega
    · intro members text rest h hb
      omega
  | succ bound ih =>
    obtain ⟨hv, hi, hm⟩ := ih
    exact ⟨readsValues_succ hi hm, readsItems_succ hv hi, readsMembers_succ hv hm⟩

/-! ## What is read was written -/

/-- What is read as a value with this bound is a text of it. -/
def ValuesSound (bound : Nat) : Prop :=
  ∀ {cs v rest}, value? bound cs = some (v, rest) → ∃ text, Spells v text ∧ cs = text ++ rest

/-- What is read as the items of an array with this bound is a text of them. -/
def ItemsSound (bound : Nat) : Prop :=
  ∀ {cs items rest}, items? bound cs = some (items, rest) →
    ∃ text, SpellsItems items text ∧ cs = text ++ .char ']' :: rest

/-- What is read as the members of an object with this bound is a text of them. -/
def MembersSound (bound : Nat) : Prop :=
  ∀ {cs members rest}, members? bound cs = some (members, rest) →
    ∃ text, SpellsMembers members text ∧ cs = text ++ .char '\x7d' :: rest

theorem valuesSound_succ {bound : Nat} (hi : ItemsSound bound) (hm : MembersSound bound) :
    ValuesSound (bound + 1) := by
  intro cs v rest h
  unfold value? at h
  split at h
  · exact absurd h (by simp)
  rename_i c cs'
  obtain ⟨b, hb, hskip⟩ := exists_blanks_skip cs'
  split at h
  · rename_i hc
    subst hc
    split at h
    · rename_i s rest' hs
      simp only [Option.some.injEq, Prod.mk.injEq] at h
      obtain ⟨rfl, rfl⟩ := h
      obtain ⟨text, ht, rfl⟩ := string?_eq_some_iff.1 hs
      exact ⟨_, .string ht, by simp⟩
    · exact absurd h (by simp)
  split at h
  · rename_i hc
    subst hc
    split at h
    · rename_i rest' hs
      simp only [Option.some.injEq, Prod.mk.injEq] at h
      obtain ⟨rfl, rfl⟩ := h
      exact ⟨_, .emptyArray hb, by rw [hskip, hs]; simp⟩
    · split at h
      · rename_i items rest' hitems
        simp only [Option.some.injEq, Prod.mk.injEq] at h
        obtain ⟨rfl, rfl⟩ := h
        obtain ⟨text, ht, hs⟩ := hi hitems
        exact ⟨_, .array hb ht, by rw [hskip, hs]; simp⟩
      · exact absurd h (by simp)
  split at h
  · rename_i hc
    subst hc
    split at h
    · rename_i rest' hs
      simp only [Option.some.injEq, Prod.mk.injEq] at h
      obtain ⟨rfl, rfl⟩ := h
      exact ⟨_, .emptyObject hb, by rw [hskip, hs]; simp⟩
    · split at h
      · rename_i members rest' hmembers
        simp only [Option.some.injEq, Prod.mk.injEq] at h
        obtain ⟨rfl, rfl⟩ := h
        obtain ⟨text, ht, hs⟩ := hm hmembers
        exact ⟨_, .object hb ht, by rw [hskip, hs]; simp⟩
      · exact absurd h (by simp)
  · obtain ⟨text, ht, hs⟩ := exists_scalarText h
    exact ⟨text, .scalar ht, hs⟩

theorem itemsSound_succ {bound : Nat} (hv : ValuesSound bound) (hi : ItemsSound bound) :
    ItemsSound (bound + 1) := by
  intro cs items rest h
  unfold items? at h
  split at h
  · exact absurd h (by simp)
  rename_i v rest₁ hval
  obtain ⟨text, ht, rfl⟩ := hv hval
  obtain ⟨b, hb, hskip⟩ := exists_blanks_skip rest₁
  split at h
  · rename_i rest₂ hs
    simp only [Option.some.injEq, Prod.mk.injEq] at h
    obtain ⟨rfl, rfl⟩ := h
    exact ⟨_, .one ht hb, by rw [hskip, hs]; simp⟩
  · rename_i rest₂ hs
    obtain ⟨b', hb', hskip'⟩ := exists_blanks_skip rest₂
    split at h
    · rename_i items' rest₃ hitems
      simp only [Option.some.injEq, Prod.mk.injEq] at h
      obtain ⟨rfl, rfl⟩ := h
      obtain ⟨texts, hts, hs'⟩ := hi hitems
      exact ⟨_, .more ht hb hb' hts, by rw [hskip, hs, hskip', hs']; simp⟩
    · exact absurd h (by simp)
  · exact absurd h (by simp)

theorem membersSound_succ {bound : Nat} (hv : ValuesSound bound) (hm : MembersSound bound) :
    MembersSound (bound + 1) := by
  intro cs members rest h
  unfold members? at h
  split at h
  · rename_i cs'
    split at h
    · exact absurd h (by simp)
    rename_i name rest₁ hname
    obtain ⟨inside, hn, rfl⟩ := string?_eq_some_iff.1 hname
    obtain ⟨b, hb, hskip⟩ := exists_blanks_skip rest₁
    split at h
    · rename_i rest₂ hcolon
      obtain ⟨b', hb', hskip'⟩ := exists_blanks_skip rest₂
      split at h
      · exact absurd h (by simp)
      rename_i v rest₃ hval
      obtain ⟨text, ht, hs⟩ := hv hval
      obtain ⟨b₃, hb₃, hskip₃⟩ := exists_blanks_skip rest₃
      split at h
      · rename_i rest₄ hclose
        simp only [Option.some.injEq, Prod.mk.injEq] at h
        obtain ⟨rfl, rfl⟩ := h
        refine ⟨_, .one (.mk hn hb hb' ht) hb₃, ?_⟩
        rw [hskip, hcolon, hskip', hs, hskip₃, hclose]
        simp
      · rename_i rest₄ hcomma
        obtain ⟨b₄, hb₄, hskip₄⟩ := exists_blanks_skip rest₄
        split at h
        · rename_i members' rest₅ hmembers
          simp only [Option.some.injEq, Prod.mk.injEq] at h
          obtain ⟨rfl, rfl⟩ := h
          obtain ⟨texts, hts, hs'⟩ := hm hmembers
          refine ⟨_, .more (.mk hn hb hb' ht) hb₃ hb₄ hts, ?_⟩
          rw [hskip, hcolon, hskip', hs, hskip₃, hcomma, hskip₄, hs']
          simp
        · exact absurd h (by simp)
      · exact absurd h (by simp)
    · exact absurd h (by simp)
  · exact absurd h (by simp)

theorem readsSoundly (bound : Nat) :
    ValuesSound bound ∧ ItemsSound bound ∧ MembersSound bound := by
  induction bound with
  | zero =>
    refine ⟨?_, ?_, ?_⟩
    · intro cs v rest h
      exact absurd h (by simp [value?])
    · intro cs items rest h
      exact absurd h (by simp [items?])
    · intro cs members rest h
      exact absurd h (by simp [members?])
  | succ bound ih =>
    obtain ⟨hv, hi, hm⟩ := ih
    exact ⟨valuesSound_succ hi hm, itemsSound_succ hv hi, membersSound_succ hv hm⟩

/-! ## Whole texts -/

/-- **The reader takes exactly the texts of the grammar, each for its value.** -/
theorem parseText?_eq_some_iff {cs : Text} {v : Json} :
    parseText? cs = some v ↔ IsSpellingOf v cs := by
  constructor
  · intro h
    rw [parseText?] at h
    split at h
    · rename_i v' rest hval
      split at h
      · rename_i hrest
        obtain rfl := Option.some.inj h
        obtain ⟨b, hb, hskip⟩ := exists_blanks_skip cs
        obtain ⟨b', hb', hskip'⟩ := exists_blanks_skip rest
        rw [List.isEmpty_iff.1 hrest, List.append_nil] at hskip'
        obtain ⟨inside, hv, hs⟩ := (readsSoundly _).1 hval
        exact ⟨b, inside, b', hb, hv, hb', by rw [hskip, hs, hskip']⟩
      · exact absurd h (by simp)
    · exact absurd h (by simp)
  · rintro ⟨b, inside, b', hb, hv, hb', rfl⟩
    have hends := ends_nil.blanks_append hb'
    rw [List.append_nil] at hends
    have hread := (readsAll (2 * (b ++ (inside ++ b')).length + 2)).1 v inside b' hv hends (by
      simp only [List.length_append]
      omega)
    rw [parseText?, hv.skip_append hb, hread]
    simp [skip_blanks hb']

/-- No text stands for two values. -/
theorem IsSpellingOf.unique {v w : Json} {text : Text} (hv : IsSpellingOf v text)
    (hw : IsSpellingOf w text) : v = w :=
  Option.some.inj ((parseText?_eq_some_iff.2 hv).symm.trans (parseText?_eq_some_iff.2 hw))

/-- A text that is refused stands for no value. -/
theorem parseText?_eq_none_iff {cs : Text} :
    parseText? cs = none ↔ ∀ v, ¬ IsSpellingOf v cs := by
  rw [Option.eq_none_iff_forall_not_mem]
  constructor
  · intro h v hv
    exact h v (parseText?_eq_some_iff.2 hv)
  · intro h v hv
    exact h v (parseText?_eq_some_iff.1 hv)

/-! ## Objects as they are written -/

/-- The ways to write an object with these members, in this order. -/
inductive ObjectText : List (Text × Json) → Text → Prop where
  | empty {b : Text} : Blanks b → ObjectText [] (.char '\x7b' :: (b ++ [.char '\x7d']))
  | members {members : List (Text × Json)} {b text : Text} :
      Blanks b → SpellsMembers members text →
      ObjectText members (.char '\x7b' :: (b ++ (text ++ [.char '\x7d'])))

/-- The texts of an object with these members, with blank space around it. -/
def IsObjectOf (members : List (Text × Json)) (text : Text) : Prop :=
  ∃ b inside b', Blanks b ∧ ObjectText members inside ∧ Blanks b' ∧ text = b ++ (inside ++ b')

theorem UnsignedText.ne_object {negative : Bool} {v : Json} {text : Text}
    (h : UnsignedText negative v text) (members : List (Text × Json)) : v ≠ .object members := by
  cases h <;> exact Json.noConfusion

theorem ScalarText.ne_object {v : Json} {text : Text} (h : ScalarText v text)
    (members : List (Text × Json)) : v ≠ .object members := by
  cases h with
  | word hw =>
    rintro rfl
    simp [words] at hw
  | least => exact Json.noConfusion
  | positive hu => exact hu.ne_object members
  | negative hu => exact hu.ne_object members

theorem spells_object_iff {table : List (Text × Json)} {text : Text} :
    Spells (.object table) text ↔
      ∃ members, ObjectText members text ∧ table = Keyed.ofPairs members := by
  constructor
  · intro h
    cases h with
    | scalar hs => exact absurd rfl (hs.ne_object table)
    | emptyObject hb => exact ⟨[], .empty hb, rfl⟩
    | object hb hms => exact ⟨_, .members hb hms, rfl⟩
  · rintro ⟨members, h, rfl⟩
    cases h with
    | empty hb => exact .emptyObject hb
    | members hb hms => exact .object hb hms

/-- **A text stands for an object if it is written with members that bind to it.** -/
theorem isSpellingOf_object_iff {table : List (Text × Json)} {text : Text} :
    IsSpellingOf (.object table) text ↔
      ∃ members, IsObjectOf members text ∧ table = Keyed.ofPairs members := by
  constructor
  · rintro ⟨b, inside, b', hb, hv, hb', rfl⟩
    obtain ⟨members, hm, rfl⟩ := spells_object_iff.1 hv
    exact ⟨members, ⟨b, inside, b', hb, hm, hb', rfl⟩, rfl⟩
  · rintro ⟨members, ⟨b, inside, b', hb, hm, hb', rfl⟩, rfl⟩
    exact ⟨b, inside, b', hb, spells_object_iff.2 ⟨members, hm, rfl⟩, hb', rfl⟩

end CatalogCache.Json
