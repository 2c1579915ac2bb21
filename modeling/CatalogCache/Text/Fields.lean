/-!
# Fields of a text

A mark divides a text into fields: one more field than there are marks, some of them
perhaps empty.

Main statements: `joinFields_fields`, the fields with marks between them are the text again,
and `not_mem_of_mem_fields`, no field holds the mark. `append_mark_eq_iff` says in which ways a
text can be divided in two.
-/

namespace CatalogCache.Text

/-- Puts a character in front of the first field. -/
def consField (c : Char) : List (List Char) → List (List Char)
  | [] => [[c]]
  | field :: rest => (c :: field) :: rest

/-- The fields of a text. -/
def fields (mark : Char) : List Char → List (List Char)
  | [] => [[]]
  | c :: rest => if c = mark then [] :: fields mark rest else consField c (fields mark rest)

/-- Fields with a mark between them. -/
def joinFields (mark : Char) : List (List Char) → List Char
  | [] => []
  | [field] => field
  | field :: rest => field ++ mark :: joinFields mark rest

theorem fields_ne_nil (mark : Char) (cs : List Char) : fields mark cs ≠ [] := by
  cases cs with
  | nil => simp [fields]
  | cons c rest =>
    rw [fields]
    split
    · simp
    · cases fields mark rest <;> simp [consField]

theorem joinFields_consField (mark c : Char) {fs : List (List Char)} (h : fs ≠ []) :
    joinFields mark (consField c fs) = c :: joinFields mark fs := by
  match fs with
  | [] => exact absurd rfl h
  | [_] => rfl
  | _ :: _ :: _ => rfl

/-- The fields with marks between them are the text again. -/
theorem joinFields_fields (mark : Char) (cs : List Char) :
    joinFields mark (fields mark cs) = cs := by
  induction cs with
  | nil => rfl
  | cons c rest ih =>
    rw [fields]
    split
    · rename_i h
      -- the empty first field is followed by a mark, for there is a second one
      have hne := fields_ne_nil mark rest
      cases hf : fields mark rest with
      | nil => exact absurd hf hne
      | cons f fs =>
        rw [joinFields, ← hf, ih, h, List.nil_append]
        exact List.cons_ne_nil f fs ∘ (hf ▸ ·)
    · rw [joinFields_consField mark c (fields_ne_nil mark rest), ih]

/-- A text with one field is that field. -/
theorem eq_of_fields_eq_singleton {mark : Char} {cs field : List Char}
    (h : fields mark cs = [field]) : cs = field := by
  have hj := joinFields_fields mark cs
  rw [h] at hj
  exact hj.symm

/-- No field holds the mark. -/
theorem not_mem_of_mem_fields {mark : Char} {cs field : List Char}
    (h : field ∈ fields mark cs) : mark ∉ field := by
  induction cs generalizing field with
  | nil =>
    rw [fields, List.mem_singleton] at h
    rw [h]
    exact List.not_mem_nil
  | cons c rest ih =>
    rw [fields] at h
    split at h
    · rcases List.mem_cons.1 h with rfl | h
      · exact List.not_mem_nil
      · exact ih h
    · rename_i hc
      cases hf : fields mark rest with
      | nil => exact absurd hf (fields_ne_nil mark rest)
      | cons f fs =>
        rw [hf, consField] at h
        rcases List.mem_cons.1 h with rfl | h
        · intro hm
          rcases List.mem_cons.1 hm with rfl | hm
          · exact hc rfl
          · exact ih (hf ▸ List.mem_cons_self) hm
        · exact ih (hf ▸ List.mem_cons_of_mem _ h)

/-- A text without marks is one field. -/
theorem fields_of_not_mem {mark : Char} {cs : List Char} (h : mark ∉ cs) :
    fields mark cs = [cs] := by
  induction cs with
  | nil => rfl
  | cons c rest ih =>
    have hc : c ≠ mark := fun e => h (e ▸ List.mem_cons_self)
    rw [fields, if_neg hc, ih fun hm => h (List.mem_cons_of_mem _ hm), consField]

/-- A mark ends the first field. -/
theorem fields_append_mark {mark : Char} {cs : List Char} (h : mark ∉ cs) (rest : List Char) :
    fields mark (cs ++ mark :: rest) = cs :: fields mark rest := by
  induction cs with
  | nil => simp [fields]
  | cons c cs ih =>
    have hc : c ≠ mark := fun e => h (e ▸ List.mem_cons_self)
    rw [List.cons_append, fields, if_neg hc, ih fun hm => h (List.mem_cons_of_mem _ hm), consField]

/-- Two texts with a mark between them can be another two only if a part, with a mark on each of
its sides, changes over from one text to the other. -/
theorem append_mark_eq_iff {α : Type} {mark : α} {cs ds cs' ds' : List α} :
    cs ++ mark :: ds = cs' ++ mark :: ds' ↔
      cs = cs' ∧ ds = ds' ∨
      (∃ part, cs' = cs ++ mark :: part ∧ ds = part ++ mark :: ds') ∨
      ∃ part, cs = cs' ++ mark :: part ∧ ds' = part ++ mark :: ds := by
  rw [List.append_eq_append_iff]
  constructor
  · intro h
    rcases h with ⟨part, hcs, hds⟩ | ⟨part, hcs, hds⟩
    · cases part with
      | nil =>
        rw [List.append_nil] at hcs
        exact Or.inl ⟨hcs.symm, (List.cons.inj hds).2⟩
      | cons c part =>
        obtain ⟨rfl, hrest⟩ := List.cons.inj hds
        exact Or.inr (Or.inl ⟨part, hcs, hrest⟩)
    · cases part with
      | nil =>
        rw [List.append_nil] at hcs
        exact Or.inl ⟨hcs, (List.cons.inj hds).2.symm⟩
      | cons c part =>
        obtain ⟨rfl, hrest⟩ := List.cons.inj hds
        exact Or.inr (Or.inr ⟨part, hcs, hrest⟩)
  · intro h
    rcases h with ⟨rfl, rfl⟩ | ⟨part, rfl, rfl⟩ | ⟨part, rfl, rfl⟩
    · exact Or.inl ⟨[], (List.append_nil cs).symm, rfl⟩
    · exact Or.inl ⟨mark :: part, rfl, rfl⟩
    · exact Or.inr ⟨mark :: part, rfl, rfl⟩

/-- A text is divided at its last mark in one way. -/
theorem append_mark_inj {α : Type} {mark : α} {cs ds cs' ds' : List α} (hd : mark ∉ ds)
    (hd' : mark ∉ ds') : cs ++ mark :: ds = cs' ++ mark :: ds' ↔ cs = cs' ∧ ds = ds' := by
  rw [append_mark_eq_iff]
  constructor
  · intro hor
    rcases hor with h | ⟨part, -, rfl⟩ | ⟨part, -, rfl⟩
    · exact h
    · exact absurd (List.mem_append_right part List.mem_cons_self) hd
    · exact absurd (List.mem_append_right part List.mem_cons_self) hd'
  · exact Or.inl

end CatalogCache.Text
