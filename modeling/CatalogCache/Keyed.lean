/-!
# Values under keys, in order of first arrival

Both stores of the cache, the members of a JSON object, the parameters of a query and the
variables of an environment are the same thing: values found by a key, listed in the order
in which each key *first* arrived. Binding a key again changes its value and leaves its
place alone.

The first half works on plain lists of pairs, the second packs such a list with the fact
that no key stands in it twice (`Table`). Every operation comes with what it does to the
two views that matter: `find?`, the value under a key, and `keys`, the keys in order.
-/

namespace CatalogCache

namespace Keyed

variable {κ α : Type} [DecidableEq κ]

/-- The value under a key. -/
def find? (k : κ) : List (κ × α) → Option α
  | [] => none
  | (k', a) :: rest => if k' = k then some a else find? k rest

/-- Binds a key: in its place when it is bound already, at the end when it is new. -/
def put (k : κ) (a : α) : List (κ × α) → List (κ × α)
  | [] => [(k, a)]
  | (k', b) :: rest => if k' = k then (k, a) :: rest else (k', b) :: put k a rest

/-- Binds pairs from left to right, so that the last value of a repeated key stays, in the
place of the first. -/
def ofPairs (pairs : List (κ × α)) : List (κ × α) :=
  pairs.foldl (fun table pair => put pair.1 pair.2 table) []

/-- Keeps the first pair of each key. -/
def firsts : List (κ × α) → List (κ × α)
  | [] => []
  | (k, a) :: rest => (k, a) :: (firsts rest).filter (fun pair => pair.1 ≠ k)

/-- Changes the value under a key, if there is one. -/
def adjust (k : κ) (f : α → α) : List (κ × α) → List (κ × α)
  | [] => []
  | (k', a) :: rest => if k' = k then (k', f a) :: rest else (k', a) :: adjust k f rest

/-- Changes every value. -/
def mapValues {β : Type} (f : α → β) (pairs : List (κ × α)) : List (κ × β) :=
  pairs.map fun pair => (pair.1, f pair.2)

/-- The keys in order. -/
def keys (pairs : List (κ × α)) : List κ := pairs.map Prod.fst

omit [DecidableEq κ] in
@[simp] theorem keys_nil : keys ([] : List (κ × α)) = [] := rfl

omit [DecidableEq κ] in
@[simp] theorem keys_cons (k : κ) (a : α) (rest : List (κ × α)) :
    keys ((k, a) :: rest) = k :: keys rest := rfl

/-- A key has a value exactly if it is one of the keys. -/
theorem find?_isSome_iff {k : κ} {pairs : List (κ × α)} :
    (find? k pairs).isSome ↔ k ∈ keys pairs := by
  induction pairs with
  | nil => simp [find?]
  | cons p rest ih =>
    obtain ⟨k', a⟩ := p
    by_cases h : k' = k
    · simp [find?, h]
    · have h' : k ≠ k' := fun e => h e.symm
      simp [find?, h, h', ih]

theorem find?_eq_none_iff {k : κ} {pairs : List (κ × α)} :
    find? k pairs = none ↔ k ∉ keys pairs := by
  rw [← find?_isSome_iff, Bool.not_eq_true, Option.isSome_eq_false_iff,
    Option.isNone_iff_eq_none]

/-- The value under a key stands in the list beside the key. -/
theorem mem_of_find?_eq_some {k : κ} {a : α} {pairs : List (κ × α)}
    (h : find? k pairs = some a) : (k, a) ∈ pairs := by
  induction pairs with
  | nil => exact absurd h (by simp [find?])
  | cons p rest ih =>
    obtain ⟨k', b⟩ := p
    rw [find?] at h
    split at h
    · rename_i hk
      obtain rfl := Option.some.inj h
      rw [hk]
      exact List.mem_cons_self
    · exact List.mem_cons_of_mem _ (ih h)

/-- Where no key stands twice, each value is the one under its key. -/
theorem find?_eq_some_of_mem {k : κ} {a : α} {pairs : List (κ × α)} (hn : (keys pairs).Nodup)
    (h : (k, a) ∈ pairs) : find? k pairs = some a := by
  induction pairs with
  | nil => exact absurd h List.not_mem_nil
  | cons p rest ih =>
    obtain ⟨k', b⟩ := p
    rw [keys_cons, List.nodup_cons] at hn
    rw [find?]
    rcases List.mem_cons.1 h with he | hr
    · obtain ⟨rfl, rfl⟩ := Prod.mk.inj he
      exact if_pos rfl
    · have hk : k ∈ keys rest := List.mem_map_of_mem hr
      have hne : k' ≠ k := by
        rintro rfl
        exact hn.1 hk
      rw [if_neg hne, ih hn.2 hr]

/-- Where no key stands twice, a list is told by its keys in order and the values under them. -/
theorem eq_of_find? {pairs pairs' : List (κ × α)} (hn : (keys pairs).Nodup)
    (hk : keys pairs = keys pairs') (hf : ∀ k, find? k pairs = find? k pairs') :
    pairs = pairs' := by
  induction pairs generalizing pairs' with
  | nil => exact (List.map_eq_nil_iff.1 hk.symm).symm
  | cons p rest ih =>
    obtain ⟨k, a⟩ := p
    cases pairs' with
    | nil => exact absurd hk (by simp)
    | cons p' rest' =>
      obtain ⟨k', a'⟩ := p'
      rw [keys_cons, keys_cons] at hk
      obtain ⟨rfl, hrest⟩ := List.cons.inj hk
      rw [keys_cons, List.nodup_cons] at hn
      have ha : a = a' := by
        have h := hf k
        rw [find?, find?, if_pos rfl, if_pos rfl] at h
        exact Option.some.inj h
      have htail : ∀ q, find? q rest = find? q rest' := by
        intro q
        by_cases hq : k = q
        · -- the key in front stands in neither of the tails
          subst hq
          rw [find?_eq_none_iff.2 hn.1, find?_eq_none_iff.2 (hrest ▸ hn.1)]
        · have h := hf q
          rw [find?, find?, if_neg hq, if_neg hq] at h
          exact h
      rw [ha, ih hn.2 hrest htail]

theorem find?_put (k k' : κ) (a : α) (pairs : List (κ × α)) :
    find? k' (put k a pairs) = if k = k' then some a else find? k' pairs := by
  induction pairs with
  | nil => simp [put, find?]
  | cons p rest ih =>
    obtain ⟨k₀, b⟩ := p
    by_cases h : k₀ = k
    · subst h
      by_cases hk : k₀ = k' <;> simp [put, find?, hk]
    -- the slot in front is another key's
    · by_cases hk : k₀ = k'
      · subst hk
        have : k ≠ k₀ := fun e => h e.symm
        simp [put, find?, h, this]
      · simp [put, find?, h, hk, ih]

theorem keys_put (k : κ) (a : α) (pairs : List (κ × α)) :
    keys (put k a pairs) = if k ∈ keys pairs then keys pairs else keys pairs ++ [k] := by
  induction pairs with
  | nil => simp [put]
  | cons p rest ih =>
    obtain ⟨k₀, b⟩ := p
    by_cases h : k₀ = k
    · simp [put, h]
    · have h' : k ≠ k₀ := fun e => h e.symm
      by_cases hm : k ∈ keys rest <;> simp [put, h, h', ih, hm]

/-- A new key comes to the end. -/
theorem put_of_not_mem {k : κ} {pairs : List (κ × α)} (h : k ∉ keys pairs) (a : α) :
    put k a pairs = pairs ++ [(k, a)] := by
  induction pairs with
  | nil => rfl
  | cons p rest ih =>
    obtain ⟨k', b⟩ := p
    rw [keys_cons, List.mem_cons, not_or] at h
    rw [put, if_neg (Ne.symm h.1), ih h.2, List.cons_append]

/-- Pairs with different keys stay as they are. -/
theorem ofPairs_of_nodup {pairs : List (κ × α)} (h : (keys pairs).Nodup) :
    ofPairs pairs = pairs := by
  have go : ∀ rest table : List (κ × α), (keys (table ++ rest)).Nodup →
      rest.foldl (fun table pair => put pair.1 pair.2 table) table = table ++ rest := by
    intro rest
    induction rest with
    | nil =>
      intro table _
      exact (List.append_nil table).symm
    | cons p rest ih =>
      intro table hn
      have hnew : p.1 ∉ keys table := by
        rw [keys, List.map_append, List.nodup_append] at hn
        intro hm
        exact hn.2.2 p.1 hm p.1 List.mem_cons_self rfl
      rw [List.foldl_cons, put_of_not_mem hnew, ih, List.append_assoc, List.singleton_append]
      rw [List.append_assoc, List.singleton_append]
      exact hn
  exact go pairs [] h

/-- Of pairs with different keys all are the first of their key. -/
theorem firsts_of_nodup {pairs : List (κ × α)} (h : (keys pairs).Nodup) :
    firsts pairs = pairs := by
  induction pairs with
  | nil => rfl
  | cons p rest ih =>
    obtain ⟨k, a⟩ := p
    rw [keys_cons, List.nodup_cons] at h
    have hkeep : ∀ pair ∈ rest, decide (pair.1 ≠ k) = true := by
      intro pair hp
      refine decide_eq_true ?_
      intro hk
      exact h.1 (hk ▸ List.mem_map_of_mem hp)
    rw [firsts, ih h.2, List.filter_eq_self.2 hkeep]

theorem find?_append (k : κ) (front back : List (κ × α)) :
    find? k (front ++ back) = (find? k front).or (find? k back) := by
  induction front with
  | nil => rfl
  | cons p front ih =>
    obtain ⟨k', a⟩ := p
    by_cases h : k' = k
    · rw [List.cons_append, find?, find?, if_pos h, if_pos h, Option.some_or]
    · rw [List.cons_append, find?, find?, if_neg h, if_neg h, ih]

/-- Of the values that pairs bind a key to, the last stays. -/
theorem find?_ofPairs (k : κ) (pairs : List (κ × α)) :
    find? k (ofPairs pairs) = find? k pairs.reverse := by
  have go : ∀ pairs table : List (κ × α),
      find? k (pairs.foldl (fun table pair => put pair.1 pair.2 table) table) =
        (find? k pairs.reverse).or (find? k table) := by
    intro pairs
    induction pairs with
    | nil =>
      intro table
      rfl
    | cons p pairs ih =>
      intro table
      rw [List.foldl_cons, ih, find?_put, List.reverse_cons, find?_append, find?]
      by_cases h : p.1 = k
      · rw [if_pos h, if_pos h]
        cases find? k pairs.reverse <;> rfl
      · rw [if_neg h, if_neg h]
        cases find? k pairs.reverse <;> rfl
  rw [ofPairs, go]
  cases find? k pairs.reverse <;> rfl

theorem keys_adjust (k : κ) (f : α → α) (pairs : List (κ × α)) :
    keys (adjust k f pairs) = keys pairs := by
  induction pairs with
  | nil => rfl
  | cons p rest ih =>
    obtain ⟨k₀, b⟩ := p
    by_cases h : k₀ = k <;> simp [adjust, h, ih]

theorem find?_adjust (k k' : κ) (f : α → α) (pairs : List (κ × α)) :
    find? k' (adjust k f pairs) =
      if k = k' then (find? k' pairs).map f else find? k' pairs := by
  induction pairs with
  | nil => simp [adjust, find?]
  | cons p rest ih =>
    obtain ⟨k₀, b⟩ := p
    by_cases h : k₀ = k
    · subst h
      by_cases hk : k₀ = k' <;> simp [adjust, find?, hk]
    · by_cases hk : k₀ = k'
      · subst hk
        have : k ≠ k₀ := fun e => h e.symm
        simp [adjust, find?, h, this]
      · simp [adjust, find?, h, hk, ih]

omit [DecidableEq κ] in
theorem keys_mapValues {β : Type} (f : α → β) (pairs : List (κ × α)) :
    keys (mapValues f pairs) = keys pairs := by
  rw [keys, keys, mapValues, List.map_map]
  rfl

theorem find?_mapValues {β : Type} (f : α → β) (k : κ) (pairs : List (κ × α)) :
    find? k (mapValues f pairs) = (find? k pairs).map f := by
  induction pairs with
  | nil => rfl
  | cons p rest ih =>
    obtain ⟨k', a⟩ := p
    have hcons : mapValues f ((k', a) :: rest) = (k', f a) :: mapValues f rest := rfl
    by_cases h : k' = k
    · rw [hcons, find?, find?, if_pos h, if_pos h, Option.map_some]
    · rw [hcons, find?, find?, if_neg h, if_neg h, ih]

/-- A change that keeps the value under its key changes nothing. -/
theorem adjust_eq_self {k : κ} {f : α → α} {pairs : List (κ × α)}
    (h : ∀ a, find? k pairs = some a → f a = a) : adjust k f pairs = pairs := by
  induction pairs with
  | nil => rfl
  | cons p rest ih =>
    obtain ⟨k', a⟩ := p
    by_cases hk : k' = k
    · rw [adjust, if_pos hk, h a (by rw [find?, if_pos hk])]
    · rw [adjust, if_neg hk, ih fun b hb => h b (by rw [find?, if_neg hk, hb])]

/-- A key that is bound to the value it has stays as it is. -/
theorem put_eq_self {k : κ} {a : α} {pairs : List (κ × α)} (h : find? k pairs = some a) :
    put k a pairs = pairs := by
  induction pairs with
  | nil => exact absurd h (by simp [find?])
  | cons p rest ih =>
    obtain ⟨k', b⟩ := p
    by_cases hk : k' = k
    · rw [find?, if_pos hk] at h
      rw [put, if_pos hk, hk, Option.some.inj h]
    · rw [find?, if_neg hk] at h
      rw [put, if_neg hk, ih h]

theorem nodup_keys_put {k : κ} {a : α} {pairs : List (κ × α)} (h : (keys pairs).Nodup) :
    (keys (put k a pairs)).Nodup := by
  rw [keys_put]
  split
  · exact h
  · rename_i hk
    rw [List.nodup_append]
    refine ⟨h, by simp, ?_⟩
    intro x hx y hy he
    rw [List.mem_singleton] at hy
    exact hk (hy ▸ he ▸ hx)

omit [DecidableEq κ] in
theorem nodup_keys_filter {p : κ × α → Bool} {pairs : List (κ × α)} (h : (keys pairs).Nodup) :
    (keys (pairs.filter p)).Nodup :=
  h.sublist (List.Sublist.map _ List.filter_sublist)

end Keyed

/-- Values under keys, no key twice, in order of first arrival. -/
@[ext] structure Table (κ α : Type) where
  /-- The pairs in order. -/
  slots : List (κ × α)
  /-- No key stands in the table twice. -/
  nodup : (Keyed.keys slots).Nodup

namespace Table

variable {κ α : Type} [DecidableEq κ]

/-- The table without slots. -/
def empty : Table κ α := ⟨[], by simp⟩

instance : Inhabited (Table κ α) := ⟨empty⟩

/-- The value under a key. -/
def find? (t : Table κ α) (k : κ) : Option α := Keyed.find? k t.slots

/-- The keys in order of first arrival. -/
def keys (t : Table κ α) : List κ := Keyed.keys t.slots

/-- Whether a key has a slot. -/
def contains (t : Table κ α) (k : κ) : Bool := (t.find? k).isSome

/-- The number of slots. -/
def size (t : Table κ α) : Nat := t.slots.length

/-- Binds a key, keeping its place if it has one. -/
def insert (t : Table κ α) (k : κ) (a : α) : Table κ α :=
  ⟨Keyed.put k a t.slots, Keyed.nodup_keys_put t.nodup⟩

/-- Changes the value under a key, if there is one. -/
def adjust (t : Table κ α) (k : κ) (f : α → α) : Table κ α :=
  ⟨Keyed.adjust k f t.slots, by rw [Keyed.keys_adjust]; exact t.nodup⟩

/-- Changes every value. -/
def map {β : Type} (f : α → β) (t : Table κ α) : Table κ β :=
  ⟨Keyed.mapValues f t.slots, by rw [Keyed.keys_mapValues]; exact t.nodup⟩

/-- Takes a key and its place away. -/
def erase (t : Table κ α) (k : κ) : Table κ α :=
  ⟨t.slots.filter (fun pair => pair.1 ≠ k), Keyed.nodup_keys_filter t.nodup⟩

/-- Binds pairs from left to right. -/
def ofPairs (pairs : List (κ × α)) : Table κ α :=
  pairs.foldl (fun t pair => t.insert pair.1 pair.2) empty

@[simp] theorem find?_empty (k : κ) : (empty : Table κ α).find? k = none := rfl

omit [DecidableEq κ] in
@[simp] theorem keys_empty : (empty : Table κ α).keys = [] := rfl

/-- A table is told by its keys in order and the values under them. -/
theorem eq_of_find? {t t' : Table κ α} (hk : t.keys = t'.keys)
    (hf : ∀ k, t.find? k = t'.find? k) : t = t' :=
  Table.ext (Keyed.eq_of_find? t.nodup hk hf)

theorem find?_insert (t : Table κ α) (k k' : κ) (a : α) :
    (t.insert k a).find? k' = if k = k' then some a else t.find? k' :=
  Keyed.find?_put k k' a t.slots

theorem keys_insert (t : Table κ α) (k : κ) (a : α) :
    (t.insert k a).keys = if k ∈ t.keys then t.keys else t.keys ++ [k] :=
  Keyed.keys_put k a t.slots

theorem contains_insert (t : Table κ α) (k k' : κ) (a : α) :
    (t.insert k a).contains k' = (decide (k = k') || t.contains k') := by
  rw [contains, contains, find?_insert]
  by_cases h : k = k' <;> simp [h]

/-- A new key comes behind the others. -/
theorem slots_insert_of_new {t : Table κ α} {k : κ} (h : t.contains k = false) (a : α) :
    (t.insert k a).slots = t.slots ++ [(k, a)] := by
  refine Keyed.put_of_not_mem ?_ a
  rw [← Keyed.find?_isSome_iff]
  exact Bool.not_eq_true _ ▸ h

theorem find?_adjust (t : Table κ α) (k k' : κ) (f : α → α) :
    (t.adjust k f).find? k' = if k = k' then (t.find? k').map f else t.find? k' :=
  Keyed.find?_adjust k k' f t.slots

@[simp] theorem keys_adjust (t : Table κ α) (k : κ) (f : α → α) : (t.adjust k f).keys = t.keys :=
  Keyed.keys_adjust k f t.slots

omit [DecidableEq κ] in
theorem keys_map {β : Type} (f : α → β) (t : Table κ α) : (t.map f).keys = t.keys :=
  Keyed.keys_mapValues f t.slots

theorem find?_map {β : Type} (f : α → β) (t : Table κ α) (k : κ) :
    (t.map f).find? k = (t.find? k).map f :=
  Keyed.find?_mapValues f k t.slots

theorem map_insert {β : Type} (f : α → β) (t : Table κ α) (k : κ) (a : α) :
    (t.insert k a).map f = (t.map f).insert k (f a) := by
  refine eq_of_find? ?_ ?_
  · rw [keys_map, keys_insert, keys_insert, keys_map]
  · intro k'
    rw [find?_map, find?_insert, find?_insert, find?_map]
    split
    · rfl
    · rfl

/-- Where two changes of values agree, it does not matter which of the types they are made in. -/
theorem map_adjust {β : Type} {f : α → β} {g : α → α} {g' : β → β} (h : ∀ a, f (g a) = g' (f a))
    (t : Table κ α) (k : κ) : (t.adjust k g).map f = (t.map f).adjust k g' := by
  refine eq_of_find? ?_ ?_
  · rw [keys_map, keys_adjust, keys_adjust, keys_map]
  · intro k'
    rw [find?_map, find?_adjust, find?_adjust, find?_map]
    split
    · rw [Option.map_map, Option.map_map]
      exact congrArg (fun g => (t.find? k').map g) (funext h)
    · rfl

/-- A change that keeps the value under its key changes nothing. -/
theorem adjust_eq_self {t : Table κ α} {k : κ} {f : α → α}
    (h : ∀ a, t.find? k = some a → f a = a) : t.adjust k f = t :=
  Table.ext (Keyed.adjust_eq_self h)

theorem insert_eq_self {t : Table κ α} {k : κ} {a : α} (h : t.find? k = some a) :
    t.insert k a = t :=
  Table.ext (Keyed.put_eq_self h)

theorem mem_slots_iff {t : Table κ α} {k : κ} {a : α} :
    (k, a) ∈ t.slots ↔ t.find? k = some a :=
  ⟨Keyed.find?_eq_some_of_mem t.nodup, Keyed.mem_of_find?_eq_some⟩

theorem contains_iff (t : Table κ α) (k : κ) : t.contains k = true ↔ k ∈ t.keys :=
  Keyed.find?_isSome_iff

omit [DecidableEq κ] in
theorem size_eq_length_keys (t : Table κ α) : t.size = t.keys.length := by
  simp [size, keys, Keyed.keys]

/-! ## Changes at one key -/

/-- A table has become another one by a change at one key: the other keys keep their values,
and all keys their places, but for a new key at the end. -/
structure ChangedAt (k : κ) (before after : Table κ α) : Prop where
  /-- The other keys keep their values. -/
  others : ∀ k', k' ≠ k → after.find? k' = before.find? k'
  /-- No key moves, and only the one key can be new. -/
  order : after.keys = before.keys ∨ k ∉ before.keys ∧ after.keys = before.keys ++ [k]

theorem changedAt_insert (t : Table κ α) (k : κ) (a : α) : ChangedAt k t (t.insert k a) where
  others k' h := by rw [find?_insert, if_neg (Ne.symm h)]
  order := by
    rw [keys_insert]
    by_cases hk : k ∈ t.keys
    · exact Or.inl (if_pos hk)
    · exact Or.inr ⟨hk, if_neg hk⟩

theorem changedAt_adjust (t : Table κ α) (k : κ) (f : α → α) : ChangedAt k t (t.adjust k f) where
  others k' h := by rw [find?_adjust, if_neg (Ne.symm h)]
  order := Or.inl (keys_adjust t k f)

end Table

end CatalogCache
