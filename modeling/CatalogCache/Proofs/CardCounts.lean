import CatalogCache.Proofs.Polling

/-!
# Cards without a mark for what is unread

The record of a card has a mark beside its count of serves: it is `dirty` until it is read for
the first time after a change. A reader is told that nothing changed when the mark is off *and*
the count is above its bound. The first of these two conditions never decides anything.

To see it, the mark is left out. A `Tally` is a record with a count alone, and a store of tallies
takes the same calls and looks at nothing but the count. After every history the store of cards
is the store of tallies with the marks filled in, on exactly where the count is zero
(`after_eq_map`). This one equation is the simulation: it holds before the first call, every call
keeps it, and both stores tell a reader the same under it.
-/

namespace CatalogCache

/-! ## One record -/

/-- A model card with the number of its serves since its last change. -/
@[ext] structure Tally where
  content : Text
  token : Text
  serves : Nat
  deriving DecidableEq, Repr

namespace Tally

def new (content token : Text) : Tally := ⟨content, token, 0⟩

def revise (tally : Tally) (content token : Text) : Tally :=
  if tally.token = token then tally else new content token

def reading (tally : Tally) : Reading :=
  if Card.maxServes < tally.serves then .notModified else .fresh tally.content

def afterRead (tally : Tally) : Tally :=
  if Card.maxServes < tally.serves then tally else { tally with serves := tally.serves + 1 }

/-- The card with the count of a tally, and the mark that follows from it. -/
def card (tally : Tally) : Card where
  content := tally.content
  token := tally.token
  dirty := tally.serves == 0
  serves := tally.serves

/-- A count above the bound is not zero, so the mark is off. -/
theorem isExhausted_card (tally : Tally) :
    tally.card.isExhausted = decide (Card.maxServes < tally.serves) := by
  rw [Bool.eq_iff_iff, Card.isExhausted, Bool.and_eq_true, decide_eq_true_iff, decide_eq_true_iff]
  simp only [card, Bool.not_eq_true', beq_eq_false_iff_ne]
  omega

theorem reading_card (tally : Tally) : tally.card.reading = tally.reading := by
  rw [Card.reading, isExhausted_card, reading]
  by_cases h : Card.maxServes < tally.serves
  · rw [if_pos (decide_eq_true h), if_pos h]
  · rw [if_neg (by rwa [decide_eq_true_iff]), if_neg h]
    rfl

theorem card_afterRead (tally : Tally) : tally.afterRead.card = tally.card.afterRead := by
  rw [Card.afterRead, isExhausted_card, afterRead]
  by_cases h : Card.maxServes < tally.serves
  · rw [if_pos h, if_pos (decide_eq_true h)]
  · rw [if_neg h, if_neg (by rwa [decide_eq_true_iff])]
    rfl

theorem card_revise (tally : Tally) (content token : Text) :
    (tally.revise content token).card = tally.card.revise content token := by
  have htoken : tally.card.token = tally.token := rfl
  rw [Card.revise, revise, htoken]
  split
  · rfl
  · rfl

end Tally

/-! ## The store -/

/-- Tallies under keys, in order of first arrival. -/
abbrev Tallies := Table Text Tally

namespace Tallies

open Cards (Call History)

/-- Takes in a text and token for a card. -/
def upsert (tallies : Tallies) (key content token : Text) : Tallies :=
  match tallies.find? key with
  | none => tallies.insert key (.new content token)
  | some tally => tallies.insert key (tally.revise content token)

/-- What a reader of a key is told. -/
def reading (tallies : Tallies) (key : Text) : Reading :=
  match tallies.find? key with
  | none => .notFound
  | some tally => tally.reading

/-- The tallies after a key was read. -/
def afterRead (tallies : Tallies) (key : Text) : Tallies := tallies.adjust key Tally.afterRead

/-- The store after a call. -/
def run (tallies : Tallies) : Call → Tallies
  | .upsert key content token => upsert tallies key content token
  | .read key => afterRead tallies key
  | .inspect _ => tallies

/-- The store after a history, empty before its first call. -/
def after : History → Tallies
  | [] => .empty
  | call :: earlier => run (after earlier) call

theorem reading_map_card (tallies : Tallies) (key : Text) :
    Cards.reading (tallies.map Tally.card) key = reading tallies key := by
  rw [Cards.reading, Table.find?_map, reading]
  cases tallies.find? key with
  | none => rfl
  | some tally => exact tally.reading_card

theorem map_card_upsert (tallies : Tallies) (key content token : Text) :
    (upsert tallies key content token).map Tally.card =
      Cards.upsert (tallies.map Tally.card) key content token := by
  rw [Cards.upsert, Table.find?_map, upsert]
  cases tallies.find? key with
  | none => exact Table.map_insert Tally.card tallies key _
  | some tally =>
    dsimp only [Option.map_some]
    rw [Table.map_insert, Tally.card_revise]

/-- **Every call does the same to both stores.** -/
theorem map_card_run (tallies : Tallies) (call : Call) :
    (run tallies call).map Tally.card = call.run (tallies.map Tally.card) := by
  cases call with
  | upsert key content token => exact map_card_upsert tallies key content token
  | read key => exact Table.map_adjust Tally.card_afterRead tallies key
  | inspect key => rfl

/-- **The store of cards is the store of tallies, with marks that follow from the counts.** -/
theorem after_eq_map (history : History) :
    Cards.after history = (after history).map Tally.card := by
  induction history with
  | nil => rfl
  | cons call earlier ih => rw [Cards.after, after, ih, map_card_run]

/-! ## What readers are told -/

/-- What the reads of a history are told, the newest first, by a store that tells a reader of a
key something after each history. -/
def readings (tells : History → Text → Reading) : History → List Reading
  | [] => []
  | .read key :: earlier => tells earlier key :: readings tells earlier
  | .upsert _ _ _ :: earlier | .inspect _ :: earlier => readings tells earlier

theorem readings_congr {tells tells' : History → Text → Reading}
    (h : ∀ history key, tells history key = tells' history key) (history : History) :
    readings tells history = readings tells' history :=
  congrArg (readings · history) (funext fun history => funext fun key => h history key)

theorem reading_after_eq_tally (history : History) (key : Text) :
    Cards.reading (Cards.after history) key = reading (after history) key := by
  rw [after_eq_map, reading_map_card]

theorem reading_eq_notModified_iff {tallies : Tallies} {key : Text} :
    reading tallies key = .notModified ↔
      ∃ tally, tallies.find? key = some tally ∧ Card.maxServes < tally.serves := by
  rw [reading]
  cases tallies.find? key with
  | none => simp
  | some tally =>
    by_cases h : Card.maxServes < tally.serves
    · simp [Tally.reading, h]
    · simp [Tally.reading, h]

/-- The count of a record has a bound, and tells the mark. -/
theorem serves_le_and_dirty_eq {history : History} {key : Text} {card : Card}
    (h : (Cards.after history).find? key = some card) :
    card.serves ≤ Card.maxServes + 1 ∧ card.dirty = (card.serves == 0) := by
  constructor
  · rw [Cards.find?_after] at h
    obtain ⟨offer, -, rfl⟩ := Option.map_eq_some_iff.1 h
    exact Nat.min_le_right _ _
  · rw [after_eq_map, Table.find?_map] at h
    obtain ⟨tally, -, rfl⟩ := Option.map_eq_some_iff.1 h
    rfl

/--
**The mark for what is unread is redundant.**

Whatever calls a store of cards has seen, its readers were told the same as those of the store
that keeps counts alone, where "not modified" is said exactly if the count is above the bound. The
one store can be made from the other. Every record has a count at most one above the bound, and
is marked exactly if the count is zero.
-/
theorem mark_redundant (history : History) :
    (readings (fun earlier => Cards.reading (Cards.after earlier)) history =
      readings (fun earlier => reading (after earlier)) history) ∧
    (∀ key, reading (after history) key = .notModified ↔
      ∃ tally, (after history).find? key = some tally ∧ Card.maxServes < tally.serves) ∧
    Cards.after history = (after history).map Tally.card ∧
    (∀ key card, (Cards.after history).find? key = some card →
      card.serves ≤ Card.maxServes + 1 ∧ card.dirty = (card.serves == 0)) := by
  refine ⟨readings_congr reading_after_eq_tally history, ?_, after_eq_map history, ?_⟩
  · intro key
    exact reading_eq_notModified_iff
  · intro key card h
    exact serves_le_and_dirty_eq h

end Tallies

end CatalogCache
