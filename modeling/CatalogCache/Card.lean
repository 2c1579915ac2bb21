import CatalogCache.Keyed
import CatalogCache.Text

/-!
# Model cards

A model card is a text under a key, with a freshness token that its sender chose. A card
changes only when a new token arrives: the same token with another text is no change.

Readers poll for cards. After a change a card is served until it has been read
`maxServes + 1` times; further reads are told that nothing changed and leave no trace.
-/

namespace CatalogCache

/-- A model card with what is remembered about its reads. -/
@[ext] structure Card where
  content : Text
  /-- The token of the last change. -/
  token : Text
  /-- Whether the card has not been read since its last change. -/
  dirty : Bool
  /-- How often the card has been served since its last change. -/
  serves : Nat
  deriving DecidableEq, Repr

/-- What a reader of a card is told. -/
inductive Reading where
  | fresh (content : Text)
  | notModified
  | notFound
  deriving DecidableEq, Repr

namespace Card

/-- A card is served once more than this after each change. -/
def maxServes : Nat := 10

/-- A card that has just arrived. -/
def new (content token : Text) : Card := ⟨content, token, true, 0⟩

/-- A card after another text and token arrived for it. -/
def revise (card : Card) (content token : Text) : Card :=
  if card.token = token then card else new content token

/-- Whether a card was served often enough. -/
def isExhausted (card : Card) : Bool := !card.dirty && maxServes < card.serves

/-- A card after it was read. -/
def afterRead (card : Card) : Card :=
  if card.isExhausted then card else { card with dirty := false, serves := card.serves + 1 }

/-- What a reader of the card is told. -/
def reading (card : Card) : Reading :=
  if card.isExhausted then .notModified else .fresh card.content

end Card

/-- Cards under keys, in order of first arrival. -/
abbrev Cards := Table Text Card

namespace Cards

/-- Takes in a text and token for a card. -/
def upsert (cards : Cards) (key content token : Text) : Cards :=
  match cards.find? key with
  | none => cards.insert key (.new content token)
  | some card => cards.insert key (card.revise content token)

/-- What a reader of a key is told. -/
def reading (cards : Cards) (key : Text) : Reading :=
  match cards.find? key with
  | none => .notFound
  | some card => card.reading

theorem reading_of_none {cards : Cards} {key : Text} (h : cards.find? key = none) :
    reading cards key = .notFound := by
  rw [reading, h]

theorem reading_of_exhausted {cards : Cards} {key : Text} {card : Card}
    (h : cards.find? key = some card) (hexhausted : card.isExhausted = true) :
    reading cards key = .notModified := by
  rw [reading, h]
  exact if_pos hexhausted

theorem reading_of_fresh {cards : Cards} {key : Text} {card : Card}
    (h : cards.find? key = some card) (hfresh : card.isExhausted = false) :
    reading cards key = .fresh card.content := by
  rw [reading, h]
  exact if_neg (by rw [hfresh]; exact Bool.false_ne_true)

/-- The cards after a key was read. -/
def afterRead (cards : Cards) (key : Text) : Cards := cards.adjust key Card.afterRead

theorem find?_upsert (cards : Cards) (key key' content token : Text) :
    (upsert cards key content token).find? key' =
      if key = key' then
        some (match cards.find? key with
          | none => Card.new content token
          | some card => card.revise content token)
      else cards.find? key' := by
  rw [upsert]
  split <;> rw [Table.find?_insert]

/-- Nothing is taken in exactly if the card is there with the same token. -/
theorem upsert_eq_self_iff {cards : Cards} {key content token : Text} :
    upsert cards key content token = cards ↔
      ∃ card, cards.find? key = some card ∧ card.token = token := by
  constructor
  · intro h
    have hfind := find?_upsert cards key key content token
    rw [h, if_pos rfl] at hfind
    cases hc : cards.find? key with
    | none =>
      rw [hc] at hfind
      exact absurd hfind (by simp)
    | some card =>
      rw [hc] at hfind
      refine ⟨card, rfl, ?_⟩
      by_cases ht : card.token = token
      · exact ht
      · have hnew : card = Card.new content token := by
          have hrevise : card = card.revise content token := Option.some.inj hfind
          rwa [Card.revise, if_neg ht] at hrevise
        rw [hnew]
        rfl
  · rintro ⟨card, hc, ht⟩
    rw [upsert, hc]
    dsimp only
    rw [Card.revise, if_pos ht]
    exact Table.insert_eq_self hc

theorem find?_afterRead (cards : Cards) (key key' : Text) :
    (afterRead cards key).find? key' =
      if key = key' then (cards.find? key').map Card.afterRead else cards.find? key' :=
  Table.find?_adjust cards key key' Card.afterRead

end Cards

end CatalogCache
