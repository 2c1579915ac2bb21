import CatalogCache.Card

/-!
# What readers of model cards are told

A store of cards seen from outside: calls go in, and a reader is told something. What the
next reader of a key is told hangs on two facts about the calls so far: which upsert of the
key *took effect* last, and how often the key was read since.

An upsert takes effect when it is the first of its key or brings another token than the
latest one that did. The tokens A, B, A take effect three times, the tokens A, A once: what
counts is the change, not whether a token was seen before.

`find?_after` is the invariant that every call keeps. The record under a key is the text and
token of that upsert, unread exactly as long as nobody read it, with a count of serves that
stops one above `Card.maxServes`. The boundary between the eleventh and the twelfth read
comes from that bound.
-/

namespace CatalogCache.Cards

/-- A call to a store of cards. -/
inductive Call where
  /-- A text and a token arrive for a key. -/
  | upsert (key content token : Text)
  | read (key : Text)
  /-- The record of a key is looked at. -/
  | inspect (key : Text)
  deriving DecidableEq, Repr

/-- The store after a call. -/
def Call.run (cards : Cards) : Call → Cards
  | .upsert key content token => Cards.upsert cards key content token
  | .read key => afterRead cards key
  | .inspect _ => cards

/-- The calls that a store has seen, the newest first. -/
abbrev History := List Call

/-- The store after a history, empty before its first call. -/
def after : History → Cards
  | [] => .empty
  | call :: earlier => call.run (after earlier)

/-! ## What a history says about a key -/

/-- What an upsert brings. -/
@[ext] structure Offer where
  content : Text
  token : Text
  deriving DecidableEq, Repr

/-- Whether a token is news: nothing was offered yet, or the latest offer had another one. -/
def isNews (latest : Option Offer) (token : Text) : Bool :=
  latest.all fun offer => offer.token ≠ token

/-- What the latest upsert of a key that took effect brought. -/
def latest? (key : Text) : History → Option Offer
  | [] => none
  | .upsert key' content token :: earlier =>
    if key' = key ∧ isNews (latest? key earlier) token then some ⟨content, token⟩
    else latest? key earlier
  | .read _ :: earlier | .inspect _ :: earlier => latest? key earlier

/-- How often a key was read since its latest upsert that took effect. -/
def readsSince (key : Text) : History → Nat
  | [] => 0
  | .upsert key' _ token :: earlier =>
    if key' = key ∧ isNews (latest? key earlier) token then 0 else readsSince key earlier
  | .read key' :: earlier =>
    if key' = key then readsSince key earlier + 1 else readsSince key earlier
  | .inspect _ :: earlier => readsSince key earlier

/-- A call that leaves no trace at a key: it is no read of the key, and no upsert of the key
that takes effect after the calls before it. -/
def Idle (key : Text) (call : Call) (earlier : History) : Prop :=
  call ≠ .read key ∧
    ∀ content token, call = .upsert key content token → isNews (latest? key earlier) token = false

/-- Nothing was offered under a key exactly if there was no upsert of it. -/
theorem latest?_eq_none_iff {key : Text} {history : History} :
    latest? key history = none ↔ ∀ content token, Call.upsert key content token ∉ history := by
  induction history with
  | nil => simp [latest?]
  | cons call earlier ih =>
    cases call with
    | upsert key' content token =>
      by_cases hk : key' = key
      · subst hk
        -- the first upsert is always news, so a key with an upsert has a latest one
        have hne : latest? key' (.upsert key' content token :: earlier) ≠ none := by
          rw [latest?]
          cases hl : latest? key' earlier with
          | none => simp [isNews]
          | some offer => split <;> simp
        constructor
        · intro h
          exact absurd h hne
        · intro h
          exact absurd List.mem_cons_self (h content token)
      · have hk' : key ≠ key' := fun e => hk e.symm
        simp [latest?, hk, hk', ih]
    | read key' => simp [latest?, ih]
    | inspect key' => simp [latest?, ih]

theorem latest?_idle {key : Text} {call : Call} {earlier : History}
    (h : Idle key call earlier) : latest? key (call :: earlier) = latest? key earlier := by
  cases call with
  | upsert key' content token =>
    rw [latest?, if_neg]
    rintro ⟨rfl, hn⟩
    rw [h.2 content token rfl] at hn
    exact Bool.noConfusion hn
  | read key' => rfl
  | inspect key' => rfl

theorem readsSince_idle {key : Text} {call : Call} {earlier : History}
    (h : Idle key call earlier) : readsSince key (call :: earlier) = readsSince key earlier := by
  cases call with
  | upsert key' content token =>
    rw [readsSince, if_neg]
    rintro ⟨rfl, hn⟩
    rw [h.2 content token rfl] at hn
    exact Bool.noConfusion hn
  | read key' =>
    rw [readsSince, if_neg]
    rintro rfl
    exact h.1 rfl
  | inspect key' => rfl

/-- Two histories that say the same about a key still do after the same further calls. -/
theorem latest?_readsSince_append {key : Text} {one other : History}
    (hl : latest? key one = latest? key other) (hr : readsSince key one = readsSince key other)
    (later : History) :
    latest? key (later ++ one) = latest? key (later ++ other) ∧
      readsSince key (later ++ one) = readsSince key (later ++ other) := by
  induction later with
  | nil => exact ⟨hl, hr⟩
  | cons call later ih =>
    obtain ⟨hl', hr'⟩ := ih
    cases call with
    | upsert key' content token =>
      simp only [List.cons_append, latest?, readsSince, hl', hr', and_self]
    | read key' => simp only [List.cons_append, latest?, readsSince, hl', hr', and_self]
    | inspect key' => simp only [List.cons_append, latest?, readsSince, hl', hr', and_self]

/-! ## The record of a key -/

/-- The record of an offer that was read so often. -/
def Offer.card (offer : Offer) (reads : Nat) : Card where
  content := offer.content
  token := offer.token
  dirty := reads = 0
  serves := min reads (Card.maxServes + 1)

/-- The record is used up from the eleventh read on. -/
theorem Offer.isExhausted_card (offer : Offer) (reads : Nat) :
    (offer.card reads).isExhausted = decide (Card.maxServes < reads) := by
  rw [Bool.eq_iff_iff, decide_eq_true_iff, Card.isExhausted, Bool.and_eq_true, decide_eq_true_iff]
  simp only [card, Bool.not_eq_true', decide_eq_false_iff_not]
  omega

theorem Offer.afterRead_card (offer : Offer) (reads : Nat) :
    (offer.card reads).afterRead = offer.card (reads + 1) := by
  rw [Card.afterRead, isExhausted_card]
  by_cases h : Card.maxServes < reads
  · -- both sides have stopped counting
    rw [if_pos (decide_eq_true h), card, card, Card.mk.injEq]
    refine ⟨rfl, rfl, ?_, ?_⟩
    · exact decide_eq_decide.2 (by omega)
    · omega
  · rw [if_neg (by rwa [decide_eq_true_iff]), card, card, Card.mk.injEq]
    refine ⟨rfl, rfl, ?_, ?_⟩
    · exact (decide_eq_false (Nat.succ_ne_zero reads)).symm
    · dsimp only
      omega

theorem Offer.reading_card (offer : Offer) (reads : Nat) :
    (offer.card reads).reading =
      if reads ≤ Card.maxServes then .fresh offer.content else .notModified := by
  rw [Card.reading, isExhausted_card]
  by_cases h : Card.maxServes < reads
  · simp [h, Nat.not_le.2 h]
  · simp [h, Nat.not_lt.1 h, card]

theorem Offer.revise_card (offer : Offer) (reads : Nat) (content token : Text) :
    (offer.card reads).revise content token =
      if isNews (some offer) token then Offer.card ⟨content, token⟩ 0 else offer.card reads := by
  by_cases h : offer.token = token
  · simp [Card.revise, card, isNews, h]
  · simp [Card.revise, card, isNews, h, Card.new]

/-- **The record of a key is the latest offer, with the reads since.** -/
theorem find?_after (key : Text) (history : History) :
    (after history).find? key =
      (latest? key history).map fun offer => offer.card (readsSince key history) := by
  induction history with
  | nil => rfl
  | cons call earlier ih =>
    cases call with
    | upsert key' content token =>
      rw [after, Call.run, find?_upsert]
      by_cases hk : key' = key
      · subst hk
        rw [if_pos rfl, ih]
        cases hl : latest? key' earlier with
        | none => simp [latest?, readsSince, hl, isNews, Card.new, Offer.card]
        | some offer =>
          rw [Option.map_some]
          dsimp only
          rw [Offer.revise_card]
          by_cases hn : isNews (some offer) token
          · simp [latest?, readsSince, hl, hn]
          · simp [latest?, readsSince, hl, hn]
      · rw [if_neg hk, ih]
        simp [latest?, readsSince, hk]
    | read key' =>
      rw [after, Call.run, find?_afterRead, ih]
      by_cases hk : key' = key
      · cases hl : latest? key earlier with
        | none => simp [latest?, hl]
        | some offer => simp [latest?, readsSince, hl, hk, Offer.afterRead_card]
      · simp [latest?, readsSince, hk]
    | inspect key' => exact ih

/-- A reading is decided by the latest offer and the number of reads since. -/
theorem reading_after_eq (key : Text) (history : History) :
    Cards.reading (after history) key =
      match latest? key history with
      | none => .notFound
      | some offer =>
        if readsSince key history ≤ Card.maxServes then .fresh offer.content else .notModified := by
  rw [Cards.reading, find?_after]
  cases latest? key history with
  | none => rfl
  | some offer => exact offer.reading_card (readsSince key history)

/-! ## The readings of a run -/

/--
**What a reader is told is the law of the history.**

A reader of a key learns that there is no card exactly if the key had no upsert. Otherwise
the first eleven readers since the latest upsert that took effect get its text, and all
further ones learn that nothing changed. A call that leaves no trace at the key can be taken
out of the history anywhere without a difference to this reader.
-/
theorem reading_after (key : Text) (history : History) :
    (Cards.reading (after history) key = .notFound ↔
      ∀ content token, Call.upsert key content token ∉ history) ∧
    (∀ content token, Call.upsert key content token ∈ history →
      ∃ offer, latest? key history = some offer ∧
        (readsSince key history ≤ 10 →
          Cards.reading (after history) key = .fresh offer.content) ∧
        (11 ≤ readsSince key history → Cards.reading (after history) key = .notModified)) ∧
    (∀ later call earlier, history = later ++ call :: earlier → Idle key call earlier →
      Cards.reading (after history) key = Cards.reading (after (later ++ earlier)) key) := by
  refine ⟨?_, ?_, ?_⟩
  · rw [← latest?_eq_none_iff, reading_after_eq]
    cases latest? key history with
    | none => simp
    | some offer => simp; split <;> simp
  · intro content token hmem
    cases hl : latest? key history with
    | none => exact absurd hmem (latest?_eq_none_iff.1 hl content token)
    | some offer =>
      rw [reading_after_eq, hl]
      exact ⟨offer, rfl, fun hr => if_pos hr, fun hr => if_neg (Nat.not_le.2 hr)⟩
  · intro later call earlier hh hidle
    subst hh
    obtain ⟨hl, hr⟩ :=
      latest?_readsSince_append (latest?_idle hidle) (readsSince_idle hidle) later
    rw [reading_after_eq, reading_after_eq, hl, hr]

end CatalogCache.Cards
