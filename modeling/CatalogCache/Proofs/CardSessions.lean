import CatalogCache.Proofs.Ingestion
import CatalogCache.Proofs.Polling
import Mathlib.Data.List.Induction

/-!
# What "not modified" means to a reader

A reader of a model card who is told that nothing was modified may think that the text was sent
to somebody before. The service counts the reads of a card, and after the eleventh since its last
change it says "not modified". But a read with `HEAD` counts too, and its answer carries no body.
So does a read that fails because no bytes can be made of the text. The text was sent if it is
empty, or if one of the eleven was answered 200 and asked for the body
(`notModified_delivered_iff`); eleven times `HEAD` use a card up that nobody has seen
(`notModified_undelivered`).

The count is the invariant. Between two changes of a card its record is that of the last change
with as many reads as there were answers 200 and 500 to reads of it (`window_card`).
-/

namespace CatalogCache

namespace Http

open Cards (Offer)

/-! ## What an answer is to a reader of a card -/

/-- An answer to a read of a card that was counted as a read. -/
def Answered.Counts (key : Text) (x : Answered) : Prop :=
  x.request.IsCardRead ∧ x.request.cardKey = key ∧
    (x.response.status = 200 ∨ x.response.status = 500)

/-- An answer with status 200 to a read of a card. -/
def Answered.Serves (key : Text) (x : Answered) : Prop :=
  x.request.IsCardRead ∧ x.request.cardKey = key ∧ x.response.status = 200

/-- An answer with status 200 to a read of a card, with a certain text as its body. -/
def Answered.Delivers (key content : Text) (x : Answered) : Prop :=
  x.Serves key ∧ Utf8.encodeText? content = some x.response.content

instance (key : Text) (x : Answered) : Decidable (x.Counts key) :=
  inferInstanceAs (Decidable (_ ∧ _))

/-- How many reads of a card were counted. -/
def timesCounted (key : Text) (answers : List Answered) : Nat :=
  answers.countP fun x => x.Counts key

/-- The answer to a read that was counted. -/
inductive Answered.Holds (content : Text) (x : Answered) : Prop where
  /-- The text, which is left out where the request asks for that. -/
  | sent (bytes : Bytes) :
      Utf8.encodeText? content = some bytes → x.response.status = 200 →
      x.response.content = (if x.request.headOnly then [] else bytes) → x.Holds content
  /-- No bytes can be made of the text. -/
  | failed : Utf8.encodeText? content = none → x.response.status = 500 → x.Holds content

/-- A counted read is answered 200 exactly if there are bytes to be sent. -/
theorem Answered.Holds.status_iff {content : Text} {x : Answered} (h : x.Holds content) :
    x.response.status = 200 ↔ content.IsString := by
  cases h with
  | sent bytes hbytes hstatus _ =>
    refine iff_of_true hstatus (not_not.1 fun hlost => ?_)
    rw [Utf8.encodeText?_eq_none_iff.2 hlost] at hbytes
    exact absurd hbytes (by simp)
  | failed hnone hstatus =>
    exact iff_of_false (by omega) (Utf8.encodeText?_eq_none_iff.1 hnone)

/-- **An answer 200 delivers the text if it is empty, or if the request wants a body.** -/
theorem Answered.Holds.delivers_iff {key content : Text} {x : Answered} (h : x.Holds content)
    (hserves : x.Serves key) :
    x.Delivers key content ↔ content = [] ∨ x.request.headOnly = false := by
  cases h with
  | sent bytes hbytes _ hcontent =>
    rw [Answered.Delivers, hcontent, and_iff_right hserves]
    cases x.request.headOnly with
    | true =>
      rw [if_pos rfl, Utf8.encodeText?_eq_some_nil_iff]
      simp
    | false => simp [hbytes]
  | failed _ hstatus => exact absurd (hserves.2.2.symm.trans hstatus) (by decide)

theorem Request.not_isCardRead_of_verb {r : Request} {verb : String} (h : r.verb = verb)
    (hv : verb ∉ ["GET", "HEAD"]) : ¬ r.IsCardRead := by
  rintro ⟨hget | hhead, -⟩
  · rw [← h, hget] at hv
    exact hv (by simp)
  · rw [← h, hhead] at hv
    exact hv (by simp)

namespace App

/-! ## Reads and removals -/

/-- The status by which a reader learns what is read. -/
def statusOf : Reading → Nat
  | .notFound => 404
  | .notModified => 304
  | .fresh content => if (Utf8.encodeText? content).isSome then 200 else 500

theorem status_of_isCardRead (app : App) {a : Arrival} (h : a.request.IsCardRead) :
    (app.answered a).response.status =
      statusOf (Cards.reading app.state.cards a.request.cardKey) := by
  rw [answered_response, (serve_of_isCardRead app a.id h).2]
  simp only [modelCard, Request.getD_key, Handled.response]
  cases Cards.reading app.state.cards a.request.cardKey with
  | notFound => rfl
  | notModified => rfl
  | fresh content =>
    dsimp only [statusOf]
    cases Utf8.encodeText? content with
    | some bytes => rfl
    | none => rfl

theorem cards_of_isCardRead (app : App) {a : Arrival} (h : a.request.IsCardRead) :
    (app.after a).state.cards = Cards.afterRead app.state.cards a.request.cardKey := by
  rw [after_state, (serve_of_isCardRead app a.id h).1, modelCard_state]
  rfl

theorem cards_of_isRemoval (app : App) {a : Arrival} (h : a.request.IsRemoval) :
    (app.after a).state.cards = app.state.cards := by
  rw [after_state, (serve_of_isRemoval app a.id h).1]
  rcases remove_cases app a.request with ⟨uri, -, hstate, -⟩ | ⟨hstate, -⟩
  · rw [hstate]
    rfl
  · rw [hstate]

/-! ## One request -/

/-- The text and token of a card in the cache. -/
def offer? (app : App) (key : Text) : Option Offer :=
  (app.state.cards.find? key).map fun card => ⟨card.content, card.token⟩

/-- A request changes the text or the token of a card. -/
def Changes (app : App) (key : Text) (a : Arrival) : Prop :=
  (app.after a).offer? key ≠ app.offer? key

/-- A text and token stand in the cache through all of some requests. -/
def Keeps (app : App) (key : Text) (arrivals : List Arrival) : Prop :=
  ∀ n, (app.afterAll (arrivals.take n)).offer? key = app.offer? key

/-- What a request can be to a card. -/
inductive CardStep (app : App) (key : Text) (a : Arrival) : Prop where
  /-- The card is left alone. -/
  | other :
      (app.after a).state.cards.find? key = app.state.cards.find? key →
      ¬ (app.answered a).Counts key → CardStep app key a
  | counted (card : Card) :
      app.state.cards.find? key = some card → card.isExhausted = false →
      (app.after a).state.cards.find? key = some card.afterRead →
      (app.answered a).Counts key → (app.answered a).Holds card.content → CardStep app key a
  /-- Another token arrives. -/
  | changed (content token : Text) :
      (∀ card, app.state.cards.find? key = some card → card.token ≠ token) →
      (app.after a).state.cards.find? key = some (.new content token) →
      ¬ (app.answered a).Counts key → CardStep app key a

theorem cardStep_of_isUpsert (app : App) (key : Text) {a : Arrival} (h : a.request.IsUpsert) :
    CardStep app key a := by
  have hnot : ¬ (app.answered a).Counts key := by
    intro hs
    exact Request.not_isCardRead_of_verb h.1 (by decide) hs.1
  obtain ⟨hs, -⟩ := serve_of_isUpsert app a.id h
  rcases upsert_cases app a.request with ⟨uri, upsert, -, -, hstate, -, -⟩ | ⟨hstate, -⟩
  · have hafter : (app.after a).state.cards =
        Cards.upsert app.state.cards upsert.cardKey upsert.card upsert.token := by
      rw [after_state, hs, hstate]
      rfl
    by_cases hk : upsert.cardKey = key
    · subst hk
      have hfind := Cards.find?_upsert app.state.cards upsert.cardKey upsert.cardKey upsert.card
        upsert.token
      rw [if_pos rfl, ← hafter] at hfind
      cases hc : app.state.cards.find? upsert.cardKey with
      | none =>
        rw [hc] at hfind
        refine .changed upsert.card upsert.token ?_ hfind hnot
        rw [hc]
        intro card hcard
        exact absurd hcard (by simp)
      | some card =>
        rw [hc] at hfind
        dsimp only at hfind
        by_cases ht : card.token = upsert.token
        · refine .other ?_ hnot
          rw [hfind, hc, Card.revise, if_pos ht]
        · refine .changed upsert.card upsert.token ?_ ?_ hnot
          · intro card' hcard'
            rw [hc] at hcard'
            rw [← Option.some.inj hcard']
            exact ht
          · rw [hfind, Card.revise, if_neg ht]
    · refine .other ?_ hnot
      rw [hafter, Cards.find?_upsert, if_neg hk]
  · refine .other ?_ hnot
    rw [after_state, hs, hstate]

theorem cardStep_of_isRemoval (app : App) (key : Text) {a : Arrival}
    (h : a.request.IsRemoval) : CardStep app key a := by
  have hnot : ¬ (app.answered a).Counts key := by
    intro hs
    exact Request.not_isCardRead_of_verb h.1 (by decide) hs.1
  exact .other (by rw [cards_of_isRemoval app h]) hnot

theorem cardStep_of_isCardRead (app : App) (key : Text) {a : Arrival}
    (h : a.request.IsCardRead) : CardStep app key a := by
  obtain ⟨hs, hr⟩ := serve_of_isCardRead app a.id h
  rcases modelCard_cases app a.request with ⟨card, hcard, hfresh, -, hsent⟩ | ⟨hstate, hstatus⟩
  · have hafter := cards_of_isCardRead app h
    by_cases hk : a.request.cardKey = key
    · have hread : (app.after a).state.cards.find? key = some card.afterRead := by
        rw [hafter, ← hk, Cards.find?_afterRead, if_pos rfl, hcard]
        rfl
      rw [hk] at hcard
      rw [← answered_response] at hr
      rcases hsent with ⟨bytes, hbytes, h200, hentity⟩ | ⟨hnone, h500, -⟩
      · have hs200 : (app.answered a).response.status = 200 := by rw [hr]; exact h200
        have hcontent : (app.answered a).response.content =
            if a.request.headOnly then [] else bytes := by
          rw [hr, Response.content, Handled.response, hentity]
        exact .counted card hcard hfresh hread ⟨h, hk, Or.inl hs200⟩
          (.sent bytes hbytes hs200 hcontent)
      · have hs500 : (app.answered a).response.status = 500 := by rw [hr]; exact h500
        exact .counted card hcard hfresh hread ⟨h, hk, Or.inr hs500⟩ (.failed hnone hs500)
    · refine .other ?_ ?_
      · rw [hafter, Cards.find?_afterRead, if_neg hk]
      · rintro ⟨-, hkey, -⟩
        exact hk hkey
  · refine .other ?_ ?_
    · rw [after_state, hs, hstate]
    · rintro ⟨-, -, hcounted⟩
      rw [answered_response, hr] at hcounted
      have hboth : (app.modelCard a.request).status = 200 ∨
          (app.modelCard a.request).status = 500 := hcounted
      omega

/-- **A request leaves a card alone, is a read that counts, or changes the card.** -/
theorem cardStep (app : App) (key : Text) (a : Arrival) : CardStep app key a := by
  by_cases hu : a.request.IsUpsert
  · exact cardStep_of_isUpsert app key hu
  by_cases hr : a.request.IsRemoval
  · exact cardStep_of_isRemoval app key hr
  by_cases hc : a.request.IsCardRead
  · exact cardStep_of_isCardRead app key hc
  · refine .other ?_ fun h => hc h.1
    rw [after_state, serve_state_of_other hu hr hc]

/-- A card that has changed is new. -/
theorem exists_new_of_changes {app : App} {key : Text} {a : Arrival}
    (h : app.Changes key a) :
    ∃ offer : Offer, (app.after a).state.cards.find? key = some (offer.card 0) := by
  cases cardStep app key a with
  | other hfind _ => exact absurd (by rw [offer?, hfind]; rfl) h
  | counted card hcard hfresh hfind _ _ =>
    refine absurd ?_ h
    rw [offer?, offer?, hfind, hcard, Card.afterRead, hfresh]
    rfl
  | changed content token _ hfind _ => exact ⟨⟨content, token⟩, hfind⟩

/-! ## Between two changes -/

/-- A request that does not change a card is one more read of it, or nothing to it. -/
theorem find?_after_of_not_changes {app : App} {key : Text} {a : Arrival} {offer : Offer}
    {reads : Nat} (hreads : reads ≤ 11)
    (hcard : app.state.cards.find? key = some (offer.card reads)) (h : ¬ app.Changes key a) :
    ((app.answered a).Counts key ∧ reads < 11 ∧ (app.answered a).Holds offer.content ∧
      (app.after a).state.cards.find? key = some (offer.card (reads + 1))) ∨
    (¬ (app.answered a).Counts key ∧
      (app.after a).state.cards.find? key = some (offer.card reads)) := by
  cases cardStep app key a with
  | other hfind hnot => exact Or.inr ⟨hnot, hfind.trans hcard⟩
  | counted card hcard' hfresh hfind hcounts hholds =>
    rw [hcard] at hcard'
    obtain rfl := Option.some.inj hcard'
    have hlt : reads < 11 := by
      rw [Offer.isExhausted_card, decide_eq_false_iff_not] at hfresh
      have hmax : Card.maxServes = 10 := rfl
      omega
    exact Or.inl ⟨hcounts, hlt, hholds, by rw [hfind, Offer.afterRead_card]⟩
  | changed content token hnew hfind _ =>
    refine absurd ?_ h
    intro hsame
    rw [offer?, offer?, hfind, hcard] at hsame
    have htoken : token = offer.token := congrArg Offer.token (Option.some.inj hsame)
    exact hnew _ hcard htoken.symm

theorem Keeps.not_changes {app : App} {key : Text} {a : Arrival} {rest : List Arrival}
    (h : app.Keeps key (a :: rest)) : ¬ app.Changes key a := by
  intro hc
  exact hc (h 1)

theorem Keeps.tail {app : App} {key : Text} {a : Arrival} {rest : List Arrival}
    (h : app.Keeps key (a :: rest)) : (app.after a).Keeps key rest := by
  intro n
  have hfirst : (app.after a).offer? key = app.offer? key := h 1
  rw [hfirst]
  exact h (n + 1)

theorem Keeps.append_singleton {app : App} {key : Text} {a : Arrival} {arrivals : List Arrival}
    (h : app.Keeps key arrivals) (ha : ¬ (app.afterAll arrivals).Changes key a) :
    app.Keeps key (arrivals ++ [a]) := by
  intro n
  by_cases hn : n ≤ arrivals.length
  · rw [List.take_append_of_le_length hn]
    exact h n
  · have hall : (arrivals ++ [a]).take n = arrivals ++ [a] := by
      refine List.take_of_length_le ?_
      rw [List.length_append, List.length_singleton]
      omega
    have hlast := h arrivals.length
    rw [List.take_length] at hlast
    rw [hall, afterAll, List.foldl_append, ← hlast]
    exact not_not.1 ha

/-- **While a card stands unchanged, its record counts the reads that were answered 200 or 500.**
There are never more than eleven, and each was answered with what can be sent of the card. -/
theorem window_card {later : List Arrival} {app : App} {key : Text} {offer : Offer}
    {reads : Nat} (hreads : reads ≤ 11)
    (hcard : app.state.cards.find? key = some (offer.card reads)) (h : app.Keeps key later) :
    reads + timesCounted key (app.session later) ≤ 11 ∧
      (app.afterAll later).state.cards.find? key =
        some (offer.card (reads + timesCounted key (app.session later))) ∧
      ∀ x ∈ app.session later, x.Counts key → x.Holds offer.content := by
  induction later generalizing app reads with
  | nil => exact ⟨hreads, hcard, fun x hx => absurd hx List.not_mem_nil⟩
  | cons a later ih =>
    rw [session, afterAll_cons, timesCounted]
    rcases find?_after_of_not_changes hreads hcard h.not_changes with
      ⟨hcounts, hlt, hholds, hfind⟩ | ⟨hnot, hfind⟩
    · obtain ⟨hle, hlast, hall⟩ := ih hlt hfind h.tail
      rw [List.countP_cons_of_pos (by simpa using hcounts), Nat.add_comm _ 1, ← Nat.add_assoc]
      exact ⟨hle, hlast, List.forall_mem_cons.2 ⟨fun _ => hholds, hall⟩⟩
    · obtain ⟨hle, hlast, hall⟩ := ih hreads hfind h.tail
      rw [List.countP_cons_of_neg (by simpa using hnot)]
      exact ⟨hle, hlast, List.forall_mem_cons.2 ⟨fun hs => absurd hs hnot, hall⟩⟩

/-! ## The last change -/

/-- Some requests are divided at the last one that changed a card. -/
structure LastChange (app : App) (key : Text) (arrivals earlier : List Arrival) (a : Arrival)
    (later : List Arrival) : Prop where
  split : arrivals = earlier ++ a :: later
  changes : (app.afterAll earlier).Changes key a
  keeps : ((app.afterAll earlier).after a).Keeps key later

/-- A card that is not what it was has changed for a last time. -/
theorem exists_lastChange {app : App} {key : Text} {arrivals : List Arrival}
    (h : (app.afterAll arrivals).offer? key ≠ app.offer? key) :
    ∃ earlier a later, LastChange app key arrivals earlier a later := by
  induction arrivals using List.reverseRecOn with
  | nil => exact absurd rfl h
  | append_singleton arrivals b ih =>
    by_cases hb : (app.afterAll arrivals).Changes key b
    · exact ⟨arrivals, b, [], rfl, hb, fun n => by rw [List.take_nil]; rfl⟩
    · have hsame : (app.afterAll (arrivals ++ [b])).offer? key =
          (app.afterAll arrivals).offer? key := by
        rw [afterAll, List.foldl_append]
        exact not_not.1 hb
      rw [hsame] at h
      obtain ⟨earlier, a, later, rfl, hc, hk⟩ := ih h
      refine ⟨earlier, a, later ++ [b], by simp, hc, hk.append_singleton ?_⟩
      rw [afterAll, List.foldl_append] at hb
      exact hb

/-! ## The answer "not modified" -/

/-- "Not modified" is said of a card that is used up. -/
theorem exists_exhausted_of_notModified {app : App} {a : Arrival} (h : a.request.IsCardRead)
    (h304 : (app.answered a).response.status = 304) :
    ∃ card, app.state.cards.find? a.request.cardKey = some card ∧ card.isExhausted = true := by
  rw [status_of_isCardRead app h] at h304
  cases hc : app.state.cards.find? a.request.cardKey with
  | none =>
    rw [Cards.reading_of_none hc] at h304
    exact absurd h304 (by decide)
  | some card =>
    refine ⟨card, rfl, ?_⟩
    cases he : card.isExhausted with
    | true => rfl
    | false =>
      rw [Cards.reading_of_fresh hc he, statusOf] at h304
      split at h304
      · exact absurd h304 (by decide)
      · exact absurd h304 (by decide)

/-- **The text was sent if it is empty, or if one of the answers 200 was to a request for the
body.** -/
theorem exists_delivers_iff {key content : Text} {answers : List Answered}
    (hholds : ∀ x ∈ answers, x.Counts key → x.Holds content)
    (hcounted : 0 < timesCounted key answers) :
    (∃ x ∈ answers, x.Delivers key content) ↔
      content = [] ∨ ∃ x ∈ answers, x.Serves key ∧ x.request.headOnly = false := by
  have hserves : ∀ x ∈ answers, x.Serves key → x.Holds content :=
    fun x hx hs => hholds x hx ⟨hs.1, hs.2.1, Or.inl hs.2.2⟩
  constructor
  · rintro ⟨x, hx, hdelivers⟩
    have hs := hdelivers.1
    exact ((hserves x hx hs).delivers_iff hs).1 hdelivers |>.imp_right fun hh => ⟨x, hx, hs, hh⟩
  · rintro (rfl | ⟨x, hx, hs, hh⟩)
    · -- the empty text can be sent, so any of the counted reads will do
      obtain ⟨x, hx, hc⟩ := List.countP_pos_iff.1 hcounted
      have hcounts := of_decide_eq_true hc
      have hx200 := (hholds x hx hcounts).status_iff.2 (Text.isString_ofString "")
      have hs : x.Serves key := ⟨hcounts.1, hcounts.2.1, hx200⟩
      exact ⟨x, hx, ((hserves x hx hs).delivers_iff hs).2 (Or.inl rfl)⟩
    · exact ⟨x, hx, ((hserves x hx hs).delivers_iff hs).2 (Or.inr hh)⟩

/--
**"Not modified" is said after eleven reads, and these may all be without a body.**

Let a read of a card be answered 304 at the end of a session with a fresh service. Then the card
is there, and it has changed for a last time. Since then exactly eleven reads of it were
counted. They were answered 200 if bytes can be made of its text, and 500 if not. The text was
the body of an answer 200 exactly if it is empty or one of the requests that were answered 200
asked for the body.
-/
theorem notModified_delivered_iff (format : String) (arrivals : List Arrival) {get : Arrival}
    {key : Text} (hget : get.request.IsCardRead) (hkey : get.request.cardKey = key)
    (h304 : (((fresh format).afterAll arrivals).answered get).response.status = 304) :
    ∃ card, ((fresh format).afterAll arrivals).state.cards.find? key = some card ∧
      (∃ earlier a later, LastChange (fresh format) key arrivals earlier a later) ∧
      ∀ earlier a later, LastChange (fresh format) key arrivals earlier a later →
        let answers := (((fresh format).afterAll earlier).after a).session later
        timesCounted key answers = 11 ∧
          (∀ x ∈ answers, x.Counts key → (x.response.status = 200 ↔ card.content.IsString)) ∧
          ((∃ x ∈ answers, x.Delivers key card.content) ↔
            card.content = [] ∨ ∃ x ∈ answers, x.Serves key ∧ x.request.headOnly = false) := by
  subst hkey
  obtain ⟨card, hcard, hexhausted⟩ := exists_exhausted_of_notModified hget h304
  refine ⟨card, hcard, exists_lastChange ?_, ?_⟩
  · rw [offer?, hcard]
    exact Option.some_ne_none _
  · intro earlier a later h answers
    obtain ⟨offer, hnew⟩ := exists_new_of_changes h.changes
    obtain ⟨hle, hlast, hall⟩ := window_card (Nat.zero_le 11) hnew h.keeps
    rw [Nat.zero_add] at hle hlast
    have hend : (fresh format).afterAll arrivals =
        (((fresh format).afterAll earlier).after a).afterAll later := by
      rw [h.split, afterAll, List.foldl_append]
      rfl
    rw [hend, hlast] at hcard
    obtain rfl := Option.some.inj hcard
    have heleven : timesCounted get.request.cardKey answers = 11 := by
      rw [Offer.isExhausted_card, decide_eq_true_iff] at hexhausted
      exact Nat.le_antisymm hle hexhausted
    exact ⟨heleven, fun x hx hc => (hall x hx hc).status_iff,
      exists_delivers_iff hall (by omega)⟩

/-! ## A card that nobody has seen -/

/-- A card that was not used up is read once more by each request for it. -/
theorem find?_afterAll_reads {key : Text} {offer : Offer} {reads : List Arrival}
    (hreads : ∀ a ∈ reads, a.request.IsCardRead ∧ a.request.cardKey = key) {app : App} {n : Nat}
    (hcard : app.state.cards.find? key = some (offer.card n)) :
    (app.afterAll reads).state.cards.find? key = some (offer.card (n + reads.length)) := by
  induction reads generalizing app n with
  | nil => exact hcard
  | cons a reads ih =>
    obtain ⟨⟨hread, hkey⟩, hrest⟩ := List.forall_mem_cons.1 hreads
    have hnext : (app.after a).state.cards.find? key = some (offer.card (n + 1)) := by
      rw [cards_of_isCardRead app hread, hkey, Cards.find?_afterRead, if_pos rfl, hcard,
        Option.map_some, Offer.afterRead_card]
    rw [afterAll_cons, ih hrest hnext, List.length_cons, Nat.add_assoc, Nat.add_comm 1]

/-- A request for the head of an answer with a model card. -/
def cardHeadOf (key : String) : Arrival where
  id := ""
  request := ⟨"HEAD", "/modelcard", Query.keyQuery Percent.isUnreserved key, [], "", ""⟩

theorem isCardRead_cardGetOf (key : String) :
    (cardGetOf key).request.IsCardRead ∧ (cardGetOf key).request.cardKey = key := by
  have hask := asksForCard_cardGetOf key
  refine ⟨⟨Or.inl hask.verb, hask.path⟩, ?_⟩
  rw [Request.cardKey, hask.query, Query.text?_keyQuery Query.safe_isUnreserved,
    Option.getD_some]

theorem isCardRead_cardHeadOf (key : String) :
    (cardHeadOf key).request.IsCardRead ∧ (cardHeadOf key).request.cardKey = key := by
  have hverb : Text.upper "HEAD" = "HEAD" := by decide
  have hquery : (cardHeadOf key).request.query = Query.keyQuery Percent.isUnreserved key := rfl
  refine ⟨⟨Or.inr hverb, (asksForCard_cardGetOf key).path⟩, ?_⟩
  rw [Request.cardKey, hquery, Query.text?_keyQuery Query.safe_isUnreserved, Option.getD_some]

/-- An upsert that brings a card. -/
def cardPost : Arrival := sendOf "mnist_v1" (.ofStrings [97] "card" "text" "1")

/-- A session in which a card is sent and then read eleven times in the same way. -/
def sentAndRead (read : Arrival) : List Arrival := cardPost :: List.replicate 11 read

theorem state_after_cardPost :
    ((fresh "json").after cardPost).state =
      (fresh "json").state.apply "/mnist/v1/json" (.ofStrings [97] "card" "text" "1") := by
  have huri : uriOfKey (some ("mnist_v1" : Text)) (fresh "json").format =
      .ok "/mnist/v1/json" := by
    show uriOfKey (some ("mnist_v1" : Text)) "json" = _
    decide
  have hsends : Sends Percent.isUnreserved "mnist_v1" (.ofStrings [97] "card" "text" "1")
      cardPost.request := sends_sendOf _ _ _ _ _
  have hserved := serve_of_sends Query.safe_isUnreserved huri hsends cardPost.id
  rw [after_state, hserved.2]

theorem find?_after_sentAndRead {read : Arrival}
    (hread : read.request.IsCardRead ∧ read.request.cardKey = "card") :
    ((fresh "json").afterAll (sentAndRead read)).state.cards.find? ("card" : Text) =
      some (Offer.card ⟨"text", "1"⟩ 11) := by
  have hnew : ((fresh "json").after cardPost).state.cards.find? ("card" : Text) =
      some (Offer.card ⟨"text", "1"⟩ 0) := by
    rw [state_after_cardPost]
    rfl
  have hreads : ∀ a ∈ List.replicate 11 read,
      a.request.IsCardRead ∧ a.request.cardKey = "card" := by
    intro a ha
    rw [List.eq_of_mem_replicate ha]
    exact hread
  have hlast := find?_afterAll_reads hreads hnew
  rw [List.length_replicate] at hlast
  exact hlast

/-- The twelfth reader is told that nothing was modified. -/
theorem notModified_after_sentAndRead {read : Arrival}
    (hread : read.request.IsCardRead ∧ read.request.cardKey = "card") :
    (((fresh "json").afterAll (sentAndRead read)).answered (cardGetOf "card")).response.status =
      304 := by
  obtain ⟨hget, hkey⟩ := isCardRead_cardGetOf "card"
  rw [status_of_isCardRead _ hget, hkey, Cards.reading, find?_after_sentAndRead hread]
  show statusOf (Offer.card ⟨"text", "1"⟩ 11).reading = 304
  rw [Offer.reading_card]
  rfl

/-- Eleven readers get the text, and the twelfth is told that nothing was modified. -/
theorem notModified_delivered_iff_mnist :
    ((cardGetOf "card").request.IsCardRead ∧ (cardGetOf "card").request.cardKey = "card" ∧
      (((fresh "json").afterAll (sentAndRead (cardGetOf "card"))).answered
        (cardGetOf "card")).response.status = 304) ∧
    ∃ card, ((fresh "json").afterAll (sentAndRead (cardGetOf "card"))).state.cards.find?
        ("card" : Text) = some card ∧
      (∃ earlier a later,
        LastChange (fresh "json") "card" (sentAndRead (cardGetOf "card")) earlier a later) ∧
      ∀ earlier a later,
        LastChange (fresh "json") "card" (sentAndRead (cardGetOf "card")) earlier a later →
          let answers := (((fresh "json").afterAll earlier).after a).session later
          timesCounted "card" answers = 11 ∧
            (∀ x ∈ answers, x.Counts "card" → (x.response.status = 200 ↔ card.content.IsString)) ∧
            ((∃ x ∈ answers, x.Delivers "card" card.content) ↔
              card.content = [] ∨ ∃ x ∈ answers, x.Serves "card" ∧ x.request.headOnly = false) := by
  obtain ⟨hget, hkey⟩ := isCardRead_cardGetOf "card"
  have h304 := notModified_after_sentAndRead (isCardRead_cardGetOf "card")
  exact ⟨⟨hget, hkey, h304⟩,
    notModified_delivered_iff "json" (sentAndRead (cardGetOf "card")) hget hkey h304⟩

/-! ### Reads without a body -/

/-- An answer to a read that wants no body has none. -/
theorem content_of_headOnly (app : App) {a : Arrival} (h : a.request.IsCardRead)
    (hhead : a.request.headOnly = true) : (app.answered a).response.content = [] := by
  rw [answered_response, (serve_of_isCardRead app a.id h).2, Handled.response, Response.content]
  dsimp only
  split
  · exact if_pos hhead
  · rfl
  · rfl

/-- **A reader is told that a card was not modified which nobody has been sent.** -/
theorem notModified_undelivered :
    (((fresh "json").afterAll (sentAndRead (cardHeadOf "card"))).answered
        (cardGetOf "card")).response.status = 304 ∧
      ((fresh "json").afterAll (sentAndRead (cardHeadOf "card"))).offer? "card" =
        some ⟨"text", "1"⟩ ∧
      ∀ x ∈ (fresh "json").session (sentAndRead (cardHeadOf "card")),
        ¬ x.Delivers "card" "text" := by
  have hhead := isCardRead_cardHeadOf "card"
  refine ⟨notModified_after_sentAndRead hhead, ?_, ?_⟩
  · rw [offer?, find?_after_sentAndRead hhead]
    rfl
  · intro x hx hdelivers
    obtain ⟨app, a, ha, rfl⟩ := exists_arrival_of_mem_session hx
    rcases List.mem_cons.1 ha with rfl | ha
    · have hpost : cardPost.request.IsUpsert := Request.isUpsert_mk _ _ _ _
      exact Request.not_isCardRead_of_verb hpost.1 (by decide) hdelivers.1.1
    · obtain rfl := List.eq_of_mem_replicate ha
      have hempty := hdelivers.2
      rw [content_of_headOnly app hhead.1 rfl] at hempty
      exact absurd (Utf8.encodeText?_eq_some_nil_iff.1 hempty) (by decide)

end App

end Http

end CatalogCache
