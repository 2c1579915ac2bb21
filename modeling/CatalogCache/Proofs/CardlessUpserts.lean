import CatalogCache.Proofs.CardSessions
import CatalogCache.Proofs.Payloads
import CatalogCache.Proofs.UpsertReplies

/-!
# Upserts that name no model card

An upsert need not name a model card, and one would think that it leaves the cards alone then.
It does not. A key that is left out counts as the empty key, and the empty key is a key like any
other: a card is made under it, and a reader who names no card is served that one
(`unnamed_card_served`). How far this goes is said by `upsert_naming_no_card`.

That it goes no further is a matter of non-interference. What becomes of a card hangs on this
card and on the requests alone, not on the documents and not on the other cards
(`find?_after_congr`). So where two services agree on a card they answer alike whoever asks for
it, and they do so after any session (`find?_afterAll_congr`).
-/

namespace CatalogCache

namespace Http

/-- The body of a request gives no key of a model card, or gives `null` for it. -/
def Request.NamesNoCard (r : Request) : Prop :=
  ∀ members, Json.Holds r.body (.object members) →
    Keyed.find? ("modelCardKey" : Text) members = none ∨
      Keyed.find? ("modelCardKey" : Text) members = some .null

namespace App

/-! ## What becomes of one card -/

section Congruence

variable {one other : App} {key : Text}

theorem uriOf_congr (hformat : one.format = other.format) (r : Request) :
    one.uriOf r = other.uriOf r := by
  rw [uriOf, uriOf, hformat]

/-- What a request makes of a card hangs on this card alone. -/
theorem find?_after_congr (hformat : one.format = other.format)
    (hcard : one.state.cards.find? key = other.state.cards.find? key) (a : Arrival) :
    (one.after a).state.cards.find? key = (other.after a).state.cards.find? key := by
  by_cases hu : a.request.IsUpsert
  · rw [after_state, after_state, (serve_of_isUpsert one a.id hu).1,
      (serve_of_isUpsert other a.id hu).1, App.upsert, App.upsert, uriOf_congr hformat]
    cases other.uriOf a.request with
    | error error => exact hcard
    | ok uri =>
      cases upsertOf a.request.body with
      | error cause => exact hcard
      | ok upsert =>
        show (Cards.upsert one.state.cards upsert.cardKey _ _).find? key =
          (Cards.upsert other.state.cards upsert.cardKey _ _).find? key
        rw [Cards.find?_upsert, Cards.find?_upsert]
        by_cases hk : upsert.cardKey = key
        · rw [if_pos hk, if_pos hk, hk, hcard]
        · rw [if_neg hk, if_neg hk, hcard]
  by_cases hr : a.request.IsRemoval
  · rw [cards_of_isRemoval one hr, cards_of_isRemoval other hr, hcard]
  by_cases hc : a.request.IsCardRead
  · rw [cards_of_isCardRead one hc, cards_of_isCardRead other hc, Cards.find?_afterRead,
      Cards.find?_afterRead, hcard]
  · rw [after_state, after_state, serve_state_of_other hu hr hc, serve_state_of_other hu hr hc,
      hcard]

/-- **What a session makes of a card hangs on this card alone.** -/
theorem find?_afterAll_congr (hformat : one.format = other.format)
    (hcard : one.state.cards.find? key = other.state.cards.find? key) (arrivals : List Arrival) :
    (one.afterAll arrivals).state.cards.find? key =
      (other.afterAll arrivals).state.cards.find? key := by
  induction arrivals generalizing one other with
  | nil => exact hcard
  | cons a rest ih => exact ih hformat (find?_after_congr hformat hcard a)

end Congruence

/-! ## What is answered under the path of the cards -/

theorem eq_modelCard_of_found {r : Request} (hpath : r.absolutePath = "/modelcard".toList)
    {e : Endpoint} (h : r.route = .found e) : e = .modelCard := by
  have hcandidates : Route.candidates "/modelcard".toList = [.modelCard] := by decide
  obtain ⟨hmem, -⟩ := Route.mem_candidates_of_found h
  rw [hpath, hcandidates] at hmem
  exact List.mem_singleton.1 hmem

/-- The answer to a request hangs on the card that it asks for alone. -/
theorem response_congr {one other : App} {r : Request}
    (hpath : r.absolutePath = "/modelcard".toList)
    (hcard : one.state.cards.find? r.cardKey = other.state.cards.find? r.cardKey) (id : String) :
    (one.serve id r).response = (other.serve id r).response := by
  rw [serve_response, serve_response]
  cases hroute : r.route with
  | unknown => rfl
  | refused allowed => rfl
  | moved path =>
    simp only [answer]
    cases Location.of? r path with
    | some address => rfl
    | none => rfl
  | found e =>
    obtain rfl := eq_modelCard_of_found hpath hroute
    have hreading : Cards.reading one.state.cards r.cardKey =
        Cards.reading other.state.cards r.cardKey := by
      rw [Cards.reading, Cards.reading, hcard]
    by_cases ho : r.verb = "OPTIONS"
    · simp only [answer, if_pos ho]
    · simp only [answer, if_neg ho, handle, modelCard, Request.getD_key, hreading]
      cases Cards.reading other.state.cards r.cardKey with
      | notFound => rfl
      | notModified => rfl
      | fresh content =>
        dsimp only
        cases Utf8.encodeText? content with
        | some bytes => rfl
        | none => rfl

theorem response_afterAll_congr {one other : App} (hformat : one.format = other.format)
    {get : Arrival} (hpath : get.request.absolutePath = "/modelcard".toList)
    (hcard : one.state.cards.find? get.request.cardKey =
      other.state.cards.find? get.request.cardKey) (arrivals : List Arrival) :
    ((one.afterAll arrivals).answered get).response =
      ((other.afterAll arrivals).answered get).response := by
  rw [answered_response, answered_response]
  exact response_congr hpath (find?_afterAll_congr hformat hcard arrivals) get.id

theorem status_eq_404_iff (app : App) {get : Arrival} (h : get.request.IsCardRead) :
    (app.answered get).response.status = 404 ↔
      app.state.cards.find? get.request.cardKey = none := by
  rw [status_of_isCardRead app h]
  cases hcard : app.state.cards.find? get.request.cardKey with
  | none => exact iff_of_true (congrArg statusOf (Cards.reading_of_none hcard)) rfl
  | some card =>
    refine iff_of_false ?_ (Option.some_ne_none card)
    have hreading : Cards.reading app.state.cards get.request.cardKey = card.reading := by
      rw [Cards.reading, hcard]
    rw [hreading, Card.reading]
    split
    · decide
    · rw [statusOf]
      split
      · decide
      · decide

/-! ## The card under the empty key -/

theorem cardKey_of_namesNoCard {r : Request} (h : r.NamesNoCard) {upsert : Upsert}
    (hu : upsertOf r.body = .ok upsert) : upsert.cardKey = [] := by
  obtain ⟨payload, hholds, -, hjson⟩ := upsertOf_eq_ok_iff.1 hu
  obtain ⟨members, rfl, hdescribes⟩ := Upsert.ofJson_eq_ok_iff.1 hjson
  exact hdescribes.cardKey.eq_empty (h members hholds)

/-- An upsert that names no card is one of the card under the empty key. -/
theorem after_of_namesNoCard (app : App) {post : Arrival} (hpost : post.request.IsUpsert)
    (hcard : post.request.NamesNoCard) :
    (∃ upsert, upsertOf post.request.body = .ok upsert ∧
      (app.answered post).response.status = 201 ∧
      (app.after post).state.cards = Cards.upsert app.state.cards [] upsert.card upsert.token) ∨
    ((app.answered post).response.status = 400 ∧
      (app.after post).state.cards = app.state.cards) := by
  obtain ⟨hs, hr⟩ := serve_of_isUpsert app post.id hpost
  rw [after_state, answered_response, hs, hr]
  rcases upsert_cases app post.request with ⟨uri, upsert, -, hu, hstate, hstatus, -⟩ |
    ⟨hstate, hstatus⟩
  · refine Or.inl ⟨upsert, hu, hstatus, ?_⟩
    rw [hstate, State.apply, cardKey_of_namesNoCard hcard hu]
  · exact Or.inr ⟨hstatus, by rw [hstate]⟩

/-- A card that is there stays there. -/
theorem find?_after_isSome (app : App) {key : Text}
    (h : (app.state.cards.find? key).isSome) (a : Arrival) :
    ((app.after a).state.cards.find? key).isSome := by
  cases cardStep app key a with
  | other hfind _ => rwa [hfind]
  | counted card _ _ hfind _ _ => rw [hfind, Option.isSome_some]
  | changed content token _ hfind _ => rw [hfind, Option.isSome_some]

theorem find?_afterAll_isSome {app : App} {key : Text}
    (h : (app.state.cards.find? key).isSome) (arrivals : List Arrival) :
    ((app.afterAll arrivals).state.cards.find? key).isSome := by
  induction arrivals generalizing app with
  | nil => exact h
  | cons a rest ih => exact ih (find?_after_isSome app h a)

/-- Only an upsert brings a card that was not there. -/
theorem find?_after_of_not_isUpsert {app : App} {key : Text}
    (hnone : app.state.cards.find? key = none) {a : Arrival} (h : ¬ a.request.IsUpsert) :
    (app.after a).state.cards.find? key = none := by
  by_cases hr : a.request.IsRemoval
  · rw [cards_of_isRemoval app hr, hnone]
  by_cases hc : a.request.IsCardRead
  · rw [cards_of_isCardRead app hc, Cards.find?_afterRead, hnone, Option.map_none, ite_self]
  · rw [after_state, serve_state_of_other h hr hc, hnone]

/-- Where no upsert names a card, the first one that is carried out brings the card under the
empty key. -/
theorem find?_after_eq_none_iff {app : App} (hnone : app.state.cards.find? [] = none)
    {a : Arrival} (ha : a.request.IsUpsert → a.request.NamesNoCard) :
    (app.after a).state.cards.find? [] = none ↔
      (a.request.IsUpsert → (app.answered a).response.status = 400) := by
  by_cases hu : a.request.IsUpsert
  · rcases after_of_namesNoCard app hu (ha hu) with ⟨upsert, -, hstatus, hcards⟩ |
      ⟨hstatus, hcards⟩
    · have hsome : ∃ card, (app.after a).state.cards.find? [] = some card := by
        rw [hcards, Cards.find?_upsert, if_pos rfl]
        exact ⟨_, rfl⟩
      obtain ⟨card, hcard⟩ := hsome
      refine iff_of_false ?_ ?_
      · rw [hcard]
        exact Option.some_ne_none card
      · intro h400
        have := h400 hu
        omega
    · exact iff_of_true (by rw [hcards, hnone]) fun _ => hstatus
  · exact iff_of_true (find?_after_of_not_isUpsert hnone hu) fun h => absurd h hu

theorem find?_afterAll_eq_none_iff {arrivals : List Arrival} {app : App}
    (hnone : app.state.cards.find? [] = none)
    (h : ∀ a ∈ arrivals, a.request.IsUpsert → a.request.NamesNoCard) :
    (app.afterAll arrivals).state.cards.find? [] = none ↔
      ∀ x ∈ app.session arrivals, x.request.IsUpsert → x.response.status = 400 := by
  induction arrivals generalizing app with
  | nil => exact iff_of_true hnone fun x hx => absurd hx List.not_mem_nil
  | cons a rest ih =>
    obtain ⟨ha, hrest⟩ := List.forall_mem_cons.1 h
    have hstep := find?_after_eq_none_iff hnone ha
    rw [afterAll_cons, session, List.forall_mem_cons]
    cases hnext : (app.after a).state.cards.find? [] with
    | none =>
      rw [ih hnext hrest]
      exact (and_iff_right (hstep.1 hnext)).symm
    | some card =>
      -- the card is there from here on, and it was this upsert that brought it
      refine iff_of_false ?_ ?_
      · intro hlast
        have hsome := find?_afterAll_isSome (by rw [hnext]; rfl) rest
        rw [hlast] at hsome
        exact absurd hsome (by simp)
      · rintro ⟨h400, -⟩
        rw [hstep.2 h400] at hnext
        exact absurd hnext (by simp)

/--
**An upsert that names no model card touches the one under the empty key, and no other.**

The cards are as before exactly if the upsert is refused, or if there is a card under the empty
key with the token of the upsert. If so, all later requests for cards are answered as without
the upsert, and requests that name a card always are. A reader who names none, and is told that
there is no such card, is told the same after a session in which no upsert names a card exactly
if all upserts of that session are refused.
-/
theorem upsert_naming_no_card (app : App) {post : Arrival} (hpost : post.request.IsUpsert)
    (hcard : post.request.NamesNoCard) :
    let next := app.after post
    let untouched := next.state.cards = app.state.cards
    Table.ChangedAt [] app.state.cards next.state.cards ∧
      (untouched ↔ (app.answered post).response.status = 400 ∨
        ∃ upsert card, upsertOf post.request.body = .ok upsert ∧
          app.state.cards.find? [] = some card ∧ card.token = upsert.token) ∧
      (∀ between get, get.request.absolutePath = "/modelcard".toList →
        untouched ∨ get.request.cardKey ≠ [] →
        ((next.afterAll between).answered get).response =
          ((app.afterAll between).answered get).response) ∧
      ∀ arrivals get, get.request.IsCardRead → get.request.cardKey = [] →
        (app.answered get).response.status = 404 →
        (∀ a ∈ arrivals, a.request.IsUpsert → a.request.NamesNoCard) →
        (((app.afterAll arrivals).answered get).response.status = 404 ↔
          ∀ x ∈ app.session arrivals, x.request.IsUpsert → x.response.status = 400) := by
  intro next untouched
  have hchanged : Table.ChangedAt [] app.state.cards next.state.cards := by
    rcases after_of_namesNoCard app hpost hcard with ⟨upsert, -, -, hcards⟩ | ⟨-, hcards⟩
    · rw [hcards]
      exact Cards.changedAt_upsert app.state.cards [] _ _
    · rw [hcards]
      exact ⟨fun _ _ => rfl, Or.inl rfl⟩
  refine ⟨hchanged, ?_, ?_, ?_⟩
  · rcases after_of_namesNoCard app hpost hcard with ⟨upsert, hu, h201, hcards⟩ |
      ⟨h400, hcards⟩
    · show next.state.cards = app.state.cards ↔ _
      rw [hcards, Cards.upsert_eq_self_iff]
      constructor
      · rintro ⟨card, hfind, htoken⟩
        exact Or.inr ⟨upsert, card, hu, hfind, htoken⟩
      · rintro (h400 | ⟨upsert', card, hu', hfind, htoken⟩)
        · omega
        · rw [hu] at hu'
          obtain rfl := Except.ok.inj hu'
          exact ⟨card, hfind, htoken⟩
    · exact iff_of_true hcards (Or.inl h400)
  · intro between get hpath hget
    refine response_afterAll_congr (after_format app post) hpath ?_ between
    rcases hget with hsame | hkey
    · have hcards : next.state.cards = app.state.cards := hsame
      rw [hcards]
    · exact hchanged.others _ hkey
  · intro arrivals get hread hkey h404 hnone
    rw [status_eq_404_iff _ hread, hkey] at h404 ⊢
    exact find?_afterAll_eq_none_iff h404 hnone

/-! ## A card that nobody named -/

theorem namesNoCard_postOf (key : String) : (postOf key).request.NamesNoCard := by
  intro members hholds
  have hbytes := Json.ofBytes?_eq_some_iff.2 hholds
  rw [ofBytes?_postOf] at hbytes
  obtain rfl := Json.object.inj (Option.some.inj hbytes)
  exact Or.inl (by decide)

/-- A request for the text of a model card that names none. -/
def unnamedCardGet : Arrival where
  id := ""
  request := getOf "/modelcard"

theorem isCardRead_unnamedCardGet :
    unnamedCardGet.request.IsCardRead ∧ unnamedCardGet.request.cardKey = [] := by
  decide

/-- An upsert of the model `mnist` that names no card. -/
theorem upsert_naming_no_card_mnist :
    ((postOf "mnist_v1").request.IsUpsert ∧ (postOf "mnist_v1").request.NamesNoCard) ∧
    let app := fresh "json"
    let post := postOf "mnist_v1"
    let next := app.after post
    let untouched := next.state.cards = app.state.cards
    Table.ChangedAt [] app.state.cards next.state.cards ∧
      (untouched ↔ (app.answered post).response.status = 400 ∨
        ∃ upsert card, upsertOf post.request.body = .ok upsert ∧
          app.state.cards.find? [] = some card ∧ card.token = upsert.token) ∧
      (∀ between get, get.request.absolutePath = "/modelcard".toList →
        untouched ∨ get.request.cardKey ≠ [] →
        ((next.afterAll between).answered get).response =
          ((app.afterAll between).answered get).response) ∧
      ∀ arrivals get, get.request.IsCardRead → get.request.cardKey = [] →
        (app.answered get).response.status = 404 →
        (∀ a ∈ arrivals, a.request.IsUpsert → a.request.NamesNoCard) →
        (((app.afterAll arrivals).answered get).response.status = 404 ↔
          ∀ x ∈ app.session arrivals, x.request.IsUpsert → x.response.status = 400) := by
  have hpost : (postOf "mnist_v1").request.IsUpsert := Request.isUpsert_mk _ _ _ _
  have hcard := namesNoCard_postOf "mnist_v1"
  exact ⟨⟨hpost, hcard⟩, upsert_naming_no_card (fresh "json") hpost hcard⟩

/-- **A reader who names no card is served one that nobody named.** Before the upsert there is
no such card, and the upsert names none. -/
theorem unnamed_card_served :
    (postOf "mnist_v1").request.IsUpsert ∧ (postOf "mnist_v1").request.NamesNoCard ∧
      ((fresh "json").answered unnamedCardGet).response.status = 404 ∧
      ((fresh "json").after (postOf "mnist_v1")).state.cards ≠ (fresh "json").state.cards ∧
      (((fresh "json").after (postOf "mnist_v1")).answered unnamedCardGet).response.status =
        200 := by
  have hpost : (postOf "mnist_v1").request.IsUpsert := Request.isUpsert_mk _ _ _ _
  obtain ⟨hget, hkey⟩ := isCardRead_unnamedCardGet
  have hbefore : (fresh "json").state.cards.find? [] = none := rfl
  have hafter : ((fresh "json").after (postOf "mnist_v1")).state.cards.find? [] =
      some (.new [] []) := by
    have huri : (fresh "json").uriOf (postOf "mnist_v1").request = .ok "/mnist/v1/json" := by
      rw [uriOf_postOf]
      rfl
    rw [after_state, (serve_of_isUpsert (fresh "json") _ hpost).1, App.upsert, huri,
      upsertOf_postOf]
    rfl
  refine ⟨hpost, namesNoCard_postOf "mnist_v1", ?_, ?_, ?_⟩
  · rw [status_eq_404_iff _ hget, hkey, hbefore]
  · intro hsame
    rw [hsame, hbefore] at hafter
    exact absurd hafter (by simp)
  · rw [status_of_isCardRead _ hget, hkey, Cards.reading, hafter]
    rfl

end App

end Http

end CatalogCache
