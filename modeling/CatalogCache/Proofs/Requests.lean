import CatalogCache.Proofs.Routing
import CatalogCache.Proofs.Sessions

/-!
# What a request changes

Three kinds of requests can change the cache, and each is taken care of by one endpoint. An
endpoint looks at all that it was given before it writes. So it either refuses, and the cache
is as it was, or it carries out its one change: `upsert_cases`, `remove_cases` and
`modelCard_cases` say for each of them which of the two it was, and what the status tells.

There is one exception. A read of a model card is counted before its text is made into bytes, and
a text with a surrogate has none (`Request.IsLostRead`). The reader is told that the server
failed, and the read counts.

`Framed` is the frame condition of the whole service, `serve_framed` its proof. A request that
was not answered with 200 or 201 changed nothing; any other one changed at most one document
and one card.
-/

namespace CatalogCache

/-- A read that finds no card, or one that was served often enough, leaves no trace. -/
theorem Cards.afterRead_eq_self {cards : Cards} {key : Text}
    (h : ∀ card, cards.find? key = some card → card.isExhausted = true) :
    Cards.afterRead cards key = cards := by
  refine Table.adjust_eq_self ?_
  intro card hc
  rw [Card.afterRead, if_pos (h card hc)]

/-- A read of any other card is counted. -/
theorem Cards.find?_afterRead_of_fresh {cards : Cards} {key : Text} {card : Card}
    (hc : cards.find? key = some card) (hfresh : card.isExhausted = false) :
    (Cards.afterRead cards key).find? key =
      some { card with dirty := false, serves := card.serves + 1 } := by
  rw [Cards.find?_afterRead, if_pos rfl, hc, Option.map_some, Card.afterRead, hfresh]
  rfl

theorem Cards.changedAt_upsert (cards : Cards) (key content token : Text) :
    Table.ChangedAt key cards (Cards.upsert cards key content token) := by
  unfold Cards.upsert
  split
  · exact Table.changedAt_insert cards key _
  · exact Table.changedAt_insert cards key _

namespace Http

/-- The key of the model card that a request is about, empty when it names none. -/
def Request.cardKey (r : Request) : Text := (Query.text? r.query "key").getD []

theorem Request.getD_key (r : Request) : (Query.text? r.query "key").getD [] = r.cardKey := rfl

theorem Request.isString_cardKey (r : Request) : r.cardKey.IsString := by
  rw [cardKey]
  cases hkey : Query.text? r.query "key" with
  | none => exact Text.isString_ofString ""
  | some key => exact Query.isString_of_text? hkey

/-- A read of a card that is due, and of the text of which no bytes can be made. -/
def Request.IsLostRead (r : Request) (state : State) : Prop :=
  r.IsCardRead ∧ ∃ card, state.cards.find? r.cardKey = some card ∧ card.isExhausted = false ∧
    ¬ card.content.IsString

/-- The response to a request that an endpoint took care of. -/
def Handled.response (handled : Handled) (id : String) (r : Request) : Response :=
  ⟨handled.status, handled.entity, r.headOnly, id, none, none⟩

namespace App

/-! ## The three endpoints that write -/

/-- An upsert is carried out if its key and its body are right, and is refused otherwise. -/
theorem upsert_cases (app : App) (r : Request) :
    (∃ uri upsert, app.uriOf r = .ok uri ∧ upsertOf r.body = .ok upsert ∧
      (app.upsert r).state = app.state.apply uri upsert ∧ (app.upsert r).status = 201 ∧
      (app.upsert r).entity = uriEntity uri) ∨
    ((app.upsert r).state = app.state ∧ (app.upsert r).status = 400) := by
  unfold App.upsert
  cases app.uriOf r with
  | error e => exact Or.inr ⟨rfl, rfl⟩
  | ok uri =>
    cases upsertOf r.body with
    | error cause => exact Or.inr ⟨rfl, rfl⟩
    | ok upsert => exact Or.inl ⟨uri, upsert, rfl, rfl, rfl, rfl, rfl⟩

/-- A removal is carried out if its key is right, and is refused otherwise. -/
theorem remove_cases (app : App) (r : Request) :
    (∃ uri, app.uriOf r = .ok uri ∧ (app.remove r).state = app.state.remove uri ∧
      (app.remove r).status = 200 ∧ (app.remove r).entity = uriEntity uri) ∨
    ((app.remove r).state = app.state ∧ (app.remove r).status = 400) := by
  unfold App.remove
  cases app.uriOf r with
  | error e => exact Or.inr ⟨rfl, rfl⟩
  | ok uri => exact Or.inl ⟨uri, rfl, rfl, rfl, rfl⟩

/-- Whatever comes of a read, it is counted as the cards count it. -/
theorem modelCard_state (app : App) (r : Request) :
    (app.modelCard r).state = app.state.readCard r.cardKey := by
  simp only [modelCard, Request.getD_key]
  cases Cards.reading app.state.cards r.cardKey with
  | notFound => rfl
  | notModified => rfl
  | fresh content =>
    dsimp only
    cases Utf8.encodeText? content with
    | some bytes => rfl
    | none => rfl

/-- A read of a card is remembered and the card is served, if bytes can be made of its text; or
there is nothing to serve. -/
theorem modelCard_cases (app : App) (r : Request) :
    (∃ card, app.state.cards.find? r.cardKey = some card ∧ card.isExhausted = false ∧
      (app.modelCard r).state = app.state.readCard r.cardKey ∧
      ((∃ bytes, Utf8.encodeText? card.content = some bytes ∧ (app.modelCard r).status = 200 ∧
          (app.modelCard r).entity = .data "text/markdown" bytes) ∨
        (Utf8.encodeText? card.content = none ∧ (app.modelCard r).status = 500 ∧
          (app.modelCard r).entity = .page))) ∨
    ((app.modelCard r).state = app.state ∧
      ((app.modelCard r).status = 404 ∨ (app.modelCard r).status = 304)) := by
  have hkeep : (∀ card, app.state.cards.find? r.cardKey = some card →
      card.isExhausted = true) → app.state.readCard r.cardKey = app.state := by
    intro h
    rw [State.readCard, Cards.afterRead_eq_self h]
  rw [modelCard_state]
  simp only [modelCard, Request.getD_key]
  cases hc : app.state.cards.find? r.cardKey with
  | none =>
    rw [Cards.reading_of_none hc]
    refine Or.inr ⟨hkeep ?_, Or.inl rfl⟩
    intro card h
    rw [hc] at h
    exact absurd h (by simp)
  | some card =>
    cases he : card.isExhausted with
    | true =>
      rw [Cards.reading_of_exhausted hc he]
      refine Or.inr ⟨hkeep ?_, Or.inr rfl⟩
      intro card' h
      rw [hc] at h
      obtain rfl := Option.some.inj h
      exact he
    | false =>
      rw [Cards.reading_of_fresh hc he]
      dsimp only
      cases hb : Utf8.encodeText? card.content with
      | some bytes => exact Or.inl ⟨card, rfl, he, trivial, Or.inl ⟨bytes, hb, rfl, rfl⟩⟩
      | none => exact Or.inl ⟨card, rfl, he, trivial, Or.inr ⟨hb, rfl, rfl⟩⟩

/-- A lost read is remembered, and fails. -/
theorem modelCard_of_isLostRead {app : App} {r : Request} (h : r.IsLostRead app.state) :
    (app.modelCard r).state = app.state.readCard r.cardKey ∧ (app.modelCard r).status = 500 := by
  obtain ⟨-, card, hc, hfresh, hlost⟩ := h
  refine ⟨modelCard_state app r, ?_⟩
  simp only [modelCard, Request.getD_key, Cards.reading_of_fresh hc hfresh,
    Utf8.encodeText?_eq_none_iff.2 hlost]

/-! ## From the endpoint to the answer -/

theorem serve_state (app : App) (id : String) (r : Request) :
    (app.serve id r).state = (app.answer id r r.route).state := by
  rw [serve, Request.route]

theorem serve_response (app : App) (id : String) (r : Request) :
    (app.serve id r).response = (app.answer id r r.route).response := by
  rw [serve, Request.route]

/-- A request that leads to an endpoint is answered by it. -/
theorem serve_of_found {app : App} {id : String} {r : Request} {e : Endpoint}
    (h : r.route = .found e) (ho : r.verb ≠ "OPTIONS") :
    (app.serve id r).state = (app.handle r e).state ∧
      (app.serve id r).response = (app.handle r e).response id r := by
  rw [serve_state, serve_response, h]
  simp only [answer, if_neg ho, Handled.response, and_self]

theorem serve_of_isUpsert (app : App) (id : String) {r : Request} (h : r.IsUpsert) :
    (app.serve id r).state = (app.upsert r).state ∧
      (app.serve id r).response = (app.upsert r).response id r :=
  serve_of_found h.route_eq (by rw [h.1]; decide)

/-- An upsert with a right key and a right body is carried out. -/
theorem serve_upsert_of_ok {app : App} {r : Request} {uri : Text} {upsert : Upsert}
    (h : r.IsUpsert) (hu : app.uriOf r = .ok uri) (hb : upsertOf r.body = .ok upsert)
    (id : String) :
    (app.serve id r).response.status = 201 ∧
      (app.serve id r).state = app.state.apply uri upsert := by
  obtain ⟨hs, hr⟩ := serve_of_isUpsert app id h
  rw [hs, hr, App.upsert, hu]
  simp only [hb, Handled.response, and_self]

theorem serve_of_isRemoval (app : App) (id : String) {r : Request} (h : r.IsRemoval) :
    (app.serve id r).state = (app.remove r).state ∧
      (app.serve id r).response = (app.remove r).response id r :=
  serve_of_found h.route_eq (by rw [h.1]; decide)

theorem serve_of_isCardRead (app : App) (id : String) {r : Request} (h : r.IsCardRead) :
    (app.serve id r).state = (app.modelCard r).state ∧
      (app.serve id r).response = (app.modelCard r).response id r := by
  refine serve_of_found h.route_eq ?_
  rcases h.1 with hv | hv
  · rw [hv]
    decide
  · rw [hv]
    decide

/-- Any other request leaves the cache as it is. -/
theorem serve_state_of_other {app : App} {id : String} {r : Request} (hu : ¬ r.IsUpsert)
    (hr : ¬ r.IsRemoval) (hc : ¬ r.IsCardRead) : (app.serve id r).state = app.state := by
  rw [serve_state]
  cases hroute : r.route with
  | unknown => rfl
  | refused allowed => rfl
  | moved path =>
    simp only [answer]
    cases Location.of? r path with
    | some address => rfl
    | none => rfl
  | found e =>
    by_cases ho : r.verb = "OPTIONS"
    · simp only [answer, if_pos ho]
    · -- the endpoints that write are exactly those that the three kinds of requests lead to
      simp only [answer, if_neg ho]
      cases e with
      | list =>
        simp only [handle, list]
        split
        · rfl
        · rfl
      | upsert => exact absurd (Request.isUpsert_of_route hroute ho) hu
      | remove => exact absurd (Request.isRemoval_of_route hroute ho) hr
      | modelCard => exact absurd (Request.isCardRead_of_route hroute ho) hc
      | item version format =>
        simp only [handle, item]
        cases Catalog.fetch app.state.catalog (version.uri format) with
        | error e => rfl
        | ok content => rfl
      | file name => rfl

/-- Only an upsert or a removal can change the catalog. -/
theorem serve_catalog_of_other {app : App} {id : String} {r : Request} (hu : ¬ r.IsUpsert)
    (hr : ¬ r.IsRemoval) : (app.serve id r).state.catalog = app.state.catalog := by
  by_cases hc : r.IsCardRead
  · rw [(serve_of_isCardRead app id hc).1]
    rcases modelCard_cases app r with ⟨card, -, -, hstate, -⟩ | ⟨hstate, -⟩
    · rw [hstate]
      rfl
    · rw [hstate]
  · rw [serve_state_of_other hu hr hc]

/-! ## The frame -/

/-- What may differ after a request. -/
structure Framed (before : State) (r : Request) (x : Exchange) : Prop where
  /-- An answer other than 200 and 201 means that nothing has changed. -/
  refused : x.response.status ≠ 200 → x.response.status ≠ 201 → x.state = before
  /-- The catalog changes only at the URI that the answer names, by an upsert answered 201 or
  a removal answered 200. A removal makes no slot. -/
  catalog : x.state.catalog = before.catalog ∨
    ∃ uri, x.response.entity = uriEntity uri ∧
      Table.ChangedAt uri before.catalog x.state.catalog ∧
      (r.IsUpsert ∧ x.response.status = 201 ∨
        r.IsRemoval ∧ x.response.status = 200 ∧ x.state.catalog.keys = before.catalog.keys)
  /-- The cards change only at the key in the body of an upsert answered 201, or at a key that
  was read with the answer 200, and there only in what is remembered about its reads. -/
  cards : x.state.cards = before.cards ∨
    (∃ upsert, upsertOf r.body = .ok upsert ∧ r.IsUpsert ∧ x.response.status = 201 ∧
      Table.ChangedAt upsert.cardKey before.cards x.state.cards) ∨
    ∃ card dirty serves, r.IsCardRead ∧ x.response.status = 200 ∧
      before.cards.find? r.cardKey = some card ∧
      x.state.cards.find? r.cardKey = some { card with dirty := dirty, serves := serves } ∧
      Table.ChangedAt r.cardKey before.cards x.state.cards ∧
      x.state.cards.keys = before.cards.keys

/-- What a lost read does: it is answered as a failure of the server, and counted. -/
structure Lost (before : State) (r : Request) (x : Exchange) : Prop where
  status : x.response.status = 500
  catalog : x.state.catalog = before.catalog
  counted : ∃ card, before.cards.find? r.cardKey = some card ∧
    x.state.cards.find? r.cardKey =
      some { card with dirty := false, serves := card.serves + 1 }
  cards : Table.ChangedAt r.cardKey before.cards x.state.cards
  keys : x.state.cards.keys = before.cards.keys

theorem framed_of_state_eq {before : State} {r : Request} {x : Exchange}
    (h : x.state = before) : Framed before r x where
  refused _ _ := h
  catalog := Or.inl (by rw [h])
  cards := Or.inl (by rw [h])

theorem framed_of_isUpsert {app : App} {id : String} {r : Request} (h : r.IsUpsert) :
    Framed app.state r (app.serve id r) := by
  obtain ⟨hs, hr⟩ := serve_of_isUpsert app id h
  rcases upsert_cases app r with ⟨uri, upsert, -, hb, hstate, hstatus, hentity⟩ | ⟨hstate, -⟩
  · have hx : (app.serve id r).state = app.state.apply uri upsert := hs.trans hstate
    have h201 : (app.serve id r).response.status = 201 := by rw [hr]; exact hstatus
    have hname : (app.serve id r).response.entity = uriEntity uri := by rw [hr]; exact hentity
    refine ⟨fun _ hne => absurd h201 hne, Or.inr ⟨uri, hname, ?_, Or.inl ⟨h, h201⟩⟩,
      Or.inr (Or.inl ⟨upsert, hb, h, h201, ?_⟩)⟩
    · rw [hx]
      exact Table.changedAt_insert app.state.catalog uri _
    · rw [hx]
      exact Cards.changedAt_upsert app.state.cards _ _ _
  · exact framed_of_state_eq (hs.trans hstate)

theorem framed_of_isRemoval {app : App} {id : String} {r : Request} (h : r.IsRemoval) :
    Framed app.state r (app.serve id r) := by
  obtain ⟨hs, hr⟩ := serve_of_isRemoval app id h
  rcases remove_cases app r with ⟨uri, -, hstate, hstatus, hentity⟩ | ⟨hstate, -⟩
  · have hx : (app.serve id r).state = app.state.remove uri := hs.trans hstate
    have h200 : (app.serve id r).response.status = 200 := by rw [hr]; exact hstatus
    have hname : (app.serve id r).response.entity = uriEntity uri := by rw [hr]; exact hentity
    refine ⟨fun hne _ => absurd h200 hne,
      Or.inr ⟨uri, hname, ?_, Or.inr ⟨h, h200, ?_⟩⟩, Or.inl (by rw [hx]; rfl)⟩
    · rw [hx]
      exact Table.changedAt_adjust app.state.catalog uri _
    · rw [hx]
      exact Catalog.keys_delete app.state.catalog uri
  · exact framed_of_state_eq (hs.trans hstate)

theorem framed_of_isCardRead {app : App} {id : String} {r : Request} (h : r.IsCardRead)
    (hlost : ¬ r.IsLostRead app.state) : Framed app.state r (app.serve id r) := by
  obtain ⟨hs, hr⟩ := serve_of_isCardRead app id h
  rcases modelCard_cases app r with ⟨card, hfind, hfresh, hstate, hsent⟩ | ⟨hstate, -⟩
  · rcases hsent with ⟨bytes, -, hstatus, -⟩ | ⟨hnone, -⟩
    · have hx : (app.serve id r).state = app.state.readCard r.cardKey := hs.trans hstate
      have h200 : (app.serve id r).response.status = 200 := by rw [hr]; exact hstatus
      refine ⟨fun hne _ => absurd h200 hne, Or.inl (by rw [hx]; rfl), Or.inr (Or.inr
        ⟨card, false, card.serves + 1, h, h200, hfind, ?_, ?_, ?_⟩)⟩
      · rw [hx]
        exact Cards.find?_afterRead_of_fresh hfind hfresh
      · rw [hx]
        exact Table.changedAt_adjust app.state.cards r.cardKey _
      · rw [hx]
        exact Table.keys_adjust app.state.cards r.cardKey _
    · exact absurd ⟨h, card, hfind, hfresh, Utf8.encodeText?_eq_none_iff.1 hnone⟩ hlost
  · exact framed_of_state_eq (hs.trans hstate)

theorem lost_of_isLostRead {app : App} {id : String} {r : Request}
    (h : r.IsLostRead app.state) : Lost app.state r (app.serve id r) := by
  obtain ⟨hstate, hstatus⟩ := modelCard_of_isLostRead h
  obtain ⟨hread, card, hfind, hfresh, -⟩ := h
  obtain ⟨hs, hr⟩ := serve_of_isCardRead app id hread
  have hx : (app.serve id r).state = app.state.readCard r.cardKey := hs.trans hstate
  refine ⟨by rw [hr]; exact hstatus, by rw [hx]; rfl, ⟨card, hfind, ?_⟩, ?_, ?_⟩
  · rw [hx]
    exact Cards.find?_afterRead_of_fresh hfind hfresh
  · rw [hx]
    exact Table.changedAt_adjust app.state.cards r.cardKey _
  · rw [hx]
    exact Table.keys_adjust app.state.cards r.cardKey _

/--
**Every request keeps to its frame, but for the reads that are lost.** These are answered 500, and
the card remembers them as reads.
-/
theorem serve_framed (app : App) (id : String) (r : Request) :
    (¬ r.IsLostRead app.state → Framed app.state r (app.serve id r)) ∧
      (r.IsLostRead app.state → Lost app.state r (app.serve id r)) := by
  refine ⟨?_, lost_of_isLostRead⟩
  intro hlost
  by_cases hu : r.IsUpsert
  · exact framed_of_isUpsert hu
  by_cases hr : r.IsRemoval
  · exact framed_of_isRemoval hr
  by_cases hc : r.IsCardRead
  · exact framed_of_isCardRead hc hlost
  · exact framed_of_state_eq (serve_state_of_other hu hr hc)

/-! ### A read that is lost -/

/-- An upsert that brings a card with a surrogate for its text. -/
def surrogatePost : Arrival where
  id := ""
  request := ⟨"POST", "/upsert", "key=mnist_v1", Utf8.encodeString
    "\x7b\"body\":\"YQ==\",\"modelCardKey\":\"card\",\"modelCard\":\"\\ud800\"\x7d", "", ""⟩

/-- A read of that card. -/
def surrogateGet : Request := ⟨"GET", "/modelcard", "key=card", [], "", ""⟩

theorem upsertOf_surrogatePost :
    upsertOf surrogatePost.request.body = .ok ⟨[97], ("card" : Text), [.surrogate 0], []⟩ := by
  have hbytes : surrogatePost.request.body =
      [123, 34, 98, 111, 100, 121, 34, 58, 34, 89, 81, 61, 61, 34, 44, 34, 109, 111, 100, 101, 108,
        67, 97, 114, 100, 75, 101, 121, 34, 58, 34, 99, 97, 114, 100, 34, 44, 34, 109, 111, 100,
        101, 108, 67, 97, 114, 100, 34, 58, 34, 92, 117, 100, 56, 48, 48, 34, 125] := by
    decide +kernel
  rw [hbytes]
  rfl

/-- **A read that is answered 500 has changed a card.** -/
theorem lost_read_counted :
    ((fresh "json").answered surrogatePost).response.status = 201 ∧
      (((fresh "json").after surrogatePost).serve "" surrogateGet).response.status = 500 ∧
      (((fresh "json").after surrogatePost).serve "" surrogateGet).state.cards ≠
        ((fresh "json").after surrogatePost).state.cards := by
  have hkey : Query.text? surrogatePost.request.query "key" = some ("mnist_v1" : Text) := by
    decide +kernel
  have huri : (fresh "json").uriOf surrogatePost.request = .ok "/mnist/v1/json" := by
    rw [uriOf, hkey]
    rfl
  have hpost : surrogatePost.request.IsUpsert := Request.isUpsert_mk _ _ _ _
  obtain ⟨h201, hstate⟩ := serve_upsert_of_ok hpost huri upsertOf_surrogatePost surrogatePost.id
  have hname : surrogateGet.cardKey = "card" := by decide +kernel
  have hcard : ((fresh "json").after surrogatePost).state.cards.find? surrogateGet.cardKey =
      some (.new [.surrogate 0] []) := by
    rw [after_state, hstate, hname]
    rfl
  have hlost : surrogateGet.IsLostRead ((fresh "json").after surrogatePost).state :=
    ⟨by decide, _, hcard, rfl, Text.chars?_eq_none_iff.1 rfl⟩
  have h : Lost _ surrogateGet (serve _ "" surrogateGet) := lost_of_isLostRead hlost
  refine ⟨h201, h.status, ?_⟩
  intro hsame
  obtain ⟨card, hbefore, hafter⟩ := h.counted
  rw [hsame, hbefore] at hafter
  have hserves : card.serves = card.serves + 1 := congrArg Card.serves (Option.some.inj hafter)
  omega

end App

end Http

end CatalogCache
