import CatalogCache.Proofs.Documents
import CatalogCache.Proofs.JsonPrinting

/-!
# What is sent is what is kept

A sender puts the key of a document into the query, percent-encoded, and the document with its
model card into the body: a JSON object in UTF-8 in which the document stands in base64. There
are many ways to write both. Whichever is chosen, the service undoes it exactly. It stores the
document byte for byte, and it serves the text of the card as it was sent
(`upsert_served_back`).

The codecs are met one after the other, from the outside in: the query (`value?_keyQuery`), the
text of the body (`upsertOf_encode`) and the members of the object (`ofJson_payload`).
-/

namespace CatalogCache

namespace Upsert

/-- An upsert of which all texts are strings. -/
def ofStrings (body : Bytes) (cardKey card token : String) : Upsert := ⟨body, cardKey, card, token⟩

/-- An upsert as the members of the JSON object that is sent for it. -/
def members (upsert : Upsert) : List (Text × Json) := [
  ("body", .string (.ofChars (Base64.encode upsert.body))),
  ("modelCardKey", .string upsert.cardKey),
  ("modelCard", .string upsert.card),
  ("lastUpdateTimeSinceEpoch", .string upsert.token)]

/-- An upsert as the JSON value that is sent for it. -/
def payload (upsert : Upsert) : Json := .object upsert.members

/-- What is sent for an upsert is taken for that upsert. -/
theorem ofJson_payload (upsert : Upsert) : ofJson upsert.payload = .ok upsert := by
  have hbody : Keyed.find? ("body" : Text) upsert.members =
      some (.string (.ofChars (Base64.encode upsert.body))) := by
    simp [members, Keyed.find?]
  have hkey : Keyed.find? ("modelCardKey" : Text) upsert.members =
      some (.string upsert.cardKey) := by
    simp [members, Keyed.find?]
  have hcard : Keyed.find? ("modelCard" : Text) upsert.members = some (.string upsert.card) := by
    simp [members, Keyed.find?]
  have htoken : Keyed.find? ("lastUpdateTimeSinceEpoch" : Text) upsert.members =
      some (.string upsert.token) := by
    simp [members, Keyed.find?]
  rw [payload, ofJson, hbody, hkey, hcard, htoken, bodyOf, Base64.decodeText_ofChars,
    Base64.decode_encode]
  rfl

theorem isPlain_payload (body : Bytes) (cardKey card token : String) :
    (ofStrings body cardKey card token).payload.IsPlain := by
  have hnames : ([("body" : Text), "modelCardKey", "modelCard", "lastUpdateTimeSinceEpoch"] :
      List Text).Nodup := by
    decide
  exact ⟨hnames, ⟨_, rfl⟩, ⟨_, rfl⟩, ⟨_, rfl⟩, ⟨_, rfl⟩, ⟨_, rfl⟩, ⟨_, rfl⟩, ⟨_, rfl⟩, ⟨_, rfl⟩,
    trivial⟩

end Upsert

namespace Http

namespace Query

/-- The query that gives a key, with all characters percent-encoded but those to be kept. -/
def keyQuery (keep : Char → Bool) (key : String) : String :=
  "key=" ++ String.ofList (Percent.encode keep key.toList)

theorem value?_keyQuery {keep : Char → Bool} (h : Safe keep) (key : String) :
    value? (keyQuery keep key) "key" = some key := by
  have hname : decodeText ['k', 'e', 'y'] = "key" := by decide
  have hchars : (keyQuery keep key).toList =
      ['k', 'e', 'y'] ++ '=' :: Percent.encode keep key.toList := by
    simp [keyQuery]
  rw [value?, ofString, hchars, ofChars_parameter (by decide) (by decide)
    (not_mem_encode h.ampersand (by simp) _), hname, decodeText_encode h, Keyed.find?, if_pos rfl]

theorem text?_keyQuery {keep : Char → Bool} (h : Safe keep) (key : String) :
    text? (keyQuery keep key) "key" = some (key : Text) :=
  text?_of_value? (value?_keyQuery h key)

end Query

/-- A request that sends an upsert under a key. -/
structure Sends (keep : Char → Bool) (key : String) (upsert : Upsert) (r : Request) : Prop where
  upserts : r.IsUpsert
  query : r.query = Query.keyQuery keep key
  /-- The body is one of the JSON texts of the upsert, in UTF-8. -/
  body : ∃ text, Json.IsTextOf upsert.payload (.ofChars text) ∧ r.body = Utf8.encode text

/-- A request for the text of a model card. -/
structure AsksForCard (keep : Char → Bool) (key : String) (r : Request) : Prop where
  verb : r.verb = "GET"
  path : r.absolutePath = "/modelcard".toList
  query : r.query = Query.keyQuery keep key

namespace App

/-! ## The write -/

theorem upsertOf_encode {upsert : Upsert} {text : List Char}
    (h : Json.IsTextOf upsert.payload (.ofChars text)) :
    upsertOf (Utf8.encode text) = .ok upsert := by
  rw [upsertOf, Json.ofBytes?_of_isTextOf h]
  show (Upsert.ofJson upsert.payload).mapError UpsertError.message = .ok upsert
  rw [Upsert.ofJson_payload]
  rfl

/-- What is sent is carried out, and nothing else is. -/
theorem serve_of_sends {app : App} {keep : Char → Bool} (hkeep : Query.Safe keep)
    {key : String} {uri : Text} (hkey : uriOfKey (some (key : Text)) app.format = .ok uri)
    {upsert : Upsert} {r : Request} (h : Sends keep key upsert r) (id : String) :
    (app.serve id r).response.status = 201 ∧
      (app.serve id r).state = app.state.apply uri upsert := by
  obtain ⟨text, htext, hbody⟩ := h.body
  have huri : app.uriOf r = .ok uri := by
    rw [uriOf, h.query, Query.text?_keyQuery hkeep, hkey]
  have hupsert : upsertOf r.body = .ok upsert := by
    rw [hbody, upsertOf_encode htext]
  exact serve_upsert_of_ok h.upserts huri hupsert id

/-! ## The read -/

/-- A card of characters that has just changed is served. -/
theorem response_of_asksForCard {app : App} {keep : Char → Bool} (hkeep : Query.Safe keep)
    {key content : String} {card : Card} (hcard : app.state.cards.find? (key : Text) = some card)
    (hfresh : card.isExhausted = false) (hcontent : card.content = content) {r : Request}
    (h : AsksForCard keep key r) (id : String) :
    (app.serve id r).response.status = 200 ∧
      (app.serve id r).response.content = Utf8.encodeString content := by
  have hread : r.IsCardRead := ⟨Or.inl h.verb, h.path⟩
  have hkey : (Query.text? r.query "key").getD [] = key := by
    rw [h.query, Query.text?_keyQuery hkeep, Option.getD_some]
  have hreading : Cards.reading app.state.cards key = .fresh content := by
    rw [Cards.reading_of_fresh hcard hfresh, hcontent]
  rw [(serve_of_isCardRead app id hread).2]
  simp only [modelCard, hkey, hreading, Utf8.encodeText?_ofString, Handled.response,
    Response.content, headOnly_of_get h.verb, Bool.false_eq_true, if_false, and_self]

/-- The card of an upsert with a new token is as it was sent. -/
theorem find?_card_apply {state : State} {upsert : Upsert} (uri : Text)
    (h : ∀ card, state.cards.find? upsert.cardKey = some card → card.token ≠ upsert.token) :
    (state.apply uri upsert).cards.find? upsert.cardKey =
      some (.new upsert.card upsert.token) := by
  rw [State.apply, Cards.find?_upsert, if_pos rfl]
  cases hc : state.cards.find? upsert.cardKey with
  | none => rfl
  | some card =>
    dsimp only
    rw [Card.revise, if_neg (h card hc)]

/--
**What was sent is stored, and its card is served.**

A request that sends an upsert under an accepted key, written in any way, is answered 201. The
document is then under the URI of the key, byte for byte. If the card was not there before, or
was there with another token, a reader of the card gets the text that was sent, in UTF-8.
-/
theorem upsert_served_back (app : App) {keep : Char → Bool} (hkeep : Query.Safe keep)
    {key : String} {uri : Text} (hkey : uriOfKey (some (key : Text)) app.format = .ok uri)
    (body : Bytes) (cardKey content token : String)
    (hnew : ∀ card, app.state.cards.find? (cardKey : Text) = some card → card.token ≠ token)
    {post get : Arrival}
    (hpost : Sends keep key (.ofStrings body cardKey content token) post.request)
    (hget : AsksForCard keep cardKey get.request) :
    (app.answered post).response.status = 201 ∧
      Catalog.get? (app.after post).state.catalog uri = some body ∧
      ((app.after post).answered get).response.status = 200 ∧
      ((app.after post).answered get).response.content = Utf8.encodeString content := by
  obtain ⟨hstatus, hstate⟩ := serve_of_sends hkeep hkey hpost post.id
  have hafter : (app.after post).state =
      app.state.apply uri (.ofStrings body cardKey content token) := by
    rw [after_state app post, hstate]
  have hcard : (app.after post).state.cards.find? (cardKey : Text) =
      some (.new content token) := by
    rw [hafter]
    exact find?_card_apply uri hnew
  obtain ⟨h200, hcontent⟩ := response_of_asksForCard hkeep hcard rfl rfl hget get.id
  refine ⟨?_, ?_, ?_, ?_⟩
  · rw [answered_response app post, hstatus]
  · rw [hafter, State.apply, Catalog.get?_upsert, if_pos rfl]
    rfl
  · rw [answered_response (app.after post) get, h200]
  · rw [answered_response (app.after post) get, hcontent]

/-- A request that sends an upsert under a key, in the text that the service would print. -/
def sendOf (key : String) (upsert : Upsert) : Arrival where
  id := ""
  request := ⟨"POST", "/upsert", Query.keyQuery Percent.isUnreserved key,
    Utf8.encode (upsert.payload.print Json.compact), "", ""⟩

/-- A request for the text of a model card. -/
def cardGetOf (key : String) : Arrival where
  id := ""
  request := ⟨"GET", "/modelcard", Query.keyQuery Percent.isUnreserved key, [], "", ""⟩

theorem sends_sendOf (key : String) (body : Bytes) (cardKey card token : String) :
    Sends Percent.isUnreserved key (.ofStrings body cardKey card token)
      (sendOf key (.ofStrings body cardKey card token)).request where
  upserts := Request.isUpsert_mk _ _ _ _
  query := rfl
  body := by
    have hnil : Json.Blanks (.ofChars []) := Json.blanks_nil
    have htext :=
      Json.isTextOf_print hnil hnil (Upsert.isPlain_payload body cardKey card token) hnil
    rw [List.append_nil] at htext
    exact ⟨_, htext, rfl⟩

theorem asksForCard_cardGetOf (key : String) :
    AsksForCard Percent.isUnreserved key (cardGetOf key).request where
  verb := by
    have hverb : Text.upper "GET" = "GET" := by decide
    exact hverb
  path := by
    have hpath : '/' :: "/modelcard".toList.dropWhile (· == '/') = "/modelcard".toList := by
      decide
    exact hpath
  query := rfl

/-- A new text for a card that was there, with a document that is no text. -/
theorem upsert_served_back_mnist :
    let app : App := { fresh "json" with
      state := State.empty.apply "/mnist/v1/json" (.ofStrings [] "mnist card" "old" "1") }
    let post := sendOf "mnist_v1" (.ofStrings [0, 255] "mnist card" "naïve 😀" "2")
    (Query.Safe Percent.isUnreserved ∧
      uriOfKey (some ("mnist_v1" : Text)) app.format = .ok "/mnist/v1/json" ∧
      (∀ card, app.state.cards.find? ("mnist card" : Text) = some card → card.token ≠ "2") ∧
      Sends Percent.isUnreserved "mnist_v1" (.ofStrings [0, 255] "mnist card" "naïve 😀" "2")
        post.request ∧
      AsksForCard Percent.isUnreserved "mnist card" (cardGetOf "mnist card").request) ∧
    (app.answered post).response.status = 201 ∧
      Catalog.get? (app.after post).state.catalog "/mnist/v1/json" = some [0, 255] ∧
      ((app.after post).answered (cardGetOf "mnist card")).response.status = 200 ∧
      ((app.after post).answered (cardGetOf "mnist card")).response.content =
        Utf8.encodeString "naïve 😀" := by
  intro app post
  have hkey : uriOfKey (some ("mnist_v1" : Text)) "json" = .ok "/mnist/v1/json" := by decide
  have hold : app.state.cards.find? ("mnist card" : Text) = some (.new "old" "1") := rfl
  have hnew : ∀ card, app.state.cards.find? ("mnist card" : Text) = some card →
      card.token ≠ "2" := by
    intro card hcard
    rw [hold] at hcard
    rw [← Option.some.inj hcard]
    decide
  have hsend := sends_sendOf "mnist_v1" [0, 255] "mnist card" "naïve 😀" "2"
  have hask := asksForCard_cardGetOf "mnist card"
  exact ⟨⟨Query.safe_isUnreserved, hkey, hnew, hsend, hask⟩,
    upsert_served_back app Query.safe_isUnreserved hkey [0, 255] "mnist card" "naïve 😀" "2" hnew
      hsend hask⟩

end App

end Http

end CatalogCache
