import CatalogCache.Proofs.Discovery
import CatalogCache.Proofs.UpsertReplies

/-!
# What the answers in JSON carry

Clients choose keys and paths, and the answers repeat them: in the list of URIs, in the URI of what
was stored or taken away, and in the messages about what is wrong. Whatever characters these texts
are made of, the body of the answer is ASCII, and a client that reads it as JSON gets the very
texts (`Response.Carries`).

Which texts they are is `json_answer`. The messages are those of `Reports`, which says for each
endpoint what can be wrong with a request and what the client is told about it.
-/

namespace CatalogCache.Http

/-- An answer carries a JSON value: its body is ASCII and is read as this value. The body is not
sent where only the head of the answer was asked for. -/
def Response.Carries (response : Response) (v : Json) : Prop :=
  ∃ body, response.entity = .data "application/json" body ∧ (∀ b ∈ body, b.toNat < 128) ∧
    Json.ofBytes? body = some v ∧ response.content = if response.headOnly then [] else body

theorem Response.carries_of_entity {response : Response} {v : Json} (hv : Json.IsPlain v)
    (h : response.entity = .ofJson v) : response.Carries v := by
  have hascii : Json.IsAscii (v.print Json.compact ++ ['\n']) := by
    have hprint : Json.IsAscii (v.print Json.compact) :=
      Json.isAscii_print (by decide) (by decide) v hv
    exact Json.isAscii_append.2 ⟨hprint, by decide⟩
  refine ⟨_, h, ?_, Json.ofBytes?_encode_print hv, ?_⟩
  · intro b hb
    exact Json.lt_of_mem_encode hascii hb
  · rw [content, h]
    rfl

namespace App

/-- What an endpoint refuses or does not find, with the status and the message of its answer. -/
inductive Reports (app : App) (r : Request) : Endpoint → Nat → Text → Prop where
  /-- Documents are stored and taken away under keys. -/
  | key {e : Endpoint} {error : KeyError} : e = .upsert ∨ e = .remove →
      ModelVersion.ofKey (Query.text? r.query "key") = .error error →
      Reports app r e 400 error.message
  | body {version : ModelVersion} {cause : String} :
      ModelVersion.ofKey (Query.text? r.query "key") = .ok version → BodyDefect r.body cause →
      Reports app r .upsert 400 ("error reading POST body: " ++ cause)
  | card : app.state.cards.find? r.cardKey = none →
      Reports app r .modelCard 404 ("no model card found for '" ++ r.cardKey ++ "'")
  | document {version : ModelVersion} {format : String} :
      Catalog.get? app.state.catalog (version.uri format) = none →
      Reports app r (.item version format) 404
        ("No catalog entry for '" ++ version.uri format ++ "'")

section Endpoints

variable {app : App} {r : Request}

/-- A message repeats what the request says, and no request can say a surrogate. -/
theorem Reports.isString {e : Endpoint} {status : Nat} {message : Text}
    (h : Reports app r e status message) (hroute : r.route = .found e) : message.IsString := by
  cases h with
  | key _ hkey =>
    exact ModelVersion.isString_message (fun key hk => Query.isString_of_text? hk) hkey
  | body _ _ =>
    rw [← Text.ofString_append]
    exact Text.isString_ofString _
  | card _ =>
    simp only [Text.isString_append, Text.isString_ofString, Request.isString_cardKey, and_self]
  | document _ =>
    obtain ⟨hm, hv⟩ := Request.isString_of_route hroute
    simp only [Text.isString_append, Text.isString_ofString, ModelVersion.isString_uri hm hv,
      and_self]

/-! ## The endpoints -/

/-- An endpoint names the URI of the key. -/
def NamesUri (app : App) (r : Request) (handled : Handled) : Prop :=
  ∃ uri, uriOfKey (Query.text? r.query "key") app.format = .ok uri ∧
    handled.entity = uriEntity uri

/-- An endpoint reports what is wrong. -/
def IsReport (app : App) (r : Request) (e : Endpoint) (handled : Handled) : Prop :=
  ∃ message, Reports app r e handled.status message ∧ handled.entity = errorEntity message

theorem upsert_answers (app : App) (r : Request) :
    (app.upsert r).status = 201 ∧ NamesUri app r (app.upsert r) ∨
      (app.upsert r).status = 400 ∧ IsReport app r .upsert (app.upsert r) := by
  unfold App.upsert
  cases hkey : ModelVersion.ofKey (Query.text? r.query "key") with
  | error error =>
    rw [uriOf_of_keyError app hkey]
    exact Or.inr ⟨rfl, error.message, .key (Or.inl rfl) hkey, rfl⟩
  | ok version =>
    have huri := uriOf_of_ofKey app hkey
    rw [huri]
    cases hbody : upsertOf r.body with
    | error cause =>
      refine Or.inr ⟨rfl, _, .body hkey (upsertOf_eq_error_iff.1 hbody), ?_⟩
      simp only [Text.ofString_append]
    | ok upsert => exact Or.inl ⟨rfl, _, huri, rfl⟩

theorem remove_answers (app : App) (r : Request) :
    (app.remove r).status = 200 ∧ NamesUri app r (app.remove r) ∨
      (app.remove r).status = 400 ∧ IsReport app r .remove (app.remove r) := by
  unfold App.remove
  cases hkey : ModelVersion.ofKey (Query.text? r.query "key") with
  | error error =>
    rw [uriOf_of_keyError app hkey]
    exact Or.inr ⟨rfl, error.message, .key (Or.inr rfl) hkey, rfl⟩
  | ok version =>
    have huri := uriOf_of_ofKey app hkey
    rw [huri]
    exact Or.inl ⟨rfl, _, huri, rfl⟩

theorem modelCard_answers (app : App) (r : Request) :
    ((app.modelCard r).status ≠ 400 ∧ (app.modelCard r).status ≠ 404) ∨
      IsReport app r .modelCard (app.modelCard r) := by
  cases hcard : app.state.cards.find? r.cardKey with
  | none =>
    have hreading := Cards.reading_of_none hcard
    refine Or.inr ⟨"no model card found for '" ++ r.cardKey ++ "'", ?_, ?_⟩
    · simp only [modelCard, Request.getD_key, hreading]
      exact .card hcard
    · simp only [modelCard, Request.getD_key, hreading]
  | some card =>
    cases hexhausted : card.isExhausted with
    | true =>
      have hreading := Cards.reading_of_exhausted hcard hexhausted
      simp [modelCard, Request.getD_key, hreading]
    | false =>
      have hreading := Cards.reading_of_fresh hcard hexhausted
      cases hbytes : Utf8.encodeText? card.content with
      | some bytes => simp [modelCard, Request.getD_key, hreading, hbytes]
      | none => simp [modelCard, Request.getD_key, hreading, hbytes]

theorem item_answers (app : App) (r : Request) (version : ModelVersion) (format : String) :
    (app.item version format).status = 200 ∨
      IsReport app r (.item version format) (app.item version format) := by
  cases hget : Catalog.get? app.state.catalog (version.uri format) with
  | none =>
    have hfetch : Catalog.fetch app.state.catalog (version.uri format) =
        .error ⟨version.uri format⟩ := by
      rw [Catalog.fetch, hget]
    refine Or.inr ⟨EntryNotFound.message ⟨version.uri format⟩, ?_, ?_⟩
    · simp only [item, hfetch]
      exact .document hget
    · simp only [item, hfetch]
  | some content =>
    have hfetch := Catalog.fetch_eq_ok_iff.2 hget
    refine Or.inl ?_
    simp only [item, hfetch]

/-- Where all URIs are texts, every answer 400 or 404 is a report, the pages of the file server
apart. -/
theorem isReport_of_status {e : Endpoint} (hforeign : app.foreign = [])
    (hfile : ∀ name, e ≠ .file name)
    (h : (app.handle r e).status = 400 ∨ (app.handle r e).status = 404) :
    IsReport app r e (app.handle r e) := by
  cases e with
  | list =>
    rw [handle, list_eq hforeign] at h
    exact absurd h (by simp)
  | upsert =>
    rcases upsert_answers app r with ⟨hstatus, -⟩ | ⟨-, hreport⟩
    · rw [handle] at h
      omega
    · exact hreport
  | remove =>
    rcases remove_answers app r with ⟨hstatus, -⟩ | ⟨-, hreport⟩
    · rw [handle] at h
      omega
    · exact hreport
  | modelCard =>
    rcases modelCard_answers app r with ⟨h400, h404⟩ | hreport
    · rw [handle] at h
      omega
    · exact hreport
  | item version format =>
    rcases item_answers app r version format with hstatus | hreport
    · rw [handle] at h
      omega
    · exact hreport
  | file name => exact absurd rfl (hfile name)

/-- A key is named where something was stored or taken away. -/
theorem namesUri_of_status {e : Endpoint}
    (h : e = .upsert ∧ (app.handle r e).status = 201 ∨
      e = .remove ∧ (app.handle r e).status = 200) :
    NamesUri app r (app.handle r e) := by
  rcases h with ⟨rfl, h201⟩ | ⟨rfl, h200⟩
  · rcases upsert_answers app r with ⟨-, hnames⟩ | ⟨hstatus, -⟩
    · exact hnames
    · rw [handle] at h201
      omega
  · rcases remove_answers app r with ⟨-, hnames⟩ | ⟨hstatus, -⟩
    · exact hnames
    · rw [handle] at h200
      omega

end Endpoints

/--
**Answers in JSON carry the exact texts.**

Where all URIs are texts, the list of URIs is answered with those that hold a document, in their
order, provided that no surrogate stands in them. Where a document was stored or taken away, the
answer carries the URI that the key of the request stands for. An answer 400 or 404, unless it is a
page of the file server, carries the message that is due. Each of these bodies is ASCII, and what is
read from it is an object with just this member.
-/
theorem json_answer {app : App} (hforeign : app.foreign = []) (id : String) {r : Request}
    {e : Endpoint} (hroute : r.route = .found e) (hverb : r.verb ≠ "OPTIONS") :
    let response := (app.serve id r).response
    (e = .list → response.status = 200 ∧
      ((∀ uri ∈ Catalog.present app.state.catalog, uri.IsString) → response.Carries
        (.object [("uris", .array ((Catalog.present app.state.catalog).map .string))]))) ∧
    (e = .upsert ∧ response.status = 201 ∨ e = .remove ∧ response.status = 200 →
      ∃ uri, uriOfKey (Query.text? r.query "key") app.format = .ok uri ∧
        response.Carries (.object [("uri", .string uri)])) ∧
    ((∀ name, e ≠ .file name) → response.status = 400 ∨ response.status = 404 →
      ∃ message, Reports app r e response.status message ∧
        response.Carries (.object [("error", .string message)])) := by
  intro response
  have hresponse : response = (app.handle r e).response id r := (serve_of_found hroute hverb).2
  have hstatus : response.status = (app.handle r e).status := by rw [hresponse]; rfl
  have hentity : response.entity = (app.handle r e).entity := by rw [hresponse]; rfl
  refine ⟨?_, ?_, ?_⟩
  · rintro rfl
    rw [handle, list_eq hforeign] at hstatus hentity
    refine ⟨hstatus, fun hstrings => ?_⟩
    have hplain : Json.IsPlain (.array ((Catalog.present app.state.catalog).map .string)) :=
      Json.arePlain_map_string hstrings
    exact Response.carries_of_entity (Json.isPlain_member "uris" hplain) hentity
  · rw [hstatus]
    intro h
    obtain ⟨uri, huri, hnames⟩ := namesUri_of_status h
    have hstring : uri.IsString :=
      ModelVersion.isString_of_uriOfKey (fun key hk => Query.isString_of_text? hk) huri
    exact ⟨uri, huri, Response.carries_of_entity
      (Json.isPlain_member "uri" (Json.isPlain_string hstring)) (hentity.trans hnames)⟩
  · rw [hstatus]
    intro hfile h
    obtain ⟨message, hreports, hmessage⟩ := isReport_of_status hforeign hfile h
    have hstring := hreports.isString hroute
    exact ⟨message, hreports, Response.carries_of_entity
      (Json.isPlain_member "error" (Json.isPlain_string hstring)) (hentity.trans hmessage)⟩

/-- The name of a model can be a quote and a character of two units. -/
theorem json_answer_quote :
    let r : Request :=
      ⟨"DELETE", "/remove", String.ofList (Query.encodeParameter "key" "\"😀_v1"), [], "", ""⟩
    let response := ((fresh "json").serve "1" r).response
    (fresh "json").foreign = [] ∧ r.route = .found .remove ∧ r.verb ≠ "OPTIONS" ∧
      response.status = 200 ∧
      response.Carries (.object [("uri", .string "/\"😀/v1/json")]) := by
  intro r response
  have hremoval : r.IsRemoval := Request.isRemoval_mk _ _ _ _
  have hverb : r.verb ≠ "OPTIONS" := by
    rw [hremoval.1]
    decide
  have hkey : Query.text? r.query "key" = some ("\"😀_v1" : Text) :=
    Query.text?_encodeParameter "key" "\"😀_v1"
  have huri : uriOfKey (some ("\"😀_v1" : Text)) "json" = .ok "/\"😀/v1/json" := by decide
  have hstatus : response.status = 200 := by
    show ((fresh "json").serve "1" r).response.status = 200
    rw [(serve_of_isRemoval (fresh "json") "1" hremoval).2, App.remove, uriOf, hkey]
    rfl
  have hforeign : (fresh "json").foreign = [] := rfl
  obtain ⟨-, hnamed, -⟩ := json_answer hforeign "1" hremoval.route_eq hverb
  obtain ⟨uri, hof, hcarries⟩ := hnamed (Or.inr ⟨rfl, hstatus⟩)
  rw [hkey] at hof
  obtain rfl := Except.ok.inj (hof.symm.trans huri)
  exact ⟨hforeign, hremoval.route_eq, hverb, hstatus, hcarries⟩

end App

end CatalogCache.Http
