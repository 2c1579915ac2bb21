import CatalogCache.Proofs.Hydration
import CatalogCache.Proofs.Ingestion
import CatalogCache.Proofs.KeyLists
import CatalogCache.Service
import Mathlib.Data.List.Forall2

/-!
# Two ways into the catalog

A document comes into the catalog from storage, when the service starts, or by a request. The
two ways have nothing in common but the rule for keys and the catalog itself: the one goes over
a list of keys and fetches documents, the other reads a query and a JSON body. Both lead to the
same catalog (`hydration_agrees`): filling it from storage leaves the slots that sending each
listed document leaves, in the same order and with the same documents, and the keys that are
passed over are those whose requests are refused.

The argument goes along the list. One key is one step of the run and one request of the session,
and after both the two catalogs are the same again (`exists_inStep`).
-/

namespace CatalogCache

namespace Http

/-! ## One request -/

/-- A member that is taken for a text: it is missing, null, or a text. -/
def IsTextOrNothing (v : Option Json) : Prop :=
  v = none ∨ v = some .null ∨ ∃ text, v = some (.string text)

/-- Members that carry a document. They may carry the texts of a model card too. -/
structure Carries (content : Bytes) (members : List (Text × Json)) : Prop where
  body : Keyed.find? ("body" : Text) members = some (.string (.ofChars (Base64.encode content)))
  cardKey : IsTextOrNothing (Keyed.find? ("modelCardKey" : Text) members)
  card : IsTextOrNothing (Keyed.find? ("modelCard" : Text) members)
  token : IsTextOrNothing (Keyed.find? ("lastUpdateTimeSinceEpoch" : Text) members)

/-- A request that sends a document under a key. -/
structure SendsDocument (key : Text) (content : Bytes) (r : Request) : Prop where
  upserts : r.IsUpsert
  /-- The key is in the query, percent-encoded in one of the ways to do that. It cannot be if a
  surrogate stands in it. -/
  query : ∃ keep, ∃ s : String, Query.Safe keep ∧ key = s ∧ r.query = Query.keyQuery keep s
  /-- The body is a JSON object in UTF-8, however it is written. -/
  body : ∃ members text, Carries content members ∧
    Json.IsSpellingOf (.object members) (.ofChars text) ∧ r.body = Utf8.encode text

theorem exists_textOf {v : Option Json} (h : IsTextOrNothing v) (name : String) :
    ∃ text, Upsert.textOf name v = .ok text := by
  rcases h with rfl | rfl | ⟨text, rfl⟩
  · exact ⟨[], rfl⟩
  · exact ⟨[], rfl⟩
  · exact ⟨text, rfl⟩

theorem Carries.exists_ofJson {content : Bytes} {members : List (Text × Json)}
    (h : Carries content members) :
    ∃ upsert, Upsert.ofJson (.object members) = .ok upsert ∧ upsert.body = content := by
  obtain ⟨cardKey, hk⟩ := exists_textOf h.cardKey "modelCardKey"
  obtain ⟨card, hc⟩ := exists_textOf h.card "modelCard"
  obtain ⟨token, ht⟩ := exists_textOf h.token "lastUpdateTimeSinceEpoch"
  refine ⟨⟨content, cardKey, card, token⟩, ?_, rfl⟩
  rw [Upsert.ofJson, h.body, hk, hc, ht, Upsert.bodyOf, Base64.decodeText_ofChars,
    Base64.decode_encode]
  rfl

namespace SendsDocument

variable {key : Text} {content : Bytes} {r : Request}

theorem uriOf_eq (h : SendsDocument key content r) (app : App) :
    app.uriOf r = uriOfKey (some key) app.format := by
  obtain ⟨keep, s, hkeep, rfl, hquery⟩ := h.query
  rw [App.uriOf, hquery, Query.text?_keyQuery hkeep]

theorem exists_upsertOf (h : SendsDocument key content r) :
    ∃ upsert, App.upsertOf r.body = .ok upsert ∧ upsert.body = content := by
  obtain ⟨members, text, hcarries, htext, hbody⟩ := h.body
  obtain ⟨upsert, hu, hc⟩ := hcarries.exists_ofJson
  refine ⟨upsert, ?_, hc⟩
  rw [hbody, App.upsertOf, Json.ofBytes?_of_isSpellingOf htext]
  show (Upsert.ofJson (.object members)).mapError UpsertError.message = .ok upsert
  rw [hu]
  rfl

/-- A document that is sent under an accepted key is stored. -/
theorem answered_of_accepted (h : SendsDocument key content r) {app : App} {uri : Text}
    (hkey : uriOfKey (some key) app.format = .ok uri) (id : String) :
    (app.answered ⟨id, r⟩).response.status = 201 ∧
      (app.after ⟨id, r⟩).state.catalog = Catalog.upsert app.state.catalog uri content := by
  obtain ⟨upsert, hu, rfl⟩ := h.exists_upsertOf
  have huri : app.uriOf r = .ok uri := by rw [h.uriOf_eq, hkey]
  obtain ⟨hstatus, hstate⟩ := App.serve_upsert_of_ok h.upserts huri hu id
  refine ⟨hstatus, ?_⟩
  rw [App.after_state, hstate]
  rfl

/-- A document that is sent under another key is refused. -/
theorem answered_of_rejected (h : SendsDocument key content r) {app : App} {error : KeyError}
    (hkey : uriOfKey (some key) app.format = .error error) (id : String) :
    (app.answered ⟨id, r⟩).response.status = 400 ∧
      (app.after ⟨id, r⟩).state = app.state := by
  obtain ⟨hs, hr⟩ := App.serve_of_isUpsert app id h.upserts
  have huri : app.uriOf r = .error error := by rw [h.uriOf_eq, hkey]
  rw [App.answered_response, App.after_state, hs, hr, App.upsert, huri]
  exact ⟨rfl, rfl⟩

end SendsDocument

/-- An upsert that is sent sends its document. -/
theorem Sends.sendsDocument {keep : Char → Bool} (hkeep : Query.Safe keep) {key : String}
    {upsert : Upsert} {r : Request} (h : Sends keep key upsert r) :
    SendsDocument key upsert.body r := by
  obtain ⟨text, htext, hbody⟩ := h.body
  refine ⟨h.upserts, ⟨keep, key, hkeep, rfl, h.query⟩, upsert.members, text, ?_,
    htext.isSpellingOf, hbody⟩
  refine ⟨rfl, ?_, ?_, ?_⟩
  · exact Or.inr (Or.inr ⟨upsert.cardKey, rfl⟩)
  · exact Or.inr (Or.inr ⟨upsert.card, rfl⟩)
  · exact Or.inr (Or.inr ⟨upsert.token, rfl⟩)

end Http

namespace Hydration

open Http (Answered Arrival SendsDocument)

/-! ## One step of a run and one request -/

/-- What is reported about a key that is passed over. -/
def passedOver (key : Text) : Record :=
  note .warning ("bad format for key from storage when splitting with '_': " ++ key)

/-- The warnings in a log. -/
def warnings (log : Log) : Log := log.filter fun record => record.level = .warning

/-- The keys whose requests were answered with a status, in order. -/
def keysAnswered (status : Nat) (keys : List Text) (answers : List Answered) : List Text :=
  ((keys.zip answers).filter fun entry => entry.2.response.status = status).map Prod.fst

/-- Storage lists some keys, and gives their documents to the fetches of the accepted ones. -/
structure Serves (source : Source) (listed : List (Text × Bytes)) : Prop where
  keys : source.keys = .ok (listed.map Prod.fst)
  documents : ∀ n key content,
    (listed.filter fun entry => isAccepted entry.1)[n]? = some (key, content) →
      source.document n key = .ok content

/-- A run that goes from one point to another does for some keys what the answers to some
requests say: it loads the keys answered 201 and passes over those answered 400. -/
structure InStep (keys : List Text) (answers : List Answered) (p q : Progress) : Prop where
  statuses : ∀ answer ∈ answers, answer.response.status = 201 ∨ answer.response.status = 400
  fetched : q.fetched = p.fetched ++ keysAnswered 201 keys answers
  loaded : q.loaded = p.loaded + (keysAnswered 201 keys answers).length
  skipped : q.skipped = p.skipped + (keysAnswered 400 keys answers).length
  warned : warnings q.log = warnings p.log ++ (keysAnswered 400 keys answers).map passedOver

theorem keysAnswered_cons_of_eq {status : Nat} {key : Text} {keys : List Text}
    {answer : Answered} {answers : List Answered} (h : answer.response.status = status) :
    keysAnswered status (key :: keys) (answer :: answers) =
      key :: keysAnswered status keys answers := by
  rw [keysAnswered, List.zip_cons_cons, List.filter_cons_of_pos (by simp [h]), List.map_cons]
  rfl

theorem keysAnswered_cons_of_ne {status : Nat} {key : Text} {keys : List Text}
    {answer : Answered} {answers : List Answered} (h : answer.response.status ≠ status) :
    keysAnswered status (key :: keys) (answer :: answers) = keysAnswered status keys answers := by
  rw [keysAnswered, List.zip_cons_cons, List.filter_cons_of_neg (by simp [h])]
  rfl

theorem inStep_nil (p : Progress) : InStep [] [] p p where
  statuses := by simp
  fetched := by simp [keysAnswered]
  loaded := rfl
  skipped := rfl
  warned := by simp [keysAnswered]

theorem inStep_skip {key : Text} {keys : List Text} {answer : Answered}
    {answers : List Answered} {p q : Progress} (hs : answer.response.status = 400)
    (h : InStep keys answers (p.skip key) q) : InStep (key :: keys) (answer :: answers) p q := by
  have h201 : answer.response.status ≠ 201 := by omega
  refine ⟨?_, ?_, ?_, ?_, ?_⟩
  · exact List.forall_mem_cons.2 ⟨Or.inr hs, h.statuses⟩
  · rw [keysAnswered_cons_of_ne h201]
    exact h.fetched
  · rw [keysAnswered_cons_of_ne h201]
    exact h.loaded
  · have hn : q.skipped = p.skipped + 1 + (keysAnswered 400 keys answers).length := h.skipped
    rw [keysAnswered_cons_of_eq hs, List.length_cons]
    omega
  · have hw : warnings (p.skip key).log = warnings p.log ++ [passedOver key] := by
      rw [warnings, Progress.skip, Progress.say, List.filter_append]
      rfl
    rw [h.warned, hw, keysAnswered_cons_of_eq hs, List.map_cons, List.append_assoc,
      List.singleton_append]

theorem inStep_load {key uri : Text} {content : Bytes} {keys : List Text}
    {answer : Answered} {answers : List Answered} {p q : Progress}
    (hs : answer.response.status = 201)
    (h : InStep keys answers ((p.ask key).load uri content) q) :
    InStep (key :: keys) (answer :: answers) p q := by
  have h400 : answer.response.status ≠ 400 := by omega
  refine ⟨?_, ?_, ?_, ?_, ?_⟩
  · exact List.forall_mem_cons.2 ⟨Or.inl hs, h.statuses⟩
  · rw [h.fetched, keysAnswered_cons_of_eq hs]
    exact List.append_assoc p.fetched [key] _
  · have hn : q.loaded = p.loaded + 1 + (keysAnswered 201 keys answers).length := h.loaded
    rw [keysAnswered_cons_of_eq hs, List.length_cons]
    omega
  · rw [keysAnswered_cons_of_ne h400]
    exact h.skipped
  · have hw : warnings ((p.ask key).load uri content).log = warnings p.log := by
      rw [warnings, Progress.load, Progress.say, List.filter_append]
      exact List.append_nil _
    rw [h.warned, hw, keysAnswered_cons_of_ne h400]

/-! ## The whole list -/

/-- **Along a list, the run and the session stay together.** -/
theorem exists_inStep (document : (n : Nat) → (key : Text) → Except Storage.Failure Bytes)
    {listed : List (Text × Bytes)} {arrivals : List Arrival}
    (hsends : List.Forall₂ (fun entry a => SendsDocument entry.1 entry.2 a.request)
      listed arrivals)
    (app : Http.App) (p : Progress) (hcatalog : p.state.catalog = app.state.catalog)
    (hdocuments : ∀ n key content,
      (listed.filter fun entry => isAccepted entry.1)[n]? = some (key, content) →
        document (p.fetched.length + n) key = .ok content) :
    ∃ q, run document app.format (listed.map Prod.fst) p = ⟨q.finish, .ok (q.report true)⟩ ∧
      InStep (listed.map Prod.fst) (app.session arrivals) p q ∧
      q.state.catalog = (app.afterAll arrivals).state.catalog := by
  induction hsends generalizing app p with
  | nil => exact ⟨p, rfl, inStep_nil p, hcatalog⟩
  | @cons entry a listed arrivals hsend hrest ih =>
    obtain ⟨key, content⟩ := entry
    rw [List.map_cons, run]
    cases hkey : ModelVersion.ofKey (some key) with
    | error error =>
      have ha : isAccepted key = false := by rw [isAccepted, hkey]; rfl
      have huri : uriOfKey (some key) app.format = .error error := by rw [uriOfKey, hkey]; rfl
      obtain ⟨hstatus, hstate⟩ := hsend.answered_of_rejected huri a.id
      rw [List.filter_cons_of_neg (by simp [ha])] at hdocuments
      obtain ⟨q, hrun, hstep, hq⟩ := ih (app.after a) (p.skip key)
        (hcatalog.trans (congrArg State.catalog hstate).symm) hdocuments
      exact ⟨q, hrun, inStep_skip hstatus hstep, hq⟩
    | ok version =>
      have ha : isAccepted key = true := by rw [isAccepted, hkey]; rfl
      have huri : uriOfKey (some key) app.format = .ok (version.uri app.format) := by
        rw [uriOfKey, hkey]
        rfl
      obtain ⟨hstatus, hstored⟩ := hsend.answered_of_accepted huri a.id
      rw [List.filter_cons_of_pos (by simp [ha])] at hdocuments
      have hhead : document p.fetched.length key = .ok content := hdocuments 0 key content rfl
      -- the later fetches have this one before them
      have htail : ∀ n key' content',
          (listed.filter fun entry => isAccepted entry.1)[n]? = some (key', content') →
            document (((p.ask key).load (version.uri app.format) content).fetched.length + n)
              key' = .ok content' := by
        intro n key' content' hn
        rw [length_fetched_load, Nat.add_assoc, Nat.add_comm 1 n]
        exact hdocuments (n + 1) key' content' hn
      have hnext : ((p.ask key).load (version.uri app.format) content).state.catalog =
          (app.after a).state.catalog := by
        rw [hstored, ← hcatalog]
        rfl
      obtain ⟨q, hrun, hstep, hq⟩ := ih (app.after a) _ hnext htail
      refine ⟨q, ?_, inStep_load hstatus hstep, hq⟩
      simp only [hhead]
      exact hrun

/-- A run does what a session does. -/
structure Agrees (run : Run) (app : Http.App) (keys : List Text) (arrivals : List Arrival) :
    Prop where
  /-- The slots of the catalog are the same, in order and with what they hold. -/
  catalog : run.progress.state.catalog = (app.afterAll arrivals).state.catalog
  /-- Every request is carried out or refused. -/
  statuses : ∀ answer ∈ app.session arrivals,
    answer.response.status = 201 ∨ answer.response.status = 400
  /-- The documents of the keys answered 201 were fetched, in order. -/
  fetched : run.progress.fetched = keysAnswered 201 keys (app.session arrivals)
  /-- The keys answered 400 were passed over, in order. -/
  skipped : warnings run.progress.log =
    (keysAnswered 400 keys (app.session arrivals)).map passedOver
  /-- The run came to its end, and both are counted. -/
  report : run.report = .ok ⟨true, (keysAnswered 201 keys (app.session arrivals)).length,
    (keysAnswered 400 keys (app.session arrivals)).length⟩

/--
**Filling the catalog from storage is sending each listed document.**

The service may have any output format and hold anything before. When it is filled from a
storage that lists some keys and gives the documents of the accepted ones, its catalog is as if
each listed document had been sent in a request under its key. The keys passed over are those
whose requests are answered 400, and as many documents are loaded as requests are answered 201.
-/
theorem hydration_agrees (client : Storage.Client) (transport : Storage.Transport)
    (format : String) (foreign : List Bytes) (state : State) {listed : List (Text × Bytes)}
    (hserves : Serves (client.source transport) listed) {arrivals : List Arrival}
    (hsends : List.Forall₂ (fun entry a => SendsDocument entry.1 entry.2 a.request)
      listed arrivals) :
    Agrees (Service.fill client transport format state).1
      (.ofState format foreign state) (listed.map Prod.fst) arrivals := by
  obtain ⟨q, hrun, hstep, hcatalog⟩ := exists_inStep (client.source transport).document hsends
    (.ofState format foreign state) (.start state) rfl
    (by simpa [Progress.start] using hserves.documents)
  have hfill : (Service.fill client transport format state).1 =
      ⟨q.finish, .ok (q.report true)⟩ := by
    rw [Service.fill, hydrate, hserves.keys]
    exact hrun
  have hwarned : warnings q.finish.log = warnings q.log := by
    rw [warnings, Progress.finish, Progress.say, List.filter_append]
    exact List.append_nil _
  rw [hfill]
  refine ⟨hcatalog, hstep.statuses, hstep.fetched, ?_, ?_⟩
  · rw [hwarned, hstep.warned]
    rfl
  · rw [Progress.report, hstep.loaded, hstep.skipped]
    simp only [Progress.start, Nat.zero_add]

/-! ## A storage for every list -/

/-- A storage that holds these documents. -/
def storageOf (listed : List (Text × Bytes)) : Storage.Transport
  | 0, _ =>
    .response 200
      (Utf8.encode ((Json.array ((listed.map Prod.fst).map .string)).print Json.compact))
  | n + 1, _ =>
    match (listed.filter fun entry => isAccepted entry.1)[n]? with
    | some entry => .response 200 entry.2
    | none => .response 404 []

/-- Documents listed under the texts of their keys. -/
def listing (documents : List (String × Bytes)) : List (Text × Bytes) :=
  documents.map fun document => (document.1, document.2)

/-- Each document sent under its key, without a model card. -/
def sendAll (documents : List (String × Bytes)) : List Arrival :=
  documents.map fun document => Http.App.sendOf document.1 (.ofStrings document.2 "" "" "")

theorem isString_of_mem_listing {documents : List (String × Bytes)} {text : Text}
    (h : text ∈ (listing documents).map Prod.fst) : text.IsString := by
  rw [listing, List.map_map] at h
  obtain ⟨document, -, rfl⟩ := List.mem_map.1 h
  exact Text.isString_ofString document.1

theorem serves_storageOf (client : Storage.Client) (documents : List (String × Bytes)) :
    Serves (client.source (storageOf (listing documents))) (listing documents) where
  keys := by
    have hplain : (Json.array (((listing documents).map Prod.fst).map .string)).IsPlain :=
      Json.arePlain_map_string fun _ h => isString_of_mem_listing h
    have hnil : Json.Blanks (.ofChars []) := Json.blanks_nil
    have htext := Json.isTextOf_print hnil hnil hplain hnil
    rw [List.append_nil] at htext
    have hreply : storageOf (listing documents) 0 client.listRequest = .response 200 (Utf8.encode
        ((Json.array (((listing documents).map Prod.fst).map .string)).print Json.compact)) := rfl
    exact Storage.outcome_list_of_isSpellingOf (Or.inl htext.isSpellingOf) hreply
  documents := by
    intro n key content hn
    have hreply : storageOf (listing documents) (n + 1) (client.fetchRequest key) =
        .response 200 content := by
      rw [storageOf, hn]
    show Storage.readDocument key (client.fetchRequest key).url
      (storageOf (listing documents) (n + 1) (client.fetchRequest key)) = .ok content
    rw [hreply]
    rfl

theorem sendsDocument_sendAll (documents : List (String × Bytes)) :
    List.Forall₂ (fun entry a => SendsDocument entry.1 entry.2 a.request)
      (listing documents) (sendAll documents) := by
  refine List.forall₂_map_left_iff.2 (List.forall₂_map_right_iff.2 (List.forall₂_same.2 ?_))
  intro document _
  have hsends := Http.App.sends_sendOf document.1 document.2 "" "" ""
  exact hsends.sendsDocument Http.Query.safe_isUnreserved

/-- Two keys of one document, and between them a key that names no version. -/
theorem hydration_agrees_mnist :
    let client : Storage.Client := ⟨"http://storage", none, .finite false 10 0⟩
    let documents : List (String × Bytes) :=
      [("mnist_v1", [1]), ("mnist", [2]), ("mnist_v1_b", [3])]
    let listed := listing documents
    (Serves (client.source (storageOf listed)) listed ∧
      List.Forall₂ (fun entry a => SendsDocument entry.1 entry.2 a.request)
        listed (sendAll documents)) ∧
    Agrees (Service.fill client (storageOf listed) "json" .empty).1 (.ofState "json" [] .empty)
      (listed.map Prod.fst) (sendAll documents) := by
  intro client documents listed
  have hserves := serves_storageOf client documents
  have hsends := sendsDocument_sendAll documents
  exact ⟨⟨hserves, hsends⟩,
    hydration_agrees client (storageOf listed) "json" [] .empty hserves hsends⟩

end Hydration

end CatalogCache
