import CatalogCache.Proofs.Requests
import CatalogCache.Proofs.Sessions
import Mathlib.Tactic.Tauto

/-!
# Documents over a session

What a client gets under the path of a document is decided by the session before: by the last
upsert or removal that was carried out for this URI. If that was an upsert its document is
served, byte for byte and also if it is empty; if it was a removal, or if there was none, the
answer is 404. Requests that were refused and writes to other URIs do not count.

`get?_after` says what one request does to the document of a URI, `get?_afterAll` what a
session does, by induction on its requests.

One kind of path is an exception. A document of a model named `static` can be stored, listed
and removed, but under its path the files of the server are looked for first (`IsFilePath`),
and the server has none. So it is not served, whatever was stored.
-/

namespace CatalogCache.Http

namespace Answered

/-- A request that was carried out as an upsert or as a removal, for a URI. -/
def Writes (format : String) (uri : Text) (x : Answered) : Prop :=
  (x.request.IsUpsert ∧ x.response.status = 201 ∨
    x.request.IsRemoval ∧ x.response.status = 200) ∧
  uriOfKey (Query.text? x.request.query "key") format = .ok uri

/-- A request that was carried out as an upsert of a document for a URI. -/
def Stores (format : String) (uri : Text) (content : Bytes) (x : Answered) : Prop :=
  x.Writes format uri ∧ x.request.IsUpsert ∧
    ∃ upsert, App.upsertOf x.request.body = .ok upsert ∧ upsert.body = content

end Answered

/-- The last write to a URI in a session stored a document. -/
def LastStored (format : String) (uri : Text) (content : Bytes) (xs : List Answered) : Prop :=
  ∃ earlier x later, xs = earlier ++ x :: later ∧ x.Stores format uri content ∧
    ∀ y ∈ later, ¬ y.Writes format uri

theorem not_lastStored_nil {format : String} {uri : Text} {content : Bytes} :
    ¬ LastStored format uri content [] := by
  rintro ⟨earlier, x, later, h, -⟩
  exact absurd h (by simp)

theorem lastStored_cons_iff {format : String} {uri : Text} {content : Bytes} {x : Answered}
    {xs : List Answered} :
    LastStored format uri content (x :: xs) ↔
      LastStored format uri content xs ∨
        x.Stores format uri content ∧ ∀ y ∈ xs, ¬ y.Writes format uri := by
  constructor
  · rintro ⟨earlier, y, later, h, hy, hl⟩
    cases earlier with
    | nil =>
      obtain ⟨rfl, rfl⟩ := List.cons.inj h
      exact Or.inr ⟨hy, hl⟩
    | cons z earlier =>
      obtain ⟨-, rfl⟩ := List.cons.inj h
      exact Or.inl ⟨earlier, y, later, rfl, hy, hl⟩
  · rintro (⟨earlier, y, later, rfl, hy, hl⟩ | ⟨hx, hl⟩)
    · exact ⟨x :: earlier, y, later, rfl, hy, hl⟩
    · exact ⟨[], x, xs, rfl, hx, hl⟩

/-- A request that is refused writes nothing. -/
theorem not_writes_of_status {format : String} {uri : Text} {x : Answered}
    (h : x.response.status = 400) : ¬ x.Writes format uri := by
  rintro ⟨⟨-, hs⟩ | ⟨-, hs⟩, -⟩
  · rw [h] at hs
    exact absurd hs (by decide)
  · rw [h] at hs
    exact absurd hs (by decide)

/-- Where nothing is written, what was there before is there after. -/
theorem stores_or_iff {format : String} {uri : Text} {content : Bytes} {x : Answered} {p : Prop}
    (h : ¬ x.Writes format uri) : x.Stores format uri content ∨ ¬ x.Writes format uri ∧ p ↔ p := by
  constructor
  · rintro (hs | ⟨-, hp⟩)
    · exact absurd hs.1 h
    · exact hp
  · intro hp
    exact Or.inr ⟨h, hp⟩

theorem not_isRemoval_of_isUpsert {r : Request} (h : r.IsUpsert) : ¬ r.IsRemoval := by
  intro hr
  have hv := h.1.symm.trans hr.1
  exact absurd hv (by decide)

namespace App

/-! ## What one request does to a document -/

/-- A request that is carried out for a URI decides about this URI and about no other one. -/
theorem get?_after_of_writes {app : App} {a : Arrival} {target uri : Text} {content : Bytes}
    {written : Option Bytes} (hw : (app.answered a).Writes app.format target)
    (hs : (app.answered a).Stores app.format target content ↔ written = some content)
    (hget : Catalog.get? (app.after a).state.catalog uri =
      if target = uri then written else Catalog.get? app.state.catalog uri) :
    Catalog.get? (app.after a).state.catalog uri = some content ↔
      (app.answered a).Stores app.format uri content ∨
        ¬ (app.answered a).Writes app.format uri ∧
          Catalog.get? app.state.catalog uri = some content := by
  rw [hget]
  by_cases heq : target = uri
  · subst heq
    rw [if_pos rfl, ← hs]
    constructor
    · exact Or.inl
    · rintro (h | ⟨hn, -⟩)
      · exact h
      · exact absurd hw hn
  · -- a key stands for one URI, so the other one was not written to
    rw [if_neg heq, stores_or_iff]
    rintro ⟨-, hk⟩
    exact heq (Except.ok.inj (hw.2.symm.trans hk))

theorem get?_after_of_isUpsert {app : App} {a : Arrival} {uri : Text} {content : Bytes}
    (h : a.request.IsUpsert) :
    Catalog.get? (app.after a).state.catalog uri = some content ↔
      (app.answered a).Stores app.format uri content ∨
        ¬ (app.answered a).Writes app.format uri ∧
          Catalog.get? app.state.catalog uri = some content := by
  obtain ⟨hs, hr⟩ := serve_of_isUpsert app a.id h
  rcases upsert_cases app a.request with ⟨target, upsert, hu, hb, hstate, hstatus, -⟩ |
    ⟨hstate, hstatus⟩
  · have h201 : (app.answered a).response.status = 201 := by rw [answered, hr]; exact hstatus
    have hw : (app.answered a).Writes app.format target := ⟨Or.inl ⟨h, h201⟩, hu⟩
    have hc : (app.answered a).Stores app.format target content ↔
        some upsert.body = some content := by
      constructor
      · rintro ⟨-, -, upsert', hb', rfl⟩
        rw [Except.ok.inj (hb.symm.trans hb')]
      · intro hc
        exact ⟨hw, h, upsert, hb, Option.some.inj hc⟩
    refine get?_after_of_writes hw hc ?_
    rw [after_state, hs, hstate, State.apply, Catalog.get?_upsert]
  · have h400 : (app.answered a).response.status = 400 := by rw [answered, hr]; exact hstatus
    rw [after_state, hs, hstate, stores_or_iff (not_writes_of_status h400)]

theorem get?_after_of_isRemoval {app : App} {a : Arrival} {uri : Text} {content : Bytes}
    (h : a.request.IsRemoval) :
    Catalog.get? (app.after a).state.catalog uri = some content ↔
      (app.answered a).Stores app.format uri content ∨
        ¬ (app.answered a).Writes app.format uri ∧
          Catalog.get? app.state.catalog uri = some content := by
  obtain ⟨hs, hr⟩ := serve_of_isRemoval app a.id h
  rcases remove_cases app a.request with ⟨target, hu, hstate, hstatus, -⟩ | ⟨hstate, hstatus⟩
  · have h200 : (app.answered a).response.status = 200 := by rw [answered, hr]; exact hstatus
    have hw : (app.answered a).Writes app.format target := ⟨Or.inr ⟨h, h200⟩, hu⟩
    have hc : (app.answered a).Stores app.format target content ↔
        (none : Option Bytes) = some content := by
      constructor
      · rintro ⟨-, hup, -⟩
        exact absurd h (not_isRemoval_of_isUpsert hup)
      · intro hc
        exact absurd hc (by simp)
    refine get?_after_of_writes hw hc ?_
    rw [after_state, hs, hstate, State.remove, Catalog.get?_delete]
  · have h400 : (app.answered a).response.status = 400 := by rw [answered, hr]; exact hstatus
    rw [after_state, hs, hstate, stores_or_iff (not_writes_of_status h400)]

/-- **A document after a request:** it was stored just now, or it was there and nothing was
written under its URI. -/
theorem get?_after (app : App) (a : Arrival) (uri : Text) (content : Bytes) :
    Catalog.get? (app.after a).state.catalog uri = some content ↔
      (app.answered a).Stores app.format uri content ∨
        ¬ (app.answered a).Writes app.format uri ∧
          Catalog.get? app.state.catalog uri = some content := by
  by_cases hu : a.request.IsUpsert
  · exact get?_after_of_isUpsert hu
  by_cases hr : a.request.IsRemoval
  · exact get?_after_of_isRemoval hr
  · rw [after_state, serve_catalog_of_other hu hr, stores_or_iff]
    rintro ⟨⟨h, -⟩ | ⟨h, -⟩, -⟩
    · exact hu h
    · exact hr h

/-! ## What a session does to a document -/

/-- **A document after a session:** its URI was last written to by an upsert of this document,
or the document was there and nothing was written under its URI. -/
theorem get?_afterAll (app : App) (arrivals : List Arrival) (uri : Text) (content : Bytes) :
    Catalog.get? (app.afterAll arrivals).state.catalog uri = some content ↔
      LastStored app.format uri content (app.session arrivals) ∨
        (∀ x ∈ app.session arrivals, ¬ x.Writes app.format uri) ∧
          Catalog.get? app.state.catalog uri = some content := by
  induction arrivals generalizing app with
  | nil => simp [session, not_lastStored_nil]
  | cons a rest ih =>
    rw [afterAll_cons, ih, get?_after, after_format, session, lastStored_cons_iff,
      List.forall_mem_cons]
    tauto

theorem get?_afterAll_fresh (format : String) (arrivals : List Arrival) (uri : Text)
    (content : Bytes) :
    Catalog.get? ((fresh format).afterAll arrivals).state.catalog uri = some content ↔
      LastStored format uri content ((fresh format).session arrivals) := by
  rw [get?_afterAll]
  have hnone : Catalog.get? (fresh format).state.catalog uri = none := rfl
  rw [hnone]
  simp [fresh, ofState]

/-! ## What is served under the path of a document -/

/-- An answer to `GET` has its body. -/
theorem headOnly_of_get {r : Request} (h : r.verb = "GET") : r.headOnly = false :=
  Request.headOnly_eq_false (by rw [h]; decide)

/-- A document that is there is served, and only then is the answer 200. -/
theorem response_of_item (app : App) (id : String) {r : Request} {version : ModelVersion}
    {format : String} (h : r.route = .found (.item version format)) (hget : r.verb = "GET") :
    (∀ content, (app.serve id r).response.status = 200 ∧
        (app.serve id r).response.content = content ↔
      Catalog.get? app.state.catalog (version.uri format) = some content) ∧
    (Catalog.get? app.state.catalog (version.uri format) = none →
      (app.serve id r).response.status = 404) := by
  rw [(serve_of_found h (by rw [hget]; decide)).2]
  simp only [handle, item, Catalog.fetch]
  cases Catalog.get? app.state.catalog (version.uri format) with
  | none => simp [Handled.response]
  | some content => simp [Handled.response, Response.content, headOnly_of_get hget]

/-- Where a file is looked for, there is none. -/
theorem status_of_file (app : App) (id : String) {r : Request} {name : String}
    (h : r.route = .found (.file name)) (hget : r.verb = "GET") :
    (app.serve id r).response.status = 404 := by
  rw [(serve_of_found h (by rw [hget]; decide)).2]
  rfl

/--
**A document is served exactly as it was last stored, unless its path is that of a file.**

After any session with a fresh service, a `GET` of a path of three segments is answered 200
with a document exactly if the path is not taken for that of a file, and the last write that
was carried out for this URI stored that document. In all other cases the answer is 404.
-/
theorem document_response (format : String) (arrivals : List Arrival) (version : ModelVersion)
    (last : String) (hm : IsSegment version.model) (hv : IsSegment version.version)
    (hl : IsSegment last) (id : String) (r : Request) (hget : r.verb = "GET")
    (hp : (r.path : Text) = version.uri last) :
    let served (content : Bytes) := ¬ IsFilePath version last ∧
      LastStored format (version.uri last) content ((fresh format).session arrivals)
    let response := (((fresh format).afterAll arrivals).serve id r).response
    (∀ content, response.status = 200 ∧ response.content = content ↔ served content) ∧
      ((¬ ∃ content, served content) → response.status = 404) := by
  intro served response
  obtain ⟨hfiles, hdocuments⟩ := Request.route_of_uri hm hv hl hget hp
  by_cases hfile : IsFilePath version last
  · obtain ⟨name, hroute⟩ := hfiles hfile
    have h404 : response.status = 404 := status_of_file _ id hroute hget
    refine ⟨?_, fun _ => h404⟩
    intro content
    constructor
    · rintro ⟨h200, -⟩
      rw [h404] at h200
      exact absurd h200 (by decide)
    · rintro ⟨hn, -⟩
      exact absurd hfile hn
  · obtain ⟨h200, h404⟩ :=
      response_of_item ((fresh format).afterAll arrivals) id (hdocuments hfile) hget
    have hserved : ∀ content, served content ↔
        Catalog.get? ((fresh format).afterAll arrivals).state.catalog (version.uri last) =
          some content := by
      intro content
      rw [get?_afterAll_fresh]
      exact and_iff_right hfile
    refine ⟨?_, ?_⟩
    · intro content
      rw [hserved]
      exact h200 content
    · intro hnone
      refine h404 (Option.eq_none_iff_forall_not_mem.2 ?_)
      intro content hc
      exact hnone ⟨content, (hserved content).2 hc⟩

/-- A `POST` of a document of one byte under a key. -/
def postOf (key : String) : Arrival where
  id := ""
  request := ⟨"POST", "/upsert", String.ofList (Query.encodeParameter "key" key),
    Utf8.encodeString "\x7b\"body\":\"YQ==\"\x7d", "", ""⟩

/-- A `GET` of a path. -/
def getOf (path : String) : Request := ⟨"GET", path, "", [], "", ""⟩

theorem uriOf_postOf (format key : String) :
    (fresh format).uriOf (postOf key).request = uriOfKey (some (key : Text)) format := by
  have hkey : Query.text? (postOf key).request.query "key" = some (key : Text) :=
    Query.text?_encodeParameter "key" key
  rw [uriOf, hkey]
  rfl

theorem ofBytes?_postOf (key : String) :
    Json.ofBytes? (postOf key).request.body =
      some (.object [(("body" : Text), .string "YQ==")]) := by
  have hbytes : Utf8.encodeString "\x7b\"body\":\"YQ==\"\x7d" =
      [123, 34, 98, 111, 100, 121, 34, 58, 34, 89, 81, 61, 61, 34, 125] := by
    decide +kernel
  -- the text is evaluated in two steps, from the string to its bytes and from there to JSON
  show Json.ofBytes? (Utf8.encodeString "\x7b\"body\":\"YQ==\"\x7d") = _
  rw [hbytes]
  rfl

theorem upsertOf_postOf (key : String) :
    upsertOf (postOf key).request.body = .ok ⟨[97], [], [], []⟩ := by
  rw [upsertOf, ofBytes?_postOf]
  rfl

/-- An upsert with a right key and a right body is the last one of its session. -/
theorem lastStored_of_upsert {app : App} {a : Arrival} {uri : Text} {upsert : Upsert}
    (h : a.request.IsUpsert) (hu : app.uriOf a.request = .ok uri)
    (hb : upsertOf a.request.body = .ok upsert) :
    LastStored app.format uri upsert.body (app.session [a]) := by
  have h201 : (app.answered a).response.status = 201 := (serve_upsert_of_ok h hu hb a.id).1
  exact ⟨[], app.answered a, [], rfl, ⟨⟨Or.inl ⟨h, h201⟩, hu⟩, h, upsert, hb, rfl⟩, by simp⟩

/-- What was sent under an accepted key is there. -/
theorem get?_after_postOf {format key : String} {uri : Text}
    (h : uriOfKey (some (key : Text)) format = .ok uri) :
    Catalog.get? ((fresh format).after (postOf key)).state.catalog uri = some [97] := by
  have hpost : (postOf key).request.IsUpsert := Request.isUpsert_mk _ _ _ _
  have hstored := lastStored_of_upsert hpost ((uriOf_postOf format key).trans h)
    (upsertOf_postOf key)
  exact (get?_afterAll_fresh format [postOf key] uri [97]).2 hstored

/-- After its upsert a document of the model `mnist` is served. -/
theorem document_response_mnist :
    (IsSegment "mnist" ∧ IsSegment "v1" ∧ IsSegment "json" ∧
      (getOf "/mnist/v1/json").verb = "GET" ∧
      ((getOf "/mnist/v1/json").path : Text) = ModelVersion.uri ⟨"mnist", "v1"⟩ "json") ∧
    (((fresh "json").afterAll [postOf "mnist_v1"]).serve ""
      (getOf "/mnist/v1/json")).response.status = 200 ∧
    (((fresh "json").afterAll [postOf "mnist_v1"]).serve ""
      (getOf "/mnist/v1/json")).response.content = [97] := by
  have hpost : (postOf "mnist_v1").request.IsUpsert := by decide
  have huri : (fresh "json").uriOf (postOf "mnist_v1").request = .ok "/mnist/v1/json" := by
    rw [uriOf_postOf]
    rfl
  have hstored := lastStored_of_upsert hpost huri (upsertOf_postOf "mnist_v1")
  have hm : IsSegment "mnist" := by decide
  have hv : IsSegment "v1" := by decide
  have hl : IsSegment "json" := by decide
  have hget : (getOf "/mnist/v1/json").verb = "GET" := by decide
  have hp : ((getOf "/mnist/v1/json").path : Text) = ModelVersion.uri ⟨"mnist", "v1"⟩ "json" := by
    decide
  refine ⟨⟨hm, hv, hl, hget, hp⟩, ?_⟩
  exact ((document_response "json" [postOf "mnist_v1"] ⟨"mnist", "v1"⟩ "json" hm hv hl "" _
    hget hp).1 [97]).2 ⟨by decide, hstored⟩

/-- After its upsert a document of the model `static` is not served. -/
theorem static_document_not_served :
    LastStored "json" "/static/v1/json" [97] ((fresh "json").session [postOf "static_v1"]) ∧
    (((fresh "json").afterAll [postOf "static_v1"]).serve ""
      (getOf "/static/v1/json")).response.status = 404 := by
  have hpost : (postOf "static_v1").request.IsUpsert := by decide
  have huri : (fresh "json").uriOf (postOf "static_v1").request = .ok "/static/v1/json" := by
    rw [uriOf_postOf]
    rfl
  refine ⟨lastStored_of_upsert hpost huri (upsertOf_postOf "static_v1"), ?_⟩
  have hfile : IsFilePath ⟨"static", "v1"⟩ "json" := by decide
  have hp : ((getOf "/static/v1/json").path : Text) = ModelVersion.uri ⟨"static", "v1"⟩ "json" := by
    decide
  obtain ⟨name, hroute⟩ :=
    (Request.route_of_uri (by decide) (by decide) (by decide) (by decide) hp).1 hfile
  exact status_of_file _ "" hroute (by decide)

end App

end CatalogCache.Http
