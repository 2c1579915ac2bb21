import CatalogCache.Proofs.Addresses
import CatalogCache.Proofs.JsonPrinting
import CatalogCache.Proofs.KeyNames
import CatalogCache.Proofs.SettingsReadBack

/-!
# Which of the listed documents can be read

A client learns from the list of URIs what there is, and reads a document under its URI, used
as a path. Whatever can be sent under a key gets onto the list. But a path leads to a document
only if it has three segments, so a document of which model or version holds a slash is listed
and cannot be read; nor can one whose path is taken for that of a file. All others are served
as they are stored (`discovered_document_response`).

That no other path leads to such a document either follows from the addresses alone. An endpoint
for documents takes its three names from the segments of the path, and names without slashes
share their URI with no other ones.
-/

namespace CatalogCache.Http

/-- A request for the list of URIs. -/
def Request.IsListing (r : Request) : Prop := r.verb = "GET" ∧ r.absolutePath = "/list".toList

/-- Some URIs are served as a JSON object, and nothing is changed. -/
structure Lists (uris : List Text) (before : State) (x : Exchange) : Prop where
  state : x.state = before
  status : x.response.status = 200
  content : Json.ofBytes? x.response.content =
    some (.object [(("uris" : Text), .array (uris.map .string))])

/-- Model and version are segments of a path, and the path is not that of a file. -/
def IsReadable (version : ModelVersion) (format : String) : Prop :=
  CodePoint.char '/' ∉ version.model ∧ CodePoint.char '/' ∉ version.version ∧
    ¬ IsFilePath version format

instance (version : ModelVersion) (format : String) : Decidable (IsReadable version format) :=
  inferInstanceAs (Decidable (_ ∧ _))

theorem Request.IsListing.route_eq {r : Request} (h : r.IsListing) : r.route = .found .list := by
  rw [route, h.1, h.2]
  decide

/-- The formats that settings accept are the segments of paths. -/
theorem isSegment_of_checkFormat {format : String}
    (h : Draft.checkFormat (.value format) = .ok format) : IsSegment format :=
  isSegment_ofString.2 (Draft.checkFormat_eq_ok_iff.1 h).2

/-- A path that leads to the document of its URI can be read. -/
theorem isReadable_of_route {r : Request} {version other : ModelVersion} {format last : String}
    (hformat : IsSegment format) (hget : r.verb = "GET") (hp : (r.path : Text) = version.uri format)
    (hroute : r.route = .found (.item other last)) (huri : other.uri last = version.uri format) :
    IsReadable version format := by
  obtain ⟨hm, hv, hl⟩ := Request.isSegment_of_route hroute
  obtain ⟨hother, rfl⟩ := (ModelVersion.uri_eq_uri_iff hl.2 hformat.2).1 huri
  -- the names in the path are free of slashes, so they can be no others than the version's own
  rcases hother with rfl | hover
  · refine ⟨hm.2, hv.2, ?_⟩
    intro hfile
    obtain ⟨name, hdirect⟩ := (Request.route_of_uri hm hv hl hget hp).1 hfile
    rw [hroute] at hdirect
    exact absurd hdirect (by simp)
  · exact absurd hover (ModelVersion.not_overlap_of_not_mem hm.2 hv.2 version)

namespace App

theorem afterAll_foreign (app : App) (arrivals : List Arrival) :
    (app.afterAll arrivals).foreign = app.foreign := by
  induction arrivals generalizing app with
  | nil => rfl
  | cons a rest ih => exact ih (app.after a)

/-- If all URIs are texts, those that hold a document are listed. -/
theorem list_eq {app : App} (hforeign : app.foreign = []) :
    app.list = ⟨app.state, 200, urisEntity (Catalog.present app.state.catalog), []⟩ := by
  rw [list, hforeign]
  rfl

theorem lists_of_isListing {app : App} (hforeign : app.foreign = [])
    (htexts : ∀ uri ∈ Catalog.present app.state.catalog, uri.IsString) (id : String)
    {r : Request} (h : r.IsListing) :
    Lists (Catalog.present app.state.catalog) app.state (app.serve id r) := by
  have hverb : r.verb ≠ "OPTIONS" := by
    rw [h.1]
    decide
  have hserve : (app.serve id r).state = (app.handle r .list).state ∧
      (app.serve id r).response = (app.handle r .list).response id r :=
    serve_of_found h.route_eq hverb
  rw [handle, list_eq hforeign] at hserve
  refine ⟨hserve.1, ?_, ?_⟩
  · rw [hserve.2]
    rfl
  · have hplain : Json.IsPlain
        (.object [(("uris" : Text), .array ((Catalog.present app.state.catalog).map .string))]) :=
      Json.isPlain_member "uris" (Json.arePlain_map_string htexts)
    rw [hserve.2]
    simp only [Handled.response, Response.content, urisEntity, Entity.ofJson,
      headOnly_of_get h.1, Bool.false_eq_true, if_false]
    exact Json.ofBytes?_encode_print hplain

/-- What is there after a session was stored under a key. -/
theorem exists_key_of_mem_present {format : String} {arrivals : List Arrival} {uri : Text}
    (h : uri ∈ Catalog.present ((fresh format).afterAll arrivals).state.catalog) :
    ∃ key : String, ∃ version,
      ModelVersion.ofKey (some (key : Text)) = .ok version ∧ version.uri format = uri := by
  obtain ⟨content, hget⟩ := Catalog.mem_present_iff.1 h
  obtain ⟨earlier, x, later, -, hstores, -⟩ := (get?_afterAll_fresh _ _ _ _).1 hget
  obtain ⟨version, hversion, huri⟩ := uriOfKey_eq_ok_iff.1 hstores.1.2
  cases hkey : Query.text? x.request.query "key" with
  | none =>
    rw [hkey, ModelVersion.ofKey] at hversion
    exact absurd hversion (by simp)
  | some key =>
    obtain ⟨s, rfl⟩ := Query.isString_of_text? hkey
    exact ⟨s, version, hkey ▸ hversion, huri⟩

/-- The keys of requests hold no surrogates, and so neither do the URIs. -/
theorem isString_of_mem_present {format : String} {arrivals : List Arrival} {uri : Text}
    (h : uri ∈ Catalog.present ((fresh format).afterAll arrivals).state.catalog) :
    uri.IsString := by
  obtain ⟨key, version, hkey, huri⟩ := exists_key_of_mem_present h
  refine ModelVersion.isString_of_uriOfKey ?_ (uriOfKey_eq_ok_iff.2 ⟨version, hkey, huri⟩)
  rintro text ⟨⟩
  exact Text.isString_ofString key

/--
**What is listed can be read, unless its names hold a slash or its path is that of a file.**

After any session with a fresh service the list of URIs is served, and each URI on it is that of
an accepted key. If neither the model nor the version of the key holds a slash, and the path is
not taken for that of a file, a `GET` of the URI is answered 200 with the document as it is
stored. In all other cases a `GET` of the URI leads elsewhere than to that document.
-/
theorem discovered_document_response {format : String}
    (hformat : Draft.checkFormat (.value format) = .ok format) (arrivals : List Arrival)
    (id : String) :
    let app := (fresh format).afterAll arrivals
    let uris := Catalog.present app.state.catalog
    (∀ r : Request, r.IsListing → Lists uris app.state (app.serve id r)) ∧
    (∀ uri ∈ uris,
      ∃ key : String, ∃ version,
        ModelVersion.ofKey (some (key : Text)) = .ok version ∧ version.uri format = uri) ∧
    ∀ key version, ModelVersion.ofKey (some key) = .ok version → version.uri format ∈ uris →
      ∃ content, Catalog.get? app.state.catalog (version.uri format) = some content ∧
        ∀ r : Request, r.verb = "GET" → (r.path : Text) = version.uri format →
          (IsReadable version format → (app.serve id r).response.status = 200 ∧
            (app.serve id r).response.content = content) ∧
          (¬ IsReadable version format → ∀ other last, other.uri last = version.uri format →
            r.route ≠ .found (.item other last)) := by
  intro app uris
  have hseg := isSegment_of_checkFormat hformat
  refine ⟨?_, fun uri huri => exists_key_of_mem_present huri, ?_⟩
  · intro r hr
    exact lists_of_isListing (afterAll_foreign (fresh format) arrivals)
      (fun uri huri => isString_of_mem_present huri) id hr
  · intro key version hkey hmem
    obtain ⟨content, hcontent⟩ := Catalog.mem_present_iff.1 hmem
    refine ⟨content, hcontent, ?_⟩
    intro r hget hp
    refine ⟨?_, ?_⟩
    · intro hreadable
      obtain ⟨hmodel, hversion⟩ := ModelVersion.names_of_ofKey hkey
      have hroute := (Request.route_of_uri ⟨hmodel, hreadable.1⟩ ⟨hversion, hreadable.2.1⟩ hseg
        hget hp).2 hreadable.2.2
      exact ((response_of_item app id hroute hget).1 content).2 hcontent
    · intro hnot other last huri hroute
      exact hnot (isReadable_of_route hseg hget hp hroute huri)

/-- A document of the model `mnist` is listed and served. -/
theorem discovered_document_response_mnist :
    Draft.checkFormat (.value "json") = .ok "json" ∧
    ("/mnist/v1/json" : Text) ∈
      Catalog.present ((fresh "json").after (postOf "mnist_v1")).state.catalog ∧
    (((fresh "json").after (postOf "mnist_v1")).serve "" (getOf "/mnist/v1/json")).response.status
      = 200 := by
  have hformat : Draft.checkFormat (.value "json") = .ok "json" := rfl
  have hlisted : ("/mnist/v1/json" : Text) ∈
      Catalog.present ((fresh "json").after (postOf "mnist_v1")).state.catalog :=
    Catalog.mem_present_iff.2 ⟨[97], get?_after_postOf rfl⟩
  obtain ⟨-, -, hread⟩ := discovered_document_response hformat [postOf "mnist_v1"] ""
  obtain ⟨content, -, hserve⟩ := hread "mnist_v1" ⟨"mnist", "v1"⟩ rfl hlisted
  have hget : (getOf "/mnist/v1/json").verb = "GET" := by decide
  have hreadable : IsReadable ⟨"mnist", "v1"⟩ "json" := by decide
  exact ⟨hformat, hlisted, ((hserve (getOf "/mnist/v1/json") hget rfl).1 hreadable).1⟩

/-- A document of the model `a/b` is listed and not served. -/
theorem listed_document_not_served :
    Draft.checkFormat (.value "json") = .ok "json" ∧
    ("/a/b/v1/json" : Text) ∈
      Catalog.present ((fresh "json").after (postOf "a/b_v1")).state.catalog ∧
    (((fresh "json").after (postOf "a/b_v1")).serve "" (getOf "/a/b/v1/json")).response.status
      = 404 := by
  refine ⟨rfl, Catalog.mem_present_iff.2 ⟨[97], get?_after_postOf rfl⟩, ?_⟩
  have hroute : (getOf "/a/b/v1/json").route = .unknown := by decide
  rw [serve_response, hroute]
  rfl

end App

end CatalogCache.Http
