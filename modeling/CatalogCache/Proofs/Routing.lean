import CatalogCache.Http.App

/-!
# Where the paths of requests lead

An endpoint is found only under its own path, and only with a method that it takes. So a
request that could change the cache is known by its method and path alone: an upsert, a
removal, or a read of a model card (`IsUpsert`, `IsRemoval`, `IsCardRead`).

A path of three segments leads to a document, with one exception. The files of the server are
looked for before the documents, so a path below `/static/` leads to a file if the rest of it
can be the name of one, whatever document it would name (`IsFilePath`).
-/

namespace CatalogCache.Http

namespace Route

theorem mem_fixed_of_fixed?_eq_some {segments : List (List Char)} {e : Endpoint}
    (h : fixed? segments = some e) : ∃ segment, segments = [segment] ∧ (segment, e) ∈ fixed := by
  unfold fixed? at h
  split at h
  · rename_i segment
    exact ⟨segment, rfl, Keyed.mem_of_find?_eq_some h⟩
  · exact absurd h (by simp)

theorem eq_file_of_file?_eq_some {segments : List (List Char)} {e : Endpoint}
    (h : file? segments = some e) : ∃ name, e = .file name := by
  unfold file? at h
  split at h
  · dsimp only at h
    split at h
    · exact ⟨_, (Option.some.inj h).symm⟩
    · exact absurd h (by simp)
  · exact absurd h (by simp)

theorem eq_item_of_item?_eq_some {segments : List (List Char)} {e : Endpoint}
    (h : item? segments = some e) : ∃ version format, e = .item version format := by
  unfold item? at h
  split at h
  · split at h
    · exact absurd h (by simp)
    · exact ⟨_, _, (Option.some.inj h).symm⟩
  · exact absurd h (by simp)

/-- An endpoint that a path can lead to is a file, a document, or has that very path. -/
theorem cases_of_mem_candidates {path : List Char} {e : Endpoint} (h : e ∈ candidates path) :
    (path.drop 1, e) ∈ fixed ∨ (∃ name, e = .file name) ∨
      ∃ version format, e = .item version format := by
  unfold candidates at h
  dsimp only at h
  rcases List.mem_append.1 h with h | h
  · rcases List.mem_append.1 h with h | h
    · obtain ⟨segment, hs, hf⟩ := mem_fixed_of_fixed?_eq_some (Option.mem_toList.1 h)
      exact Or.inl (by rw [Text.eq_of_fields_eq_singleton hs]; exact hf)
    · exact Or.inr (Or.inl (eq_file_of_file?_eq_some (Option.mem_toList.1 h)))
  · exact Or.inr (Or.inr (eq_item_of_item?_eq_some (Option.mem_toList.1 h)))

/-- An endpoint that was found is one that the path can lead to, and takes the method. -/
theorem mem_candidates_of_found {path : List Char} {method : String} {e : Endpoint}
    (h : Route.of path method = .found e) : e ∈ candidates path ∧ e.allows method = true := by
  unfold Route.of at h
  dsimp only at h
  split at h
  · rename_i e' hf
    obtain rfl := Route.found.inj h
    exact ⟨List.mem_of_find?_eq_some hf, by simpa using List.find?_some hf⟩
  · split at h
    · exact Route.noConfusion h
    · split at h <;> exact Route.noConfusion h

/-- The first endpoint that a path can lead to is found with a method that it takes. -/
theorem found_of_candidates {path : List Char} {method : String} {e : Endpoint}
    {others : List Endpoint} (hc : candidates path = e :: others)
    (ha : e.allows method = true) : Route.of path method = .found e := by
  rw [Route.of, hc]
  simp only [List.find?_cons, ha]

end Route

/-! ## Requests that can change the cache -/

namespace Request

/-- A document is sent. -/
def IsUpsert (r : Request) : Prop := r.verb = "POST" ∧ r.absolutePath = "/upsert".toList

/-- A document is taken away. -/
def IsRemoval (r : Request) : Prop := r.verb = "DELETE" ∧ r.absolutePath = "/remove".toList

/-- A model card is read. -/
def IsCardRead (r : Request) : Prop :=
  (r.verb = "GET" ∨ r.verb = "HEAD") ∧ r.absolutePath = "/modelcard".toList

instance (r : Request) : Decidable r.IsUpsert := inferInstanceAs (Decidable (_ ∧ _))

instance (r : Request) : Decidable r.IsRemoval := inferInstanceAs (Decidable (_ ∧ _))

instance (r : Request) : Decidable r.IsCardRead := inferInstanceAs (Decidable (_ ∧ _))

theorem isUpsert_mk (query : String) (body : Bytes) (contentType origin : String) :
    IsUpsert ⟨"POST", "/upsert", query, body, contentType, origin⟩ := by
  have hverb : Text.upper "POST" = "POST" := by decide
  have hpath : '/' :: "/upsert".toList.dropWhile (· == '/') = "/upsert".toList := by decide
  exact ⟨hverb, hpath⟩

theorem isRemoval_mk (query : String) (body : Bytes) (contentType origin : String) :
    IsRemoval ⟨"DELETE", "/remove", query, body, contentType, origin⟩ := by
  have hverb : Text.upper "DELETE" = "DELETE" := by decide
  have hpath : '/' :: "/remove".toList.dropWhile (· == '/') = "/remove".toList := by decide
  exact ⟨hverb, hpath⟩

/-- Only the answer to `HEAD` can be without its body. -/
theorem headOnly_eq_false {r : Request} (h : r.verb ≠ "HEAD") : r.headOnly = false := by
  have hverb : Text.upper "HEAD" = "HEAD" := by decide
  rw [headOnly, decide_eq_false_iff_not]
  intro hm
  rw [verb, hm] at h
  exact h hverb

/-- Where a request leads. -/
def route (r : Request) : Route := Route.of r.absolutePath r.verb

theorem IsUpsert.route_eq {r : Request} (h : r.IsUpsert) : r.route = .found .upsert := by
  rw [route, h.1, h.2]
  decide

theorem IsRemoval.route_eq {r : Request} (h : r.IsRemoval) : r.route = .found .remove := by
  rw [route, h.1, h.2]
  decide

theorem IsCardRead.route_eq {r : Request} (h : r.IsCardRead) : r.route = .found .modelCard := by
  rw [route, h.2]
  rcases h.1 with hv | hv
  · rw [hv]
    decide
  · rw [hv]
    decide

/-- A request that leads to an endpoint with a path of its own has that path. -/
theorem absolutePath_of_route {r : Request} {e : Endpoint} {segment : List Char}
    (h : r.route = .found e) (hf : ∀ name, e ≠ .file name)
    (hi : ∀ version format, e ≠ .item version format)
    (hs : ∀ s, (s, e) ∈ Route.fixed → s = segment) : r.absolutePath = '/' :: segment := by
  obtain ⟨hc, -⟩ := Route.mem_candidates_of_found h
  rcases Route.cases_of_mem_candidates hc with hp | ⟨name, he⟩ | ⟨version, format, he⟩
  · have hseg : r.path.toList.dropWhile (· == '/') = segment := hs _ hp
    rw [absolutePath, hseg]
  · exact absurd he (hf name)
  · exact absurd he (hi version format)

theorem isUpsert_of_route {r : Request} (h : r.route = .found .upsert)
    (ho : r.verb ≠ "OPTIONS") : r.IsUpsert := by
  obtain ⟨-, ha⟩ := Route.mem_candidates_of_found h
  have hp : "/upsert".toList = '/' :: ['u', 'p', 's', 'e', 'r', 't'] := by decide
  refine ⟨?_, ?_⟩
  · simpa [Endpoint.allows, Endpoint.allowed, ho] using ha
  · rw [hp]
    exact absolutePath_of_route h (by simp) (by simp) (by simp [Route.fixed])

theorem isRemoval_of_route {r : Request} (h : r.route = .found .remove)
    (ho : r.verb ≠ "OPTIONS") : r.IsRemoval := by
  obtain ⟨-, ha⟩ := Route.mem_candidates_of_found h
  have hp : "/remove".toList = '/' :: ['r', 'e', 'm', 'o', 'v', 'e'] := by decide
  refine ⟨?_, ?_⟩
  · simpa [Endpoint.allows, Endpoint.allowed, ho] using ha
  · rw [hp]
    exact absolutePath_of_route h (by simp) (by simp) (by simp [Route.fixed])

theorem isCardRead_of_route {r : Request} (h : r.route = .found .modelCard)
    (ho : r.verb ≠ "OPTIONS") : r.IsCardRead := by
  obtain ⟨-, ha⟩ := Route.mem_candidates_of_found h
  have hp : "/modelcard".toList = '/' :: ['m', 'o', 'd', 'e', 'l', 'c', 'a', 'r', 'd'] := by
    decide
  refine ⟨?_, ?_⟩
  · simpa [Endpoint.allows, Endpoint.allowed, ho] using ha
  · rw [hp]
    exact absolutePath_of_route h (by simp) (by simp) (by simp [Route.fixed])

end Request

/-! ## Paths of documents -/

/-- A text that can be a segment of a path: it is not empty, and no slash divides it. -/
def IsSegment (text : Text) : Prop := text ≠ [] ∧ CodePoint.char '/' ∉ text

/-- The path of a document that is taken for the path of a file. -/
def IsFilePath (version : ModelVersion) (format : String) : Prop :=
  version.model = ("static" : Text) ∧ CodePoint.char '\n' ∉ version.version.drop 1 ∧
    '\n' ∉ format.toList

instance (text : Text) : Decidable (IsSegment text) := inferInstanceAs (Decidable (_ ∧ _))

instance (version : ModelVersion) (format : String) : Decidable (IsFilePath version format) :=
  inferInstanceAs (Decidable (_ ∧ _))

theorem isSegment_ofChars {cs : List Char} : IsSegment (.ofChars cs) ↔ cs ≠ [] ∧ '/' ∉ cs := by
  simp [IsSegment]

theorem isSegment_ofString {s : String} : IsSegment s ↔ s ≠ "" ∧ '/' ∉ s.toList := by
  rw [Text.ofString, isSegment_ofChars, ne_eq, String.toList_eq_nil_iff]

theorem IsSegment.exists_cons {cs : List Char} (h : IsSegment (.ofChars cs)) :
    ∃ c rest, cs = c :: rest ∧ c ≠ '/' := by
  obtain ⟨hne, hslash⟩ := isSegment_ofChars.1 h
  cases cs with
  | nil => exact absurd rfl hne
  | cons c rest =>
    refine ⟨c, rest, rfl, ?_⟩
    rintro rfl
    exact hslash List.mem_cons_self

/-- A path holds characters only, so a URI that is a path has names of characters. -/
theorem exists_chars_of_uri {path : String} {version : ModelVersion} {format : String}
    (h : (path : Text) = version.uri format) :
    ∃ model middle, version = ⟨.ofChars model, .ofChars middle⟩ ∧
      path.toList = '/' :: (model ++ '/' :: (middle ++ '/' :: format.toList)) := by
  have hpath : (version.uri format).IsString := ⟨path, h.symm⟩
  simp only [ModelVersion.uri, Text.isString_append] at hpath
  obtain ⟨⟨⟨⟨⟨-, hmodel⟩, -⟩, hmiddle⟩, -⟩, -⟩ := hpath
  obtain ⟨model, hm⟩ := Text.isString_iff_exists_chars.1 hmodel
  obtain ⟨middle, hv⟩ := Text.isString_iff_exists_chars.1 hmiddle
  obtain rfl : version = ⟨.ofChars model, .ofChars middle⟩ := ModelVersion.ext hm hv
  refine ⟨model, middle, rfl, Text.ofChars_inj.1 (h.trans ?_)⟩
  simp [ModelVersion.uri, Text.ofString]

namespace Route

section Segments

variable {model middle : List Char} {format : String}

theorem isFileName_append (h : IsSegment (.ofChars middle)) :
    isFileName (middle ++ '/' :: format.toList) = true ↔
      '\n' ∉ middle.drop 1 ∧ '\n' ∉ format.toList := by
  obtain ⟨c, rest, rfl, hc⟩ := h.exists_cons
  simp [isFileName, hc]

theorem isFilePath_ofChars :
    IsFilePath ⟨.ofChars model, .ofChars middle⟩ format ↔
      model = fileFolder ∧ '\n' ∉ middle.drop 1 ∧ '\n' ∉ format.toList := by
  have hfolder : ("static" : Text) = .ofChars fileFolder := rfl
  rw [IsFilePath, hfolder, Text.ofChars_inj, Text.drop_ofChars, Text.mem_ofChars]

theorem file?_eq (h : IsSegment (.ofChars middle)) :
    file? [model, middle, format.toList] =
      if IsFilePath ⟨.ofChars model, .ofChars middle⟩ format then
        some (.file (String.ofList (middle ++ '/' :: format.toList)))
      else none := by
  have hf : (model = fileFolder ∧ isFileName (middle ++ '/' :: format.toList) = true) ↔
      IsFilePath ⟨.ofChars model, .ofChars middle⟩ format := by
    rw [isFileName_append h, isFilePath_ofChars]
  simp only [file?, Text.joinFields, Bool.and_eq_true, decide_eq_true_eq, hf]

theorem item?_eq (hm : IsSegment (.ofChars model)) (hv : IsSegment (.ofChars middle))
    (hf : IsSegment format) :
    item? [model, middle, format.toList] =
      some (.item ⟨.ofChars model, .ofChars middle⟩ format) := by
  have hm' := (isSegment_ofChars.1 hm).1
  have hv' := (isSegment_ofChars.1 hv).1
  have hf' := (isSegment_ofString.1 hf).1
  simp [item?, hm', hv', hf']

/-- A path of three segments leads to a document, and before that perhaps to a file. -/
theorem candidates_segments (hm : IsSegment (.ofChars model)) (hv : IsSegment (.ofChars middle))
    (hf : IsSegment format) :
    candidates ('/' :: (model ++ '/' :: (middle ++ '/' :: format.toList))) =
      (if IsFilePath ⟨.ofChars model, .ofChars middle⟩ format then
        [.file (String.ofList (middle ++ '/' :: format.toList))]
      else []) ++ [.item ⟨.ofChars model, .ofChars middle⟩ format] := by
  have hs : Text.fields '/' (model ++ '/' :: (middle ++ '/' :: format.toList)) =
      [model, middle, format.toList] := by
    rw [Text.fields_append_mark (isSegment_ofChars.1 hm).2,
      Text.fields_append_mark (isSegment_ofChars.1 hv).2,
      Text.fields_of_not_mem (isSegment_ofString.1 hf).2]
  rw [candidates, List.drop_one, List.tail_cons, hs, file?_eq hv, item?_eq hm hv hf]
  split <;> rfl

end Segments

end Route

/-- A request for the path of a document is one for that path as it stands. -/
theorem Request.absolutePath_eq {r : Request} {segment rest : List Char}
    (h : IsSegment (.ofChars segment)) (hp : r.path.toList = '/' :: (segment ++ rest)) :
    r.absolutePath = '/' :: (segment ++ rest) := by
  obtain ⟨c, more, rfl, hne⟩ := h.exists_cons
  simp [absolutePath, hp, hne]

/-- **A document is found under its path, unless a file is looked for there.** -/
theorem Request.route_of_uri {r : Request} {version : ModelVersion} {format : String}
    (hm : IsSegment version.model) (hv : IsSegment version.version) (hf : IsSegment format)
    (hget : r.verb = "GET") (hp : (r.path : Text) = version.uri format) :
    (IsFilePath version format → ∃ name, r.route = .found (.file name)) ∧
      (¬ IsFilePath version format → r.route = .found (.item version format)) := by
  obtain ⟨model, middle, rfl, hpath⟩ := exists_chars_of_uri hp
  have hc := Route.candidates_segments hm hv hf
  rw [route, absolutePath_eq hm hpath, hget]
  refine ⟨?_, ?_⟩
  · intro hfile
    rw [if_pos hfile] at hc
    exact ⟨_, Route.found_of_candidates hc rfl⟩
  · intro hfile
    rw [if_neg hfile] at hc
    exact Route.found_of_candidates hc rfl

/-- The names in the path of a document are segments of it. -/
theorem Route.isSegment_of_item? {path : List Char} {version : ModelVersion} {format : String}
    (h : item? (Text.fields '/' path) = some (.item version format)) :
    IsSegment version.model ∧ IsSegment version.version ∧ IsSegment format := by
  unfold item? at h
  split at h
  · rename_i model middle last hfields
    have hslash : ∀ field ∈ [model, middle, last], '/' ∉ field := by
      intro field hfield
      rw [← hfields] at hfield
      exact Text.not_mem_of_mem_fields hfield
    split at h
    · exact absurd h (by simp)
    · rename_i hne
      obtain ⟨rfl, rfl⟩ := Endpoint.item.inj (Option.some.inj h)
      simp only [Bool.or_eq_true, not_or, List.isEmpty_iff] at hne
      obtain ⟨⟨hmodel, hmiddle⟩, hlast⟩ := hne
      rw [Text.ofString_ofList, isSegment_ofChars, isSegment_ofChars, isSegment_ofChars]
      exact ⟨⟨hmodel, hslash model (by simp)⟩, ⟨hmiddle, hslash middle (by simp)⟩,
        hlast, hslash last (by simp)⟩
  · exact absurd h (by simp)

theorem Route.isString_of_item? {segments : List (List Char)} {version : ModelVersion}
    {format : String} (h : item? segments = some (.item version format)) :
    version.model.IsString ∧ version.version.IsString := by
  unfold item? at h
  split at h
  · split at h
    · exact absurd h (by simp)
    · obtain ⟨rfl, -⟩ := Endpoint.item.inj (Option.some.inj h)
      exact ⟨Text.isString_ofChars _, Text.isString_ofChars _⟩
  · exact absurd h (by simp)

namespace Request

variable {r : Request} {version : ModelVersion} {format : String}

/-- A document is found by the segments of its path. -/
theorem item?_of_route (h : r.route = .found (.item version format)) :
    Route.item? (Text.fields '/' (r.absolutePath.drop 1)) = some (.item version format) := by
  obtain ⟨hc, -⟩ := Route.mem_candidates_of_found h
  unfold Route.candidates at hc
  dsimp only at hc
  rcases List.mem_append.1 hc with hc | hc
  · rcases List.mem_append.1 hc with hc | hc
    · obtain ⟨segment, -, hfixed⟩ := Route.mem_fixed_of_fixed?_eq_some (Option.mem_toList.1 hc)
      exact absurd hfixed (by simp [Route.fixed])
    · obtain ⟨name, hname⟩ := Route.eq_file_of_file?_eq_some (Option.mem_toList.1 hc)
      exact absurd hname (by simp)
  · exact Option.mem_toList.1 hc

theorem isSegment_of_route (h : r.route = .found (.item version format)) :
    IsSegment version.model ∧ IsSegment version.version ∧ IsSegment format :=
  Route.isSegment_of_item? (item?_of_route h)

theorem isString_of_route (h : r.route = .found (.item version format)) :
    version.model.IsString ∧ version.version.IsString :=
  Route.isString_of_item? (item?_of_route h)

end Request

end CatalogCache.Http
