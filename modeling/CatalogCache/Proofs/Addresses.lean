import CatalogCache.Config.Settings
import CatalogCache.Proofs.Documents
import CatalogCache.Proofs.Hydration

/-!
# Which documents share a URI

A URI joins three texts by slashes, and the names of a model version may hold slashes of their
own. So the slash between model and version can be mistaken for another one: version `c` of
model `a/b` and version `b/c` of model `a` have one URI. There is no other way to share one. Two
model versions have a common URI exactly if a part, with a slash on each of its sides, changes
over from the version of one to the model of the other (`Overlap`, `uri_eq_iff`).

Where nothing overlaps, what is done under one key leaves the document of the other alone,
whether it is done by requests or by a hydration.
-/

namespace CatalogCache

namespace ModelVersion

/-- The first is divided at an earlier slash than the second, and else they are alike. -/
def DividesBefore (v w : ModelVersion) : Prop :=
  ∃ part, w.model = v.model ++ "/" ++ part ∧ v.version = part ++ "/" ++ w.version

/-- Two different model versions with one URI. -/
def Overlap (v w : ModelVersion) : Prop := v.DividesBefore w ∨ w.DividesBefore v

/-- The path of a model version, without the slash in front. -/
def path (v : ModelVersion) : Text := v.model ++ .char '/' :: v.version

theorem uri_eq_append (v : ModelVersion) (format : String) :
    v.uri format = .char '/' :: (v.path ++ .char '/' :: (format : Text)) := by
  simp [uri, path, Text.ofString]

theorem dividesBefore_iff {v w : ModelVersion} :
    v.DividesBefore w ↔ ∃ part, w.model = v.model ++ .char '/' :: part ∧
      v.version = part ++ .char '/' :: w.version := by
  have hslash : (("/" : String) : Text) = [.char '/'] := rfl
  simp only [DividesBefore, hslash, List.append_assoc, List.singleton_append]

theorem path_eq_iff {v w : ModelVersion} : v.path = w.path ↔ v = w ∨ v.Overlap w := by
  rw [path, path, Text.append_mark_eq_iff, Overlap, dividesBefore_iff, dividesBefore_iff,
    ModelVersion.ext_iff]

/-- **Two model versions have one URI exactly if they are the same or overlap.** -/
theorem uri_eq_iff {v w : ModelVersion} {format : String} :
    v.uri format = w.uri format ↔ v = w ∨ v.Overlap w := by
  rw [uri_eq_append, uri_eq_append, List.cons_inj_right, List.append_left_inj, path_eq_iff]

/-- A format without slashes is read off the URI. -/
theorem uri_eq_uri_iff {v w : ModelVersion} {format format' : String}
    (h : CodePoint.char '/' ∉ (format : Text)) (h' : CodePoint.char '/' ∉ (format' : Text)) :
    v.uri format = w.uri format' ↔ (v = w ∨ v.Overlap w) ∧ format = format' := by
  rw [uri_eq_append, uri_eq_append, List.cons_inj_right, Text.append_mark_inj h h', path_eq_iff,
    Text.ofString_inj]

/-- It takes a slash in a model and one in the version of the other. -/
theorem DividesBefore.slash {v w : ModelVersion} (h : v.DividesBefore w) :
    CodePoint.char '/' ∈ w.model ∧ CodePoint.char '/' ∈ v.version := by
  obtain ⟨part, hm, hv⟩ := dividesBefore_iff.1 h
  rw [hm, hv]
  exact ⟨List.mem_append_right _ List.mem_cons_self, List.mem_append_right _ List.mem_cons_self⟩

/-- A model version without slashes overlaps with no other one. -/
theorem not_overlap_of_not_mem {v : ModelVersion} (hm : CodePoint.char '/' ∉ v.model)
    (hv : CodePoint.char '/' ∉ v.version) (w : ModelVersion) : ¬ v.Overlap w := by
  intro hover
  rcases hover with h | h
  · exact hv h.slash.2
  · exact hm h.slash.1

end ModelVersion

namespace Http.App

theorem get?_after_of_uriOf_ne {app : App} {a : Arrival} {uri : Text}
    (h : a.request.IsUpsert ∨ a.request.IsRemoval → app.uriOf a.request ≠ .ok uri) :
    Catalog.get? (app.after a).state.catalog uri = Catalog.get? app.state.catalog uri := by
  have hnot : ¬ (app.answered a).Writes app.format uri := by
    intro hw
    refine h ?_ hw.2
    rcases hw.1 with hu | hr
    · exact Or.inl hu.1
    · exact Or.inr hr.1
  refine Option.ext ?_
  intro content
  rw [get?_after, stores_or_iff hnot]

/-- A session leaves the documents of the URIs that it does not write to as they are. -/
theorem get?_afterAll_of_uriOf_ne {app : App} {arrivals : List Arrival} {uri : Text}
    (h : ∀ a ∈ arrivals, a.request.IsUpsert ∨ a.request.IsRemoval →
      app.uriOf a.request ≠ .ok uri) :
    Catalog.get? (app.afterAll arrivals).state.catalog uri =
      Catalog.get? app.state.catalog uri := by
  induction arrivals generalizing app with
  | nil => rfl
  | cons a rest ih =>
    rw [List.forall_mem_cons] at h
    have hrest : ∀ b ∈ rest, b.request.IsUpsert ∨ b.request.IsRemoval →
        (app.after a).uriOf b.request ≠ .ok uri := h.2
    rw [afterAll_cons, ih hrest, get?_after_of_uriOf_ne h.1]

/-- What is done under a key, or for its model version, does nothing to the document of a URI. -/
structure LeavesAlone (key : Text) (v : ModelVersion) (format : String) (uri : Text) :
    Prop where
  /-- Documents are sent and taken away under the key only. -/
  session : ∀ (app : App) (arrivals : List Arrival), app.format = format →
    (∀ a ∈ arrivals, a.request.IsUpsert ∨ a.request.IsRemoval →
      Query.text? a.request.query "key" = some key) →
    Catalog.get? (app.afterAll arrivals).state.catalog uri = Catalog.get? app.state.catalog uri
  /-- The listed keys that are accepted stand for the model version only. -/
  hydration : ∀ (source : Source) (state : State),
    (∀ keys, source.keys = .ok keys →
      ∀ k ∈ keys, ∀ u, ModelVersion.ofKey (some k) = .ok u → u = v) →
    Catalog.get? (hydrate source format state).progress.state.catalog uri =
      Catalog.get? state.catalog uri

theorem leavesAlone_of_uri_ne {key : Text} {v : ModelVersion}
    (hv : ModelVersion.ofKey (some key) = .ok v) {format : String} {uri : Text}
    (hne : v.uri format ≠ uri) : LeavesAlone key v format uri := by
  refine ⟨?_, ?_⟩
  · intro app arrivals hformat hkeys
    refine get?_afterAll_of_uriOf_ne ?_
    intro a ha hwrites huri
    rw [uriOf, hkeys a ha hwrites, hformat] at huri
    obtain ⟨u, hu, heq⟩ := uriOfKey_eq_ok_iff.1 huri
    obtain rfl := Except.ok.inj (hv.symm.trans hu)
    exact hne heq
  · -- the document is written only if its URI is that of a listed key
    intro source state hkeys
    refine Hydration.get?_hydrate_of_forall_ne ?_ state
    intro keys hlisted k hk huri
    obtain ⟨u, hu, heq⟩ := uriOfKey_eq_ok_iff.1 huri
    obtain rfl := hkeys keys hlisted k hk u hu
    exact hne heq

/--
**Two model versions share a URI exactly if they overlap, and otherwise leave each other alone.**

Let two keys stand for different model versions. If these do not overlap, then no session that
writes under the one key only changes the document of the other, and no hydration that loads
documents of the one only does. They can overlap only if one has a slash in its model and the
other in its version.
-/
theorem shared_uri_iff_overlap {key key' : Text} {v w : ModelVersion}
    (hv : ModelVersion.ofKey (some key) = .ok v) (hw : ModelVersion.ofKey (some key') = .ok w)
    (hne : v ≠ w) (format : String) :
    (uriOfKey (some key) format = uriOfKey (some key') format ↔ v.Overlap w) ∧
    (v.Overlap w → CodePoint.char '/' ∈ w.model ∧ CodePoint.char '/' ∈ v.version ∨
      CodePoint.char '/' ∈ v.model ∧ CodePoint.char '/' ∈ w.version) ∧
    (¬ v.Overlap w → LeavesAlone key v format (w.uri format)) := by
  refine ⟨?_, ?_, ?_⟩
  · rw [uriOfKey, uriOfKey, hv, hw]
    show Except.ok (v.uri format) = Except.ok (w.uri format) ↔ v.Overlap w
    rw [Except.ok.injEq, ModelVersion.uri_eq_iff, or_iff_right hne]
  · intro hover
    rcases hover with h | h
    · exact Or.inl h.slash
    · exact Or.inr h.slash
  · intro hover
    refine leavesAlone_of_uri_ne hv ?_
    intro heq
    rcases ModelVersion.uri_eq_iff.1 heq with h | h
    · exact hne h
    · exact hover h

/-- The versions of `mnist` leave each other alone. -/
theorem shared_uri_iff_overlap_mnist :
    let v : ModelVersion := ⟨"mnist", "v1"⟩
    let w : ModelVersion := ⟨"mnist", "v2"⟩
    (ModelVersion.ofKey (some ("mnist_v1" : Text)) = .ok v ∧
      ModelVersion.ofKey (some ("mnist_v2" : Text)) = .ok w ∧ v ≠ w) ∧
    uriOfKey (some ("mnist_v1" : Text)) "json" ≠ uriOfKey (some ("mnist_v2" : Text)) "json" ∧
    Catalog.get? ((fresh "json").afterAll [postOf "mnist_v1"]).state.catalog (w.uri "json") =
      none := by
  intro v w
  have hv : ModelVersion.ofKey (some ("mnist_v1" : Text)) = .ok v := rfl
  have hw : ModelVersion.ofKey (some ("mnist_v2" : Text)) = .ok w := rfl
  have hne : v ≠ w := by decide
  have hover : ¬ v.Overlap w := ModelVersion.not_overlap_of_not_mem (by decide) (by decide) w
  obtain ⟨huri, -, happart⟩ := shared_uri_iff_overlap hv hw hne "json"
  have hkeys : ∀ a ∈ [postOf "mnist_v1"], a.request.IsUpsert ∨ a.request.IsRemoval →
      Query.text? a.request.query "key" = some ("mnist_v1" : Text) := by
    intro a ha _
    rw [List.mem_singleton.1 ha]
    exact Query.text?_encodeParameter "key" "mnist_v1"
  refine ⟨⟨hv, hw, hne⟩, fun h => hover (huri.1 h), ?_⟩
  exact ((happart hover).session (fresh "json") [postOf "mnist_v1"] rfl hkeys).trans rfl

/-- A `DELETE` of the document under a key. -/
def removeOf (key : String) : Arrival where
  id := ""
  request := ⟨"DELETE", "/remove", String.ofList (Query.encodeParameter "key" key), [], "", ""⟩

theorem state_after_removeOf {app : App} {key : String} {uri : Text}
    (h : uriOfKey (some (key : Text)) app.format = .ok uri) :
    (app.after (removeOf key)).state = app.state.remove uri := by
  have hremoves : (removeOf key).request.IsRemoval := Request.isRemoval_mk _ _ _ _
  have hkey : Query.text? (removeOf key).request.query "key" = some (key : Text) :=
    Query.text?_encodeParameter "key" key
  rw [after_state, (serve_of_isRemoval app _ hremoves).1, App.remove, uriOf, hkey, h]

/-- The document of version `c` of model `a/b` is taken away as version `b/c` of model `a`. -/
theorem shared_uri_with_slash :
    let v : ModelVersion := ⟨"a/b", "c"⟩
    let w : ModelVersion := ⟨"a", "b/c"⟩
    Draft.checkFormat (.value "json") = .ok "json" ∧
    (ModelVersion.ofKey (some ("a/b_c" : Text)) = .ok v ∧
      ModelVersion.ofKey (some ("a_b/c" : Text)) = .ok w ∧ v ≠ w) ∧
    uriOfKey (some ("a/b_c" : Text)) "json" = uriOfKey (some ("a_b/c" : Text)) "json" ∧
    Catalog.get? ((fresh "json").after (postOf "a/b_c")).state.catalog (v.uri "json") = some [97] ∧
    Catalog.get? (((fresh "json").after (postOf "a/b_c")).after (removeOf "a_b/c")).state.catalog
      (v.uri "json") = none := by
  intro v w
  have hv : uriOfKey (some ("a/b_c" : Text)) "json" = .ok "/a/b/c/json" := rfl
  have hw : uriOfKey (some ("a_b/c" : Text)) "json" = .ok "/a/b/c/json" := rfl
  have hremoved : (((fresh "json").after (postOf "a/b_c")).after (removeOf "a_b/c")).state =
      ((fresh "json").after (postOf "a/b_c")).state.remove "/a/b/c/json" :=
    state_after_removeOf hw
  refine ⟨rfl, ⟨rfl, rfl, by decide⟩, hv.trans hw.symm, get?_after_postOf hv, ?_⟩
  rw [hremoved, State.remove, Catalog.get?_delete]
  exact if_pos rfl

end Http.App

end CatalogCache
