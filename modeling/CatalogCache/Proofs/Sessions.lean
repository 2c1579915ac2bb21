import CatalogCache.Http.App

/-!
# Sessions

A session is what happens between the service and its clients: requests come one after the
other, each is answered, and the next one meets the cache as the last one left it. A fresh
service starts a session with an empty cache.
-/

namespace CatalogCache.Http

/-- A request as it comes in, with the identifier that its answer is to carry. -/
structure Arrival where
  id : String
  request : Request

/-- A request with its answer. -/
structure Answered where
  request : Request
  response : Response

namespace App

/-- The service with nothing in its cache. -/
def fresh (format : String) : App := .ofState format [] .empty

theorem create_eq_fresh (format : String) : create format [] (some .empty) = .ok (fresh format) :=
  rfl

/-- The service after a request. -/
def after (app : App) (a : Arrival) : App := { app with state := (app.serve a.id a.request).state }

/-- The service after some requests, one after the other. -/
def afterAll (app : App) (arrivals : List Arrival) : App := arrivals.foldl after app

/-- A request with the answer that it gets. -/
def answered (app : App) (a : Arrival) : Answered :=
  ⟨a.request, (app.serve a.id a.request).response⟩

/-- Some requests, one after the other, with the answers that they get. -/
def session (app : App) : List Arrival → List Answered
  | [] => []
  | a :: rest => app.answered a :: session (app.after a) rest

@[simp] theorem afterAll_nil (app : App) : app.afterAll [] = app := rfl

@[simp] theorem afterAll_cons (app : App) (a : Arrival) (rest : List Arrival) :
    app.afterAll (a :: rest) = (app.after a).afterAll rest := rfl

@[simp] theorem after_format (app : App) (a : Arrival) : (app.after a).format = app.format := rfl

theorem after_state (app : App) (a : Arrival) :
    (app.after a).state = (app.serve a.id a.request).state := by
  rw [after]

theorem answered_response (app : App) (a : Arrival) :
    (app.answered a).response = (app.serve a.id a.request).response := by
  rw [answered]

/-- Each answer of a session is that to one of its requests. -/
theorem exists_arrival_of_mem_session {x : Answered} {app : App} {arrivals : List Arrival}
    (h : x ∈ app.session arrivals) : ∃ app' : App, ∃ a ∈ arrivals, x = app'.answered a := by
  induction arrivals generalizing app with
  | nil => exact absurd h List.not_mem_nil
  | cons a rest ih =>
    rw [session] at h
    rcases List.mem_cons.1 h with rfl | h
    · exact ⟨app, a, List.mem_cons_self, rfl⟩
    · obtain ⟨app', a', ha', hx⟩ := ih h
      exact ⟨app', a', List.mem_cons_of_mem a ha', hx⟩

end App

end CatalogCache.Http
