import CatalogCache.Proofs.Slots

/-!
# An upsert that is delivered twice

A sender that got no answer sends its upsert again. By then the first delivery may have been
carried out, the card may have been read any number of times, and other documents and cards may
have come and gone. The second delivery is harmless as long as nobody else wrote to the document
or sent that card: it changes nothing at all (`apply_again`). It does not open a card for reading
that was used up, and it does not move a slot.

What decides it is whether the upsert has settled in the cache: its document is under the URI,
and its card has its token (`Settled`). Nothing else about the card matters, neither its text nor
its reads. An upsert changes nothing exactly if it has settled (`apply_eq_self_iff`). It has
settled once it was applied, also where the card had the token before (`settled_apply`), and it
stays settled under each operation that spares the two (`settled_run`).
-/

namespace CatalogCache

namespace Catalog

/-- Writes elsewhere leave the document of a URI as it is. -/
theorem get?_foldl_run_of_forall_ne {writes : List Write} {uri : Text}
    (h : ∀ w ∈ writes, w.uri ≠ uri) (catalog : Catalog) :
    get? (writes.foldl Write.run catalog) uri = get? catalog uri := by
  induction writes generalizing catalog with
  | nil => rfl
  | cons w rest ih =>
    rw [List.forall_mem_cons] at h
    have hw : get? (w.run catalog) uri = get? catalog uri := by
      cases w with
      | upsert uri' content =>
        have hne : uri' ≠ uri := h.1
        rw [Write.run, get?_upsert, if_neg hne]
      | delete uri' =>
        have hne : uri' ≠ uri := h.1
        rw [Write.run, get?_delete, if_neg hne]
    rw [List.foldl_cons, ih h.2, hw]

end Catalog

namespace Cards

/-- The token of a card. -/
def token? (cards : Cards) (key : Text) : Option Text := (cards.find? key).map Card.token

/-- A card has the token of an upsert after it, whether or not it had it before. -/
theorem token?_upsert_self (cards : Cards) (key content token : Text) :
    token? (upsert cards key content token) key = some token := by
  rw [token?, find?_upsert, if_pos rfl, Option.map_some]
  cases cards.find? key with
  | none => rfl
  | some card =>
    dsimp only
    rw [Card.revise]
    split
    · rename_i h
      rw [h]
    · rfl

theorem token?_upsert_of_ne {key key' : Text} (h : key ≠ key') (cards : Cards)
    (content token : Text) :
    token? (upsert cards key content token) key' = token? cards key' := by
  rw [token?, token?, find?_upsert, if_neg h]

theorem token_afterRead (card : Card) : card.afterRead.token = card.token := by
  rw [Card.afterRead]
  split
  · rfl
  · rfl

/-- No read of a card changes a token. -/
theorem token?_afterRead (cards : Cards) (key key' : Text) :
    token? (afterRead cards key) key' = token? cards key' := by
  rw [token?, token?, find?_afterRead]
  split
  · cases cards.find? key' with
    | none => rfl
    | some card => exact congrArg some (token_afterRead card)
  · rfl

end Cards

namespace State

/-- An upsert has settled in the cache: its document is there, and its card has its token. -/
structure Settled (uri : Text) (sent : Upsert) (state : State) : Prop where
  document : Catalog.get? state.catalog uri = some sent.body
  token : Cards.token? state.cards sent.cardKey = some sent.token

/-- **An upsert changes nothing exactly if it has settled.** -/
theorem apply_eq_self_iff {state : State} {uri : Text} {sent : Upsert} :
    state.apply uri sent = state ↔ Settled uri sent state := by
  constructor
  · intro h
    have hcatalog : Catalog.upsert state.catalog uri sent.body = state.catalog :=
      congrArg State.catalog h
    have hcards : Cards.upsert state.cards sent.cardKey sent.card sent.token = state.cards :=
      congrArg State.cards h
    refine ⟨?_, ?_⟩
    · rw [← hcatalog, Catalog.get?_upsert, if_pos rfl]
    · rw [← hcards, Cards.token?_upsert_self]
  · intro h
    obtain ⟨hdocument, htoken⟩ := h
    refine State.ext ?_ ?_
    · exact Table.insert_eq_self (Option.join_eq_some_iff.1 hdocument)
    · exact Cards.upsert_eq_self_iff.2 (Option.map_eq_some_iff.1 htoken)

theorem settled_apply (state : State) (uri : Text) (sent : Upsert) :
    Settled uri sent (state.apply uri sent) where
  document := by rw [State.apply, Catalog.get?_upsert, if_pos rfl]
  token := Cards.token?_upsert_self _ _ _ _

namespace Operation

/-- The key of the card that an operation brings, if it brings one. -/
def broughtCard? : Operation → Option Text
  | .apply _ sent => some sent.cardKey
  | .upsertCard key _ _ => some key
  | .upsert _ _ | .delete _ | .hydrate _ _ | .readCard _ | .look => none

/-- An operation does not write to a URI, be it by a hydration, and does not bring a card. It may
read the card. -/
structure Spares (uri key : Text) (op : Operation) : Prop where
  document : ∀ w ∈ op.writes, w.uri ≠ uri
  card : op.broughtCard? ≠ some key

/-- The token of a card changes only when the card is brought. -/
theorem token?_run {op : Operation} {key : Text} (h : op.broughtCard? ≠ some key)
    (state : State) : Cards.token? (op.run state).cards key = Cards.token? state.cards key := by
  cases op with
  | upsert uri content => rfl
  | delete uri => rfl
  | apply uri sent =>
    have hne : sent.cardKey ≠ key := fun he => h (congrArg some he)
    exact Cards.token?_upsert_of_ne hne _ _ _
  | hydrate source format => rw [run, Hydration.state_hydrate, Hydration.storeAll_cards]
  | upsertCard key' content token =>
    have hne : key' ≠ key := fun he => h (congrArg some he)
    exact Cards.token?_upsert_of_ne hne _ _ _
  | readCard key' => exact Cards.token?_afterRead _ _ _
  | look => rfl

end Operation

variable {uri : Text} {sent : Upsert}

/-- An upsert stays settled when its document and card are spared, or when it comes again. -/
theorem settled_run {state : State} {op : Operation} (h : Settled uri sent state)
    (hop : op = .apply uri sent ∨ op.Spares uri sent.cardKey) :
    Settled uri sent (op.run state) := by
  rcases hop with rfl | hspares
  · exact settled_apply state uri sent
  · refine ⟨?_, ?_⟩
    · rw [Operation.catalog_run, Catalog.get?_foldl_run_of_forall_ne hspares.document, h.document]
    · rw [Operation.token?_run hspares.card, h.token]

theorem settled_foldl_run {state : State} {ops : List Operation} (h : Settled uri sent state)
    (hops : ∀ op ∈ ops, op = .apply uri sent ∨ op.Spares uri sent.cardKey) :
    Settled uri sent (ops.foldl Operation.run state) := by
  induction ops generalizing state with
  | nil => exact h
  | cons op rest ih =>
    rw [List.forall_mem_cons] at hops
    exact ih (settled_run h hops.1) hops.2

/--
**An upsert that is delivered again changes nothing.**

The cache may have been in any state at its first delivery, and the card may have had the token
already. Then any operations may follow that do not write to the document's URI, by hydration or
otherwise, and do not bring the card from elsewhere; the card may be read, and the same upsert may
be delivered in between. After them one more delivery leaves the catalog and the cards exactly as
they are.
-/
theorem apply_again (state : State) (uri : Text) (sent : Upsert) {ops : List Operation}
    (hops : ∀ op ∈ ops, op = .apply uri sent ∨ op.Spares uri sent.cardKey) :
    let after := ops.foldl Operation.run (state.apply uri sent)
    after.apply uri sent = after := by
  intro after
  have hsettled : Settled uri sent after := settled_foldl_run (settled_apply state uri sent) hops
  exact apply_eq_self_iff.2 hsettled

/-- The card had the token before, with another text. Between the deliveries it is read, the
document of another URI comes and goes, and storage fills in a third. -/
theorem apply_again_mnist :
    let state := State.empty.apply "/mnist/v0/json" ⟨[0], "mnist", "old", "1"⟩
    let sent : Upsert := ⟨[1], "mnist", "new", "1"⟩
    let storage : Source := .ofAnswers (.ok ["bert_v1"]) fun _ _ => .ok [2]
    let ops : List Operation := [.readCard "mnist", .apply "/bert/v2/json" ⟨[3], "bert", "", ""⟩,
      .delete "/bert/v2/json", .apply "/mnist/v1/json" sent, .hydrate storage "json"]
    (∀ op ∈ ops, op = .apply "/mnist/v1/json" sent ∨ op.Spares "/mnist/v1/json" sent.cardKey) ∧
    (ops.foldl Operation.run (state.apply "/mnist/v1/json" sent)).apply "/mnist/v1/json" sent =
      ops.foldl Operation.run (state.apply "/mnist/v1/json" sent) := by
  intro state sent storage ops
  have hstored : (Operation.hydrate storage "json").writes = [.upsert "/bert/v1/json" [2]] := rfl
  have hops : ∀ op ∈ ops, op = .apply "/mnist/v1/json" sent ∨
      op.Spares "/mnist/v1/json" sent.cardKey := by
    simp only [ops, List.forall_mem_cons]
    refine ⟨Or.inr ⟨?_, ?_⟩, Or.inr ⟨?_, ?_⟩, Or.inr ⟨?_, ?_⟩, Or.inl trivial, Or.inr ⟨?_, ?_⟩, ?_⟩
    · simp [Operation.writes]
    · simp [Operation.broughtCard?]
    · simp [Operation.writes, Catalog.Write.uri]
    · simp [Operation.broughtCard?, sent]
    · simp [Operation.writes, Catalog.Write.uri]
    · simp [Operation.broughtCard?]
    · simp [hstored, Catalog.Write.uri]
    · simp [Operation.broughtCard?]
    · simp
  exact ⟨hops, apply_again state "/mnist/v1/json" sent hops⟩

end State

end CatalogCache
