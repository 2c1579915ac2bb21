import CatalogCache.Proofs.JsonGrammar
import CatalogCache.Storage.Client

/-!
# Asking for the list of keys

A call for the list of keys sends one request and ends in one of five ways, and the reply alone
decides which (`list_call`). The service was not reached; it answered with another status
than 200; its text is no JSON; its text is JSON without a list of keys; or it holds a list, and
then the keys are its items in order.

What a text holds is said by the grammar of JSON texts and not by the reader. The one place
where the two look different is a member that is written more than once: the text has them all,
the object that is read has the last (`isSpellingOf_object_iff`, `Keyed.find?_ofPairs`).
-/

namespace CatalogCache.Storage

open Json

/-! ## The keys in a text -/

/-- A text that holds a list of keys: an array, or an object whose last member `keys` is one. -/
def HoldsItems (items : List Json) (text : Text) : Prop :=
  IsSpellingOf (.array items) text ∨
    ∃ members, IsObjectOf members text ∧
      Keyed.find? ("keys" : Text) members.reverse = some (.array items)

/-- A text that is no JSON. -/
def NoJson (text : Text) : Prop := ∀ v, ¬ IsSpellingOf v text

theorem keyItems?_eq_some_iff {v : Json} {items : List Json} :
    keyItems? v = some items ↔
      v = .array items ∨
        ∃ table, v = .object table ∧ Keyed.find? ("keys" : Text) table = some (.array items) := by
  cases v with
  | array items' => simp [keyItems?]
  | object table =>
    simp only [keyItems?, reduceCtorEq, Json.object.injEq, exists_eq_left', false_or]
    cases Keyed.find? ("keys" : Text) table with
    | none => simp
    | some w => cases w <;> simp
  | null | bool | int | float | string => simp [keyItems?]

theorem holdsItems_iff {items : List Json} {text : Text} :
    HoldsItems items text ↔ ∃ v, IsSpellingOf v text ∧ keyItems? v = some items := by
  constructor
  · rintro (h | ⟨members, hm, hk⟩)
    · exact ⟨.array items, h, rfl⟩
    · refine ⟨_, isSpellingOf_object_iff.2 ⟨members, hm, rfl⟩, keyItems?_eq_some_iff.2 ?_⟩
      exact Or.inr ⟨_, rfl, by rw [Keyed.find?_ofPairs, hk]⟩
  · rintro ⟨v, hv, hk⟩
    rcases keyItems?_eq_some_iff.1 hk with rfl | ⟨table, rfl, hf⟩
    · exact Or.inl hv
    · obtain ⟨members, hm, rfl⟩ := isSpellingOf_object_iff.1 hv
      rw [Keyed.find?_ofPairs] at hf
      exact Or.inr ⟨members, hm, hf⟩

theorem keysOfText_of_noJson {text : Text} (h : NoJson text) :
    keysOfText text = .error .invalidJson := by
  have hnone : parseText? text = none := parseText?_eq_none_iff.2 h
  rw [keysOfText, hnone]

theorem keysOfText_of_holdsItems {items : List Json} {text : Text}
    (h : HoldsItems items text) : keysOfText text = .ok (items.map plain) := by
  obtain ⟨v, hv, hk⟩ := holdsItems_iff.1 h
  simp only [keysOfText, parseText?_eq_some_iff.2 hv, hk]

theorem keysOfText_of_noItems {v : Json} {text : Text} (hv : IsSpellingOf v text)
    (h : ∀ items, ¬ HoldsItems items text) : keysOfText text = .error .noKeys := by
  have hk : keyItems? v = none := by
    cases hitems : keyItems? v with
    | none => rfl
    | some items => exact absurd (holdsItems_iff.2 ⟨v, hv, hitems⟩) (h items)
  simp only [keysOfText, parseText?_eq_some_iff.2 hv, hk]

/-- Every text is no JSON, JSON that holds a list of keys, or JSON that holds none. -/
theorem noJson_or_holdsItems_or (text : Text) :
    NoJson text ∨ (∃ items, HoldsItems items text) ∨
      (∃ v, IsSpellingOf v text) ∧ ∀ items, ¬ HoldsItems items text := by
  by_cases hv : ∃ v, IsSpellingOf v text
  · by_cases hitems : ∃ items, HoldsItems items text
    · exact Or.inr (Or.inl hitems)
    · exact Or.inr (Or.inr ⟨hv, not_exists.1 hitems⟩)
  · exact Or.inl (not_exists.1 hv)

/-- A list of texts is held by its array, and by the object that has the array as its member
`keys`, however they are written. -/
theorem holdsItems_of_isSpellingOf {items : List Json} {text : Text}
    (h : IsSpellingOf (.array items) text ∨
      IsSpellingOf (.object [(("keys" : Text), .array items)]) text) :
    HoldsItems items text := by
  rcases h with h | h
  · exact Or.inl h
  · exact holdsItems_iff.2 ⟨_, h, by simp [keyItems?, Keyed.find?]⟩

theorem map_plain_string (texts : List Text) : (texts.map Json.string).map plain = texts := by
  rw [List.map_map]
  exact List.map_id texts

/-! ## The reply -/

/-- What a reply to a request for the list is read as, by the texts it may hold. -/
inductive ReadsKeys (url : String) : Reply → Except Failure (List Text) → Prop where
  | fault (fault : Fault) : ReadsKeys url (.fault fault) (.error (.fault fault))
  | unreachable (cause : String) :
      ReadsKeys url (.unreachable cause) (.error (.storage (.unavailable url cause)))
  | status {status : Int} (body : Bytes) :
      status ≠ 200 →
      ReadsKeys url (.response status body)
        (.error (.storage (.badStatus .list status (String.ofList (Utf8.decodeLossy body)))))
  | noJson {body : Bytes} :
      NoJson (bodyText body) →
      ReadsKeys url (.response 200 body) (.error (.storage .invalidJson))
  | noItems {body : Bytes} {v : Json} :
      IsSpellingOf v (bodyText body) →
      (∀ items, ¬ HoldsItems items (bodyText body)) →
      ReadsKeys url (.response 200 body) (.error (.storage .noKeys))
  | items {body : Bytes} {items : List Json} :
      HoldsItems items (bodyText body) →
      ReadsKeys url (.response 200 body) (.ok (items.map plain))

theorem readKeys_status {url : String} {status : Int} (h : status ≠ 200) (body : Bytes) :
    readKeys url (.response status body) =
      .error (.storage (.badStatus .list status (String.ofList (Utf8.decodeLossy body)))) := by
  rw [readKeys, readBody, if_neg h]

theorem readKeys_ok (url : String) (body : Bytes) :
    readKeys url (.response 200 body) =
      (keysOfText (bodyText body)).mapError .storage := by
  rw [readKeys, readBody, if_pos rfl]

theorem readsKeys_readKeys (url : String) (reply : Reply) :
    ReadsKeys url reply (readKeys url reply) := by
  cases reply with
  | fault fault => exact .fault fault
  | unreachable cause => exact .unreachable cause
  | response status body =>
    by_cases hs : status = 200
    · subst hs
      rw [readKeys_ok]
      rcases noJson_or_holdsItems_or (bodyText body) with h | ⟨items, h⟩ | ⟨⟨v, hv⟩, h⟩
      · rw [keysOfText_of_noJson h]
        exact .noJson h
      · rw [keysOfText_of_holdsItems h]
        exact .items h
      · rw [keysOfText_of_noItems hv h]
        exact .noItems hv h
    · rw [readKeys_status hs]
      exact .status body hs

/-- A reply is read in one way only. -/
theorem readKeys_eq_iff {url : String} {reply : Reply} {outcome : Except Failure (List Text)} :
    readKeys url reply = outcome ↔ ReadsKeys url reply outcome := by
  constructor
  · rintro rfl
    exact readsKeys_readKeys url reply
  · intro h
    cases h with
    | fault fault => rfl
    | unreachable cause => rfl
    | status body hs => exact readKeys_status hs body
    | noJson h =>
      rw [readKeys_ok, keysOfText_of_noJson h]
      rfl
    | noItems hv h =>
      rw [readKeys_ok, keysOfText_of_noItems hv h]
      rfl
    | items h =>
      rw [readKeys_ok, keysOfText_of_holdsItems h]
      rfl

/-! ## Which reply leads to which outcome -/

section Outcomes

variable {url : String} {reply : Reply}

/-- Without a fault below, a list or one of the known errors comes of a reply. -/
theorem ReadsKeys.known {outcome : Except Failure (List Text)}
    (h : ReadsKeys url reply outcome) (hfault : ∀ fault, reply ≠ .fault fault) :
    (∃ keys, outcome = .ok keys) ∨ ∃ error, outcome = .error (.storage error) := by
  cases h with
  | fault fault => exact absurd rfl (hfault fault)
  | unreachable | status | noJson | noItems => exact Or.inr ⟨_, rfl⟩
  | items => exact Or.inl ⟨_, rfl⟩

theorem readsKeys_unavailable_iff {url' cause : String} :
    ReadsKeys url reply (.error (.storage (.unavailable url' cause))) ↔
      url' = url ∧ reply = .unreachable cause := by
  constructor
  · intro h
    cases h with
    | unreachable => exact ⟨rfl, rfl⟩
  · rintro ⟨rfl, rfl⟩
    exact .unreachable cause

theorem readsKeys_badStatus_iff {operation : Operation} {status : Int} {text : String} :
    ReadsKeys url reply (.error (.storage (.badStatus operation status text))) ↔
      operation = .list ∧ status ≠ 200 ∧
        ∃ body, reply = .response status body ∧ text = String.ofList (Utf8.decodeLossy body) := by
  constructor
  · intro h
    cases h with
    | status body hs => exact ⟨rfl, hs, body, rfl, rfl⟩
  · rintro ⟨rfl, hs, body, rfl, rfl⟩
    exact .status body hs

theorem readsKeys_invalidJson_iff :
    ReadsKeys url reply (.error (.storage .invalidJson)) ↔
      ∃ body, reply = .response 200 body ∧ NoJson (bodyText body) := by
  constructor
  · intro h
    cases h with
    | noJson h => exact ⟨_, rfl, h⟩
  · rintro ⟨body, rfl, h⟩
    exact .noJson h

theorem readsKeys_noKeys_iff :
    ReadsKeys url reply (.error (.storage .noKeys)) ↔
      ∃ body, reply = .response 200 body ∧ (∃ v, IsSpellingOf v (bodyText body)) ∧
        ∀ items, ¬ HoldsItems items (bodyText body) := by
  constructor
  · intro h
    cases h with
    | noItems hv h => exact ⟨_, rfl, ⟨_, hv⟩, h⟩
  · rintro ⟨body, rfl, ⟨v, hv⟩, h⟩
    exact .noItems hv h

theorem readsKeys_ok_iff {keys : List Text} :
    ReadsKeys url reply (.ok keys) ↔
      ∃ body items, reply = .response 200 body ∧ HoldsItems items (bodyText body) ∧
        keys = items.map plain := by
  constructor
  · intro h
    cases h with
    | items h => exact ⟨_, _, rfl, h, rfl⟩
  · rintro ⟨body, items, rfl, h, rfl⟩
    exact .items h

end Outcomes

/-! ## The call -/

/-- What comes of a call is what is read off the reply. -/
theorem outcome_list_eq_iff {client : Client} {transport : Transport} {n : Nat}
    {outcome : Except Failure (List Text)} :
    (client.list transport n).outcome = outcome ↔
      ReadsKeys client.listRequest.url (transport n client.listRequest) outcome :=
  readKeys_eq_iff

theorem readsKeys_list (client : Client) (transport : Transport) (n : Nat) :
    ReadsKeys client.listRequest.url (transport n client.listRequest)
      (client.list transport n).outcome :=
  outcome_list_eq_iff.1 rfl

theorem outcome_list_of_holdsItems {client : Client} {transport : Transport} {n : Nat}
    {body : Bytes} {items : List Json}
    (hr : transport n client.listRequest = .response 200 body)
    (h : HoldsItems items (bodyText body)) :
    (client.list transport n).outcome = .ok (items.map plain) := by
  rw [outcome_list_eq_iff, hr]
  exact .items h

/-- A list of texts that is sent as an array, or as an object, is what comes of the call. -/
theorem outcome_list_of_isSpellingOf {client : Client} {transport : Transport} {n : Nat}
    {keys : List Text} {text : List Char}
    (h : IsSpellingOf (.array (keys.map .string)) (.ofChars text) ∨
      IsSpellingOf (.object [(("keys" : Text), .array (keys.map .string))]) (.ofChars text))
    (hr : transport n client.listRequest = .response 200 (Utf8.encode text)) :
    (client.list transport n).outcome = .ok keys := by
  have hholds : HoldsItems (keys.map .string) (bodyText (Utf8.encode text)) := by
    rw [bodyText_encode]
    exact holdsItems_of_isSpellingOf h
  rw [outcome_list_of_holdsItems hr hholds, map_plain_string]

/-- What a call for the list of keys comes to, by the reply to its request. -/
structure ListCall (client : Client) (reply : Reply) (call : Call (List Text)) : Prop where
  /-- One request is sent. -/
  sent : call.sent = [client.listRequest]
  /-- Nothing but a list or one of the known errors comes of a response, or of none. -/
  known : (∀ fault, reply ≠ .fault fault) →
    (∃ keys, call.outcome = .ok keys) ∨ ∃ error, call.outcome = .error (.storage error)
  unavailable : ∀ url cause, call.outcome = .error (.storage (.unavailable url cause)) ↔
    url = client.listRequest.url ∧ reply = .unreachable cause
  badStatus : ∀ operation status text,
    call.outcome = .error (.storage (.badStatus operation status text)) ↔
      operation = .list ∧ status ≠ 200 ∧
        ∃ body, reply = .response status body ∧ text = String.ofList (Utf8.decodeLossy body)
  invalidJson : call.outcome = .error (.storage .invalidJson) ↔
    ∃ body, reply = .response 200 body ∧ NoJson (bodyText body)
  noKeys : call.outcome = .error (.storage .noKeys) ↔
    ∃ body, reply = .response 200 body ∧ (∃ v, IsSpellingOf v (bodyText body)) ∧
      ∀ items, ¬ HoldsItems items (bodyText body)
  ok : ∀ keys, call.outcome = .ok keys ↔
    ∃ body items, reply = .response 200 body ∧ HoldsItems items (bodyText body) ∧
      keys = items.map plain
  /-- The list is as long as the array, in its order, and a text in it is taken as it is. -/
  texts : ∀ body items, reply = .response 200 body → HoldsItems items (bodyText body) →
    ∃ keys, call.outcome = .ok keys ∧ keys.length = items.length ∧
      ∀ (i : Nat) (text : Text), items[i]? = some (Json.string text) → keys[i]? = some text
  /-- A list of texts is given back, sent as an array or as an object, however written. -/
  givenBack : ∀ (keys : List Text) (text : List Char),
    IsSpellingOf (.array (keys.map .string)) (.ofChars text) ∨
        IsSpellingOf (.object [(("keys" : Text), .array (keys.map .string))]) (.ofChars text) →
      reply = .response 200 (Utf8.encode text) → call.outcome = .ok keys

/-- **What comes of asking for the list of keys.** -/
theorem list_call (client : Client) (transport : Transport) (n : Nat) :
    ListCall client (transport n client.listRequest) (client.list transport n) where
  sent := rfl
  known := (readsKeys_list client transport n).known
  unavailable _ _ := outcome_list_eq_iff.trans readsKeys_unavailable_iff
  badStatus _ _ _ := outcome_list_eq_iff.trans readsKeys_badStatus_iff
  invalidJson := outcome_list_eq_iff.trans readsKeys_invalidJson_iff
  noKeys := outcome_list_eq_iff.trans readsKeys_noKeys_iff
  ok _ := outcome_list_eq_iff.trans readsKeys_ok_iff
  texts := by
    intro body items hr h
    refine ⟨items.map plain, outcome_list_of_holdsItems hr h, List.length_map plain, ?_⟩
    intro i text hi
    rw [List.getElem?_map, hi]
    rfl
  givenBack := by
    intro keys text h hr
    exact outcome_list_of_isSpellingOf h hr

end CatalogCache.Storage
