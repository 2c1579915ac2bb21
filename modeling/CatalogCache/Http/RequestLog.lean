import CatalogCache.Encoding.Utf8
import CatalogCache.Json.Display
import CatalogCache.Json.Extent
import CatalogCache.Json.Printer
import CatalogCache.Log

/-!
# The record of a request

Each request is reported in one record: its identifier, its method, its path, its
parameters, and a preview of its body. The preview shows text only. A body of bytes is text
when the whole of it is UTF-8, and what is too long is cut after a fixed number of
characters.

A body of bytes always has a preview, and the service reports no other ones (`previewBytes`).
A body that is a value has one only if it can be written as JSON at all. An integer of too many
digits cannot; nor can a value that nests deeper than the program has room for, and how much
room it has depends on what it has begun when it comes to write the value.

The parameters stand in the record as they are and are made a text when it is written out. That
they can be, as those of the service can, which are texts, is taken for granted.
-/

namespace CatalogCache.Http

/-- What is known about the body of a request. -/
inductive Payload where
  /-- The request has no means to give its body. -/
  | unavailable
  | absent
  /-- The body as it came. -/
  | bytes (body : Bytes)
  /-- The body as a JSON value. -/
  | json (value : Json)
  /-- The body as something of which only a text is known. -/
  | shown (text : Text)
  /-- The body as something that fails when it is asked for a text. -/
  | mute

namespace Payload

/-- How many code points of a body are shown. -/
def previewLimit : Nat := 2048

/-- A text cut to what is shown of a body. -/
def truncate (text : Text) : Text :=
  if text.length ≤ previewLimit then text else text.take previewLimit ++ "...<truncated>"

/-- What is shown of a body of bytes. -/
def previewBytes (body : Bytes) : Text :=
  if body.isEmpty then "<empty>"
  else
    match Utf8.decodeString? body with
    | some text => truncate text
    | none => "<binary>"

/-- What is shown of a body, where values may nest to a depth of `room`; `none` when the attempt
to show it fails. -/
def preview (room : Nat) : Payload → Option Text
  | .unavailable => some "<missing>"
  | .absent => some "<empty>"
  | .bytes body => some (previewBytes body)
  | .json value =>
    if value.isBlank then some "<empty>"
    else if value.depth ≤ room ∧ value.hasShortIntegers then
      some (truncate (value.render Json.spaced))
    else none
  | .shown text => some (truncate text)
  | .mute => none

end Payload

/-- What is reported about a request, its body apart. -/
structure RequestSummary where
  method : Option Text
  path : Text
  query : List (Text × Json)
  pathParameters : List (Text × Json)

namespace RequestSummary

/-- A text, if there is one. An empty one counts as none. -/
def given? : Option Text → Option Text
  | none => none
  | some text => if text.isEmpty then none else some text

/-- The identifier as it is shown. -/
def shownId (id : Option Text) : Text := (given? id).getD "<none>"

/-- The message about a request with a method, up to its body. -/
def heading (summary : RequestSummary) (method : Text) (id : Option Text) : Text :=
  "HTTP request id=" ++ shownId id ++ " method=" ++ method ++ " path=" ++ summary.path ++
    " query=" ++ Json.notated (.object summary.query) ++
    " path_params=" ++ Json.notated (.object summary.pathParameters)

/-- What a part of the service reports about a request with the preview of its body. Nothing is
reported about a request without method. -/
def records (summary : RequestSummary) (logger : String) (id : Option Text) (preview : Text) :
    Log :=
  match given? summary.method with
  | none => []
  | some method => [⟨.info, logger, summary.heading method id ++ " body=" ++ preview⟩]

/-- What a part of the service reports about a request, `none` when that fails at its body. The
body of a request without method is not looked at. -/
def log? (summary : RequestSummary) (payload : Payload) (room : Nat) (logger : String)
    (id : Option Text) : Option Log :=
  match given? summary.method with
  | none => some []
  | some _ => (payload.preview room).map (summary.records logger id)

end RequestSummary

end CatalogCache.Http
