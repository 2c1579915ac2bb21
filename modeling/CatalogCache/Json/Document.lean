import CatalogCache.Encoding.Utf32
import CatalogCache.Encoding.Utf8
import CatalogCache.Json.Parser

/-!
# JSON texts as byte strings

A JSON text arrives in UTF-8, UTF-16 or UTF-32, with or without a byte order mark. A mark
decides. Without one the zero bytes among the first four do: the first character of a JSON
text is ASCII, so in the wide encodings it has zero bytes around it. A text of two bytes is
looked at in the same way; every other one is UTF-8.

Surrogates are read in each of the encodings, though none of them ought to hold one. As in
`CatalogCache.Json.Parser`, the texts are those that nest less deeply than the service can follow.
-/

namespace CatalogCache.Json

/-- How a text is encoded. -/
inductive Encoding where
  /-- One to four bytes a character. -/
  | utf8
  /-- Two or four bytes a character. -/
  | utf16 (order : ByteOrder)
  /-- Four bytes a character. -/
  | utf32 (order : ByteOrder)

namespace Encoding

/-- The byte order marks. That of UTF-16 begins that of UTF-32 when the least byte comes
first, so the longer marks are looked for before the shorter ones. -/
def marks : List (Bytes × Encoding) := [
  ([0x00, 0x00, 0xFE, 0xFF], .utf32 .big),
  ([0xFF, 0xFE, 0x00, 0x00], .utf32 .little),
  ([0xFE, 0xFF], .utf16 .big),
  ([0xFF, 0xFE], .utf16 .little),
  ([0xEF, 0xBB, 0xBF], .utf8)]

/-- The encoding that a byte order mark in front names, and what follows the mark. -/
def ofMark? (bytes : Bytes) : Option (Encoding × Bytes) :=
  marks.findSome? fun entry =>
    if entry.1.isPrefixOf bytes then some (entry.2, bytes.drop entry.1.length) else none

/-- The encoding of a text without mark, by its zero bytes. -/
def ofZeros : Bytes → Encoding
  | a :: b :: c :: d :: _ =>
    if a = 0 then (if b = 0 then .utf32 .big else .utf16 .big)
    else if b = 0 then (if c = 0 ∧ d = 0 then .utf32 .little else .utf16 .little)
    else .utf8
  | [a, b] => if a = 0 then .utf16 .big else if b = 0 then .utf16 .little else .utf8
  | _ => .utf8

/-- The encoding of a text, and the bytes after its mark. -/
def detect (bytes : Bytes) : Encoding × Bytes := (ofMark? bytes).getD (ofZeros bytes, bytes)

/-- The text of bytes without mark. -/
def decode? : Encoding → Bytes → Option Text
  | .utf8, bytes => Utf8.decodeLoose? bytes
  | .utf16 order, bytes => Utf16.decodeBytes? order bytes
  | .utf32 order, bytes => Utf32.decodeBytes? order bytes

end Encoding

/-- The value of a JSON text in any of the encodings. -/
def ofBytes? (bytes : Bytes) : Option Json :=
  match Encoding.detect bytes with
  | (encoding, rest) => (encoding.decode? rest).bind parseText?

end CatalogCache.Json
