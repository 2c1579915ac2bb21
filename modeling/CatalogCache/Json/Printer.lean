import CatalogCache.Encoding.Utf16
import CatalogCache.Json.Basic
import CatalogCache.Text.Hex

/-!
# JSON texts of values

A JSON text is ASCII only: every code point outside the printable ASCII ones is escaped, by
its letter where it has one, else by the four hexadecimal digits of each of its UTF-16
units. Texts differ in the space after commas and colons (`Json.Spacing`).
-/

namespace CatalogCache.Json

/-- What stands between the parts of an array or object. -/
structure Spacing where
  /-- After an item or a member that is not the last. -/
  comma : List Char
  /-- After a name. -/
  colon : List Char

/-- Nothing but the marks themselves. -/
def compact : Spacing := ⟨[','], [':']⟩

/-- A space after each mark. -/
def spaced : Spacing := ⟨[',', ' '], [':', ' ']⟩

/-- How floating-point numbers are laid out in JSON. -/
def numberLayout : Double.Layout := ⟨-4, 16, 2, "Infinity", "NaN"⟩

/-- A UTF-16 unit as an escape. -/
def unitEscape (u : Nat) : List Char := '\\' :: 'u' :: Hex.digits 4 u

/-- A character inside a string. -/
def escaped (c : Char) : List Char :=
  if c = '"' then ['\\', '"']
  else if c = '\\' then ['\\', '\\']
  else if c = '\n' then ['\\', 'n']
  else if c = '\r' then ['\\', 'r']
  else if c = '\t' then ['\\', 't']
  else if c = '\x0c' then ['\\', 'f']
  else if c = '\x08' then ['\\', 'b']
  else if 32 ≤ c.toNat ∧ c.toNat < 127 then [c]
  else (Utf16.units c).flatMap unitEscape

/-- A code point inside a string. -/
def escapedPoint : CodePoint → List Char
  | .char c => escaped c
  | .surrogate n => unitEscape (CodePoint.surrogate n).toNat

/-- A string with its quotes. -/
def stringText (s : Text) : List Char := '"' :: s.flatMap escapedPoint ++ ['"']

mutual

/-- The JSON text of a value. -/
def print (spacing : Spacing) : Json → List Char
  | .null => ['n', 'u', 'l', 'l']
  | .bool true => ['t', 'r', 'u', 'e']
  | .bool false => ['f', 'a', 'l', 's', 'e']
  | .int n => (toString n).toList
  | .float x => (x.text numberLayout).toList
  | .string s => stringText s
  | .array items => '[' :: printItems spacing items ++ [']']
  | .object members => '\x7b' :: printMembers spacing members ++ ['\x7d']

/-- The items of an array. -/
def printItems (spacing : Spacing) : List Json → List Char
  | [] => []
  | [v] => print spacing v
  | v :: rest => print spacing v ++ spacing.comma ++ printItems spacing rest

/-- The members of an object. -/
def printMembers (spacing : Spacing) : List (Text × Json) → List Char
  | [] => []
  | [(name, v)] => stringText name ++ spacing.colon ++ print spacing v
  | (name, v) :: rest =>
    stringText name ++ spacing.colon ++ print spacing v ++ spacing.comma ++
      printMembers spacing rest

end

/-- The JSON text of a value as a string. -/
def render (spacing : Spacing) (v : Json) : String := String.ofList (print spacing v)

end CatalogCache.Json
