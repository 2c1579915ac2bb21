import CatalogCache.Json.Basic
import CatalogCache.Text.Quoted

/-!
# Values in plain text

How a value is shown where a text is expected, in a message or as a key: a string as it is,
and every other value in a notation of its own, in which the constants are `None`, `True`
and `False` and the strings inside arrays and objects are quoted.
-/

namespace CatalogCache.Json

/-- How floating-point numbers are laid out in plain text. -/
def plainLayout : Double.Layout := ⟨-4, 16, 2, "inf", "nan"⟩

/-- Texts with a separator between them. -/
def joined (separator : String) : List String → String
  | [] => ""
  | [s] => s
  | s :: rest => s ++ separator ++ joined separator rest

mutual

/-- A value in plain notation, strings quoted. -/
def notated : Json → String
  | .null => "None"
  | .bool true => "True"
  | .bool false => "False"
  | .int n => toString n
  | .float x => x.text plainLayout
  | .string s => Text.quoted s
  | .array items => "[" ++ joined ", " (notatedItems items) ++ "]"
  | .object members => "\x7b" ++ joined ", " (notatedMembers members) ++ "\x7d"

/-- The items of an array in plain notation. -/
def notatedItems : List Json → List String
  | [] => []
  | v :: rest => notated v :: notatedItems rest

/-- The members of an object in plain notation. -/
def notatedMembers : List (Text × Json) → List String
  | [] => []
  | (name, v) :: rest => (Text.quoted name ++ ": " ++ notated v) :: notatedMembers rest

end

/-- A value as a text: a string as it is, another value in plain notation. -/
def plain : Json → Text
  | .string s => s
  | v => notated v

end CatalogCache.Json
