import CatalogCache.Decimal.Shortest
import CatalogCache.Keyed
import CatalogCache.Text

/-!
# JSON values

Integers and floating-point numbers are two kinds of value: a number without fraction and
exponent is an integer of any size. The members of an object are kept in order of each
name's first arrival, no name twice.
-/

namespace CatalogCache

inductive Json where
  | null
  | bool (b : Bool)
  /-- A number without fraction and exponent. -/
  | int (n : Int)
  /-- A number with fraction or exponent, or one of the words for what is not finite. -/
  | float (x : Double)
  | string (s : Text)
  | array (items : List Json)
  | object (members : List (Text × Json))

namespace Json

instance : Inhabited Json := ⟨.null⟩

/-- The member of a name, if the value is an object that has one. -/
def member? (name : Text) : Json → Option Json
  | .object members => Keyed.find? name members
  | _ => none

/-- Whether a value counts as nothing: `null`, `false`, zero, and what is empty. -/
def isBlank : Json → Bool
  | .null => true
  | .bool b => !b
  | .int n => n == 0
  | .float (.finite _ m _) => m == 0
  | .float _ => false
  | .string s => s.isEmpty
  | .array items => items.isEmpty
  | .object members => members.isEmpty

end Json

end CatalogCache
