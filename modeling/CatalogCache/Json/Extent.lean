import CatalogCache.Json.Basic

/-!
# How much there is to write

Two things can keep a value from being written as JSON: that it nests too deeply, and that an
integer in it has too many digits. The names of members are texts and never in the way.
-/

namespace CatalogCache.Json

/-- Whether an integer has few enough digits to be written. -/
def isShort (n : Int) : Bool := n.natAbs < Nat.pow 10 Decimal.maxDigits

mutual

/-- How many arrays and objects stand around the innermost part of a value. -/
def depth : Json → Nat
  | .null | .bool _ | .int _ | .float _ | .string _ => 0
  | .array items => depthOfItems items + 1
  | .object members => depthOfMembers members + 1

def depthOfItems : List Json → Nat
  | [] => 0
  | v :: rest => max (depth v) (depthOfItems rest)

def depthOfMembers : List (Text × Json) → Nat
  | [] => 0
  | (_, v) :: rest => max (depth v) (depthOfMembers rest)

end

mutual

/-- Whether every integer in a value can be written. -/
def hasShortIntegers : Json → Bool
  | .null | .bool _ | .float _ | .string _ => true
  | .int n => isShort n
  | .array items => haveShortIntegers items
  | .object members => membersHaveShortIntegers members

def haveShortIntegers : List Json → Bool
  | [] => true
  | v :: rest => hasShortIntegers v && haveShortIntegers rest

def membersHaveShortIntegers : List (Text × Json) → Bool
  | [] => true
  | (_, v) :: rest => hasShortIntegers v && membersHaveShortIntegers rest

end

end CatalogCache.Json
