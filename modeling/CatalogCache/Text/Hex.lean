/-!
# Hexadecimal digits

Lower-case and upper-case digits of base sixteen and their values. Escapes in JSON texts,
in quoted texts and in queries are written with them.
-/

namespace CatalogCache.Hex

/-- The lower-case digit of a value below sixteen. -/
def lower (n : Nat) : Char :=
  if n < 10 then Char.ofNat (48 + n) else Char.ofNat (87 + n)

/-- The upper-case digit of a value below sixteen. -/
def upper (n : Nat) : Char :=
  if n < 10 then Char.ofNat (48 + n) else Char.ofNat (55 + n)

/-- The value of a digit, in either case. -/
def value? (c : Char) : Option Nat :=
  let n := c.toNat
  if 48 ≤ n ∧ n ≤ 57 then some (n - 48)
  else if 97 ≤ n ∧ n ≤ 102 then some (n - 87)
  else if 65 ≤ n ∧ n ≤ 70 then some (n - 55)
  else none

/-- The last `width` lower-case digits of a number. -/
def digits : (width : Nat) → Nat → List Char
  | 0, _ => []
  | width + 1, n => digits width (n / 16) ++ [lower (n % 16)]

theorem value?_lower {n : Nat} (h : n < 16) : value? (lower n) = some n := by
  have table : ∀ m < 16, value? (lower m) = some m := by decide
  exact table n h

theorem value?_upper {n : Nat} (h : n < 16) : value? (upper n) = some n := by
  have table : ∀ m < 16, value? (upper m) = some m := by decide
  exact table n h

end CatalogCache.Hex
