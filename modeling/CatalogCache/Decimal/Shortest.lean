import CatalogCache.Decimal.Double

/-!
# The shortest decimal text of a double

A double is written with the fewest decimal digits that still read back as itself; of
several such numbers the one nearest to it is taken, and of two that are equally near the
one whose last digit is even.

The numbers that read back as `m · 2^e` fill an interval around it. For one digit, two
digits and so on the two neighbours of the double on that decimal grid are tried, in exact
arithmetic, until one lies in the interval. If any number of the grid lies in it, one of
these two does.
-/

namespace CatalogCache

namespace Decimal

/-- A positive fraction. -/
structure Fraction where
  num : Nat
  den : Nat

namespace Fraction

def power (base : Nat) (e : Int) : Fraction := ⟨Nat.pow base e.toNat, Nat.pow base (-e).toNat⟩

def times (n : Nat) (x : Fraction) : Fraction := ⟨n * x.num, x.den⟩

def le (x y : Fraction) : Bool := x.num * y.den ≤ y.num * x.den

def lt (x y : Fraction) : Bool := x.num * y.den < y.num * x.den

/-- The quotient of two fractions, rounded down. -/
def floorDiv (x y : Fraction) : Nat := x.num * y.den / (x.den * y.num)

/-- The `k` for which the fraction is at least `10^(k-1)` and less than `10^k`. -/
def decimalExponent (x : Fraction) : Int :=
  if x.den ≤ x.num then length (x.num / x.den)
  else 1 - (length ((x.den + x.num - 1) / x.num - 1) : Int)

end Fraction

/-- The numbers that read back as one double: all between two bounds, the bounds included
when the significand is even. -/
structure Interval where
  low : Fraction
  high : Fraction
  /-- Whether the bounds belong to it. -/
  closed : Bool

/-- Whether a fraction lies in an interval. -/
def Interval.contains (i : Interval) (x : Fraction) : Bool :=
  if i.closed then i.low.le x && x.le i.high else i.low.lt x && x.lt i.high

/-- The interval of a double. Below a power of two the doubles are twice as dense. -/
def Interval.around (m : Nat) (e : Int) : Interval :=
  -- in quarters of the last bit: half a bit to each side, a quarter below a power of two
  let unit := Fraction.power 2 (e - 2)
  let below := if m = Double.significandBound / 2 ∧ Double.minExponent < e then 1 else 2
  ⟨unit.times (4 * m - below), unit.times (4 * m + 2), m % 2 == 0⟩

/-- The best number with steps of `10^e` for a double in an interval, if there is one. -/
def onGrid? (i : Interval) (x : Fraction) (e : Int) : Option Nat :=
  let step := Fraction.power 10 e
  let q := x.floorDiv step
  match i.contains (step.times q), i.contains (step.times (q + 1)) with
  | false, false => none
  | true, false => some q
  | false, true => some (q + 1)
  | true, true =>
    -- both neighbours read back as the double: the nearer one, or the even one
    let middle := step.times (2 * q + 1)
    if (x.times 2).lt middle then some q
    else if middle.lt (x.times 2) then some (q + 1)
    else some (q + q % 2)

/-- Tries grids from coarse to fine. After `tries` grids every double has been found. -/
def search (i : Interval) (x : Fraction) : (tries : Nat) → (e : Int) → Nat × Int
  | 0, e => (x.floorDiv (Fraction.power 10 e), e)
  | tries + 1, e =>
    match onGrid? i x e with
    | some n => (n, e)
    | none => search i x tries (e - 1)

/-- Takes trailing zeros away, at most so many. -/
def stripZeros : (atMost : Nat) → Nat × Int → Nat × Int
  | 0, n => n
  | atMost + 1, (n, e) => if n % 10 = 0 ∧ n ≠ 0 then stripZeros atMost (n / 10, e + 1) else (n, e)

/-- The digits and the power of ten of the shortest number that reads back as `m · 2^e`. -/
def shortest (m : Nat) (e : Int) : Nat × Int :=
  let x := (Fraction.power 2 e).times m
  stripZeros 20 (search (Interval.around m e) x 17 (x.decimalExponent - 1))

end Decimal

/-- How a floating-point number is laid out. -/
structure Double.Layout where
  /-- The least decimal exponent that is written positionally. -/
  least : Int
  /-- The first decimal exponent that is no longer written positionally. -/
  limit : Int
  /-- The least number of digits in an exponent. -/
  exponentWidth : Nat
  /-- The text of an infinite number, without its sign. -/
  infinity : String
  nan : String

namespace Double

def zeros (n : Nat) : List Char := List.replicate n '0'

/-- An exponent with its sign. -/
def exponentText (width : Nat) (e : Int) : List Char :=
  let digits := Nat.toDigits 10 e.natAbs
  (if e < 0 then '-' else '+') :: zeros (width - digits.length) ++ digits

/-- Digits `n · 10^e` laid out. -/
def layOut (layout : Layout) (n : Nat) (e : Int) : List Char :=
  let digits := Nat.toDigits 10 n
  let point : Int := digits.length + e
  if layout.least ≤ point - 1 ∧ point - 1 < layout.limit then
    -- the point stands before, after or among the digits
    if point ≤ 0 then '0' :: '.' :: zeros (-point).toNat ++ digits
    else if digits.length ≤ point then digits ++ zeros e.toNat ++ ['.', '0']
    else digits.take point.toNat ++ '.' :: digits.drop point.toNat
  else
    match digits with
    | [] => []
    | [d] => d :: 'e' :: exponentText layout.exponentWidth (point - 1)
    | d :: rest => d :: '.' :: rest ++ 'e' :: exponentText layout.exponentWidth (point - 1)

/-- The text of a floating-point number. -/
def text (layout : Layout) : Double → String
  | .nan => layout.nan
  | .infinite negative => (if negative then "-" else "") ++ layout.infinity
  | .finite negative m e =>
    let body := if m = 0 then ['0', '.', '0'] else
      let (n, k) := Decimal.shortest m e
      layOut layout n k
    (if negative then "-" else "") ++ String.ofList body

end Double

end CatalogCache
