import CatalogCache.Decimal.Digits

/-!
# Doubles

A double is kept as what it is, an integer of at most fifty-three bits times a power of two,
and not as a machine word: every decision about it is then exact arithmetic on integers.

`ofRatio` is the double nearest to a fraction; of two that are equally near it is the even
one. `ofDecimal` is the double nearest to a number with decimal digits, `ofText?` reads the
notation that a setting uses.
-/

namespace CatalogCache

/-- A floating-point number of double precision. `finite negative m e` stands for `m · 2^e`
with a sign; as built by `Double.ofRatio` it has `m < 2^53` and the least exponent from
`-1074` on that allows this. -/
inductive Double where
  | nan
  | infinite (negative : Bool)
  /-- An integer times a power of two. -/
  | finite (negative : Bool) (significand : Nat) (exponent : Int)
  deriving DecidableEq, Repr

namespace Double

def minExponent : Int := -1074

def maxExponent : Int := 971

def pow2 (e : Int) : Nat := Nat.pow 2 e.toNat

/-- The least number with more than fifty-three bits. -/
def significandBound : Nat := 9007199254740992

/-- A quotient rounded to the nearest integer, to the even one of two. -/
def roundDiv (num den : Nat) : Nat :=
  let q := num / den
  let r := num % den
  if 2 * r < den then q else if den < 2 * r then q + 1 else q + q % 2

/-- The exponent of the nearest double to a positive fraction, before rounding. -/
def exponentOf (num den : Nat) : Int :=
  -- the lengths in bits give the exponent up to one, a comparison settles which it is
  let guess : Int := (Nat.log2 num : Int) - Nat.log2 den - 53
  let exact :=
    if significandBound * den * pow2 guess ≤ num * pow2 (-guess) then guess + 1 else guess
  max exact minExponent

/-- The double nearest to a fraction. -/
def ofRatio (negative : Bool) (num den : Nat) : Double :=
  if num = 0 then .finite negative 0 minExponent
  else
    let e := exponentOf num den
    let m := roundDiv (num * pow2 (-e)) (den * pow2 e)
    -- rounding up can give one bit too many
    let rounded := if m = significandBound then (significandBound / 2, e + 1) else (m, e)
    if maxExponent < rounded.2 then .infinite negative
    else .finite negative rounded.1 rounded.2

/-- The double nearest to an integer. -/
def ofInt (n : Int) : Double := ofRatio (n < 0) n.natAbs 1

/-- The double nearest to `digits · 10^exponent`. Beyond all doubles, and below half of the
smallest, the power is not worked out. -/
def ofDecimal (negative : Bool) (digits : Nat) (exponent : Int) : Double :=
  let magnitude := (Decimal.length digits : Int) + exponent
  -- the digits may be many and the exponent huge, so the magnitude is settled first
  if digits = 0 ∨ magnitude < -330 then .finite negative 0 minExponent
  else if 330 < magnitude then .infinite negative
  else ofRatio negative (digits * Nat.pow 10 exponent.toNat) (Nat.pow 10 (-exponent).toNat)

/-- Whether a number is at most zero. Not a number is not. -/
def isAtMostZero : Double → Bool
  | nan => false
  | infinite negative => negative
  | finite negative m _ => negative || m == 0

/-- A word without regard to case. -/
def isWord (word : String) (cs : List Char) : Bool := cs.map Char.toLower == word.toList

/-- The exponent part of a number, if the rest of the text is one or is empty. -/
def exponentPart? : List Char → Option Int
  | [] => some 0
  | c :: rest =>
    if c = 'e' ∨ c = 'E' then
      match Decimal.sign rest with
      | (negative, cs) =>
        match Decimal.digitRun cs with
        | ([], _) => none
        | (ds, []) =>
          some (if negative then -(Decimal.ofDigits ds : Int) else Decimal.ofDigits ds)
        | (_, _ :: _) => none
    else none

/-- The digits after the point, and what follows them. -/
def fraction : List Char → List Nat × List Char
  | '.' :: rest => Decimal.digitRun rest
  | cs => ([], cs)

/-- The number that a text without sign writes. -/
def unsigned? (negative : Bool) (cs : List Char) : Option Double :=
  if isWord "inf" cs || isWord "infinity" cs then some (.infinite negative)
  else if isWord "nan" cs then some .nan
  else
    match Decimal.digitRun cs with
    | (whole, afterWhole) =>
      match fraction afterWhole with
      | (part, afterPart) =>
        if whole.isEmpty && part.isEmpty then none
        else
          (exponentPart? afterPart).map fun e =>
            ofDecimal negative (Decimal.ofDigits (whole ++ part)) (e - part.length)

/-- The number that a text writes: digits with an optional point and exponent, or one of the
words `inf`, `infinity` and `nan`, with an optional sign and blank space around it. -/
def ofText? (s : String) : Option Double :=
  match Decimal.sign (Text.trimWhile Decimal.isSpace s.toList) with
  | (negative, cs) => unsigned? negative cs

end Double

end CatalogCache
