import CatalogCache.Encoding.Utf16
import CatalogCache.Json.Basic
import CatalogCache.Text.Hex

/-!
# Reading JSON texts

The reader takes the JSON grammar and, beyond it, the words `NaN`, `Infinity` and
`-Infinity`. Blank space is the space, the tab, the line feed and the carriage return, and
nothing else. A number without fraction and exponent may have 4300 digits, any other number
as many as it likes. A string may hold any code point but a control character, a quote or a
lone backslash. Two escapes that form a surrogate pair are one character, and a surrogate
without its partner stays one. Of members with the same name the last one counts, in the place
of the first.

Values may nest as deep as they like. The service itself has a limit of some hundreds of levels,
which depends on what else it has begun, and fails on a body beyond it; the reader speaks of
texts within the limit.

Each function reads something from the front of a text and returns it with what follows.
Values nest, so the three functions that read them call each other with a bound on the
number of calls; twice the length of the text is more than any text needs.
-/

namespace CatalogCache.Json

/-- A blank character between tokens. -/
def isSpace (p : CodePoint) : Bool :=
  p == .char ' ' || p == .char '\t' || p == .char '\n' || p == .char '\r'

/-- What follows the blank space in front of a text. -/
def skip (cs : Text) : Text := cs.dropWhile isSpace

/-- What follows a word in front of a text. -/
def word? : Text → Text → Option Text
  | [], cs => some cs
  | w :: word, c :: cs => if w = c then word? word cs else none
  | _ :: _, [] => none

/-! ## Strings -/

/-- The character of an escape of one letter. -/
def letterEscape? (c : CodePoint) : Option Char :=
  if c = .char '"' then some '"'
  else if c = .char '\\' then some '\\'
  else if c = .char '/' then some '/'
  else if c = .char 'n' then some '\n'
  else if c = .char 'r' then some '\r'
  else if c = .char 't' then some '\t'
  else if c = .char 'f' then some '\x0c'
  else if c = .char 'b' then some '\x08'
  else none

/-- The value of a hexadecimal digit. -/
def hexValue? : CodePoint → Option Nat
  | .char c => Hex.value? c
  | .surrogate _ => none

/-- The number of four hexadecimal digits. -/
def fourDigits? (a b c d : CodePoint) : Option Nat :=
  match hexValue? a, hexValue? b, hexValue? c, hexValue? d with
  | some w, some x, some y, some z => some (((w * 16 + x) * 16 + y) * 16 + z)
  | _, _, _, _ => none

/-- Adds a part in front of what was read. -/
def consPart (part : Utf16.Part) :
    Option (List Utf16.Part × Text) → Option (List Utf16.Part × Text)
  | some (parts, rest) => some (part :: parts, rest)
  | none => none

/-- The inside of a string up to its closing quote: the units of the escapes, and the code
points that stand for themselves. -/
def stringParts? : Text → Option (List Utf16.Part × Text)
  | [] => none
  | c :: rest =>
    if c = .char '"' then some ([], rest)
    else if c = .char '\\' then
      match rest with
      | [] => none
      | e :: rest₂ =>
        if e = .char 'u' then
          match rest₂ with
          | x₁ :: x₂ :: x₃ :: x₄ :: rest₃ =>
            match fourDigits? x₁ x₂ x₃ x₄ with
            | some u => consPart (.unit u) (stringParts? rest₃)
            | none => none
          | _ => none
        else
          match letterEscape? e with
          | some x => consPart (.whole (.char x)) (stringParts? rest₂)
          | none => none
    else if c.toNat < 32 then none
    else consPart (.whole c) (stringParts? rest)

/-- A string after its opening quote. -/
def string? (cs : Text) : Option (Text × Text) :=
  match stringParts? cs with
  | some (parts, rest) => some (Utf16.decode parts, rest)
  | none => none

/-! ## Numbers and words -/

def isDigit (p : CodePoint) : Bool := 48 ≤ p.toNat && p.toNat ≤ 57

/-- The value of ASCII digits. -/
def digitsValue (cs : Text) : Nat := Decimal.ofDigits (cs.map fun c => c.toNat - 48)

/-- The whole part of a number: a zero stands alone. -/
def whole (cs : Text) : Text × Text :=
  match cs with
  | .char '0' :: rest => ([.char '0'], rest)
  | _ => (cs.takeWhile isDigit, cs.dropWhile isDigit)

/-- The digits after a point, if a point with a digit after it comes first. -/
def fraction? : Text → Option (Text × Text)
  | .char '.' :: rest =>
    match rest.takeWhile isDigit with
    | [] => none
    | digits => some (digits, rest.dropWhile isDigit)
  | _ => none

/-- A sign before an exponent. -/
def exponentSign : Text → Bool × Text
  | .char '-' :: rest => (true, rest)
  | .char '+' :: rest => (false, rest)
  | cs => (false, cs)

/-- An exponent, if one with at least one digit comes first. -/
def exponent? : Text → Option (Int × Text)
  | c :: rest =>
    if c = .char 'e' ∨ c = .char 'E' then
      match exponentSign rest with
      | (negative, cs) =>
        match cs.takeWhile isDigit with
        | [] => none
        | digits =>
          let n : Int := digitsValue digits
          some (if negative then -n else n, cs.dropWhile isDigit)
    else none
  | [] => none

/-- An integer, if it does not have too many digits. -/
def integer? (negative : Bool) (digits : Text) : Option Json :=
  if Decimal.maxDigits < digits.length then none
  else
    let n : Int := digitsValue digits
    some (.int (if negative then -n else n))

/-- A number after its sign. -/
def unsigned? (negative : Bool) (cs : Text) : Option (Json × Text) :=
  match whole cs with
  | ([], _) => none
  | (digits, rest) =>
    -- what looks like a fraction or an exponent but is none is left for what follows
    match fraction? rest with
    | some (part, rest₂) =>
      let (e, rest₃) := (exponent? rest₂).getD (0, rest₂)
      some (.float (.ofDecimal negative (digitsValue (digits ++ part)) (e - part.length)), rest₃)
    | none =>
      match exponent? rest with
      | some (e, rest₂) => some (.float (.ofDecimal negative (digitsValue digits) e), rest₂)
      | none =>
        match integer? negative digits with
        | some n => some (n, rest)
        | none => none

/-- A number, or the word for the least of all numbers. -/
def number? : Text → Option (Json × Text)
  | .char '-' :: rest =>
    match word? ['I', 'n', 'f', 'i', 'n', 'i', 't', 'y'] rest with
    | some rest₂ => some (.float (.infinite true), rest₂)
    | none => unsigned? true rest
  | cs => unsigned? false cs

/-- The words that are values, with the values. -/
def words : List (Text × Json) := [
  (['n', 'u', 'l', 'l'], .null),
  (['t', 'r', 'u', 'e'], .bool true),
  (['f', 'a', 'l', 's', 'e'], .bool false),
  (['N', 'a', 'N'], .float .nan),
  (['I', 'n', 'f', 'i', 'n', 'i', 't', 'y'], .float (.infinite false))]

/-- A value that holds no other values and is no string. -/
def scalar? (cs : Text) : Option (Json × Text) :=
  match words.findSome? fun entry => (word? entry.1 cs).map fun rest => (entry.2, rest) with
  | some found => some found
  | none => number? cs

/-! ## Values -/

mutual

def value? : (bound : Nat) → Text → Option (Json × Text)
  | 0, _ => none
  | bound + 1, cs =>
    match cs with
    | [] => none
    | c :: rest =>
      if c = .char '"' then
        match string? rest with
        | some (s, rest₂) => some (.string s, rest₂)
        | none => none
      else if c = .char '[' then
        match skip rest with
        | .char ']' :: rest₂ => some (.array [], rest₂)
        | rest₂ =>
          match items? bound rest₂ with
          | some (items, rest₃) => some (.array items, rest₃)
          | none => none
      else if c = .char '\x7b' then
        match skip rest with
        | .char '\x7d' :: rest₂ => some (.object [], rest₂)
        | rest₂ =>
          match members? bound rest₂ with
          -- of members with one name the last value stays, in the place of the first
          | some (members, rest₃) => some (.object (Keyed.ofPairs members), rest₃)
          | none => none
      else scalar? (c :: rest)

/-- The items of an array, up to its closing bracket. -/
def items? : (bound : Nat) → Text → Option (List Json × Text)
  | 0, _ => none
  | bound + 1, cs =>
    match value? bound cs with
    | none => none
    | some (v, rest) =>
      match skip rest with
      | .char ']' :: rest₂ => some ([v], rest₂)
      | .char ',' :: rest₂ =>
        match items? bound (skip rest₂) with
        | some (items, rest₃) => some (v :: items, rest₃)
        | none => none
      | _ => none

/-- The members of an object, up to its closing brace. -/
def members? : (bound : Nat) → Text → Option (List (Text × Json) × Text)
  | 0, _ => none
  | bound + 1, cs =>
    match cs with
    | .char '"' :: rest =>
      match string? rest with
      | none => none
      | some (name, rest₂) =>
        match skip rest₂ with
        | .char ':' :: rest₃ =>
          match value? bound (skip rest₃) with
          | none => none
          | some (v, rest₄) =>
            match skip rest₄ with
            | .char '\x7d' :: rest₅ => some ([(name, v)], rest₅)
            | .char ',' :: rest₅ =>
              match members? bound (skip rest₅) with
              | some (members, rest₆) => some ((name, v) :: members, rest₆)
              | none => none
            | _ => none
        | _ => none
    | _ => none

end

/-- The value of a whole text. -/
def parseText? (cs : Text) : Option Json :=
  -- between two calls a character is taken, but for the step from an item to its value
  match value? (2 * cs.length + 2) (skip cs) with
  | some (v, rest) => if (skip rest).isEmpty then some v else none
  | none => none

/-- The value of a whole string. -/
def parse? (s : String) : Option Json := parseText? s

end CatalogCache.Json
