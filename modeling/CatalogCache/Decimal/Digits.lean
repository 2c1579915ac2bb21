import CatalogCache.Text.Blank

/-!
# Decimal digits

Unicode 14 has the ten decimal digits in sixty-six scripts and styles, each time in a row
from zero to nine. A number in a setting may be written with any of them, with single
underscores between digits and blank space around it.
-/

namespace CatalogCache.Decimal

/-- The zeros of the rows of decimal digits. -/
def zeros : List Nat := [
    0x30, 0x660, 0x6F0, 0x7C0, 0x966, 0x9E6, 0xA66, 0xAE6, 0xB66, 0xBE6, 0xC66, 0xCE6,
    0xD66, 0xDE6, 0xE50, 0xED0, 0xF20, 0x1040, 0x1090, 0x17E0, 0x1810, 0x1946, 0x19D0,
    0x1A80, 0x1A90, 0x1B50, 0x1BB0, 0x1C40, 0x1C50, 0xA620, 0xA8D0, 0xA900, 0xA9D0, 0xA9F0,
    0xAA50, 0xABF0, 0xFF10, 0x104A0, 0x10D30, 0x11066, 0x110F0, 0x11136, 0x111D0, 0x112F0,
    0x11450, 0x114D0, 0x11650, 0x116C0, 0x11730, 0x118E0, 0x11950, 0x11C50, 0x11D50,
    0x11DA0, 0x16A60, 0x16AC0, 0x16B50, 0x1D7CE, 0x1D7D8, 0x1D7E2, 0x1D7EC, 0x1D7F6,
    0x1E140, 0x1E2F0, 0x1E950, 0x1FBF0]

/-- The value of a decimal digit of any script. -/
def digit? (c : Char) : Option Nat :=
  let n := c.toNat
  (zeros.find? fun start => start ≤ n && n < start + 10).map (n - ·)

/-- The longest run of digits in front of a text, single underscores between digits left
out, and what follows it. -/
def digitRun : List Char → List Nat × List Char
  | [] => ([], [])
  | c :: rest =>
    match digit? c with
    | none => ([], c :: rest)
    | some d =>
      match rest with
      | [] => ([d], [])
      | c' :: rest₂ =>
        if c' = '_' then
          match digitRun rest₂ with
          | ([], _) => ([d], c' :: rest₂)
          | (ds, after) => (d :: ds, after)
        else
          match digitRun (c' :: rest₂) with
          | (ds, after) => (d :: ds, after)

/-- The number that some digits write. -/
def ofDigits (ds : List Nat) : Nat := ds.foldl (fun n d => 10 * n + d) 0

/-- How many digits a number is written with, none for zero. -/
def length (n : Nat) : Nat := if n = 0 then 0 else (Nat.toDigits 10 n).length

/-- Blank space around a number: the information separators are not part of it. -/
def isSpace (c : Char) : Bool := Text.isBlank c && !(28 ≤ c.toNat && c.toNat ≤ 31)

/-- A sign in front of a text, and what follows it. -/
def sign : List Char → Bool × List Char
  | '-' :: rest => (true, rest)
  | '+' :: rest => (false, rest)
  | cs => (false, cs)

/-- How many digits an integer that is read may have. -/
def maxDigits : Nat := 4300

/-- The integer that a text writes. -/
def int? (s : String) : Option Int :=
  match sign (Text.trimWhile isSpace s.toList) with
  | (negative, cs) =>
    match digitRun cs with
    | ([], _) => none
    | (ds, []) =>
      if maxDigits < ds.length then none
      else some (if negative then -(ofDigits ds : Int) else ofDigits ds)
    | (_, _ :: _) => none

end CatalogCache.Decimal
