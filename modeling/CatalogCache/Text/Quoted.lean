import CatalogCache.Text
import CatalogCache.Text.Hex
import CatalogCache.Text.Printable

/-!
# Quoted texts

How a text is shown inside a message: between single quotes, or between double quotes when
it holds a single quote and no double one. The quote in use and the backslash get a
backslash, line feed, carriage return and tab have their letters, and every other code point
that is not printable is written by its number in two, four or eight hexadecimal digits. So
there is no surrogate in what is shown.
-/

namespace CatalogCache.Text

/-- The quote that surrounds a text. -/
def quoteMark (text : Text) : Char :=
  if text.contains (.char '\'') && !text.contains (.char '"') then '"' else '\''

/-- A code point by its number. -/
def numbered (n : Nat) : List Char :=
  if n < 0x100 then '\\' :: 'x' :: Hex.digits 2 n
  else if n < 0x10000 then '\\' :: 'u' :: Hex.digits 4 n
  else '\\' :: 'U' :: Hex.digits 8 n

/-- A character between the quotes `mark`. -/
def quotedChar (mark c : Char) : List Char :=
  if c = mark ∨ c = '\\' then ['\\', c]
  else if c = '\n' then ['\\', 'n']
  else if c = '\r' then ['\\', 'r']
  else if c = '\t' then ['\\', 't']
  else if isPrintable c then [c]
  else numbered c.toNat

/-- A code point between the quotes `mark`. -/
def quotedPoint (mark : Char) : CodePoint → List Char
  | .char c => quotedChar mark c
  | .surrogate n => numbered (CodePoint.surrogate n).toNat

/-- A text in quotes. -/
def quoted (text : Text) : String :=
  let mark := quoteMark text
  String.ofList (mark :: text.flatMap (quotedPoint mark) ++ [mark])

end CatalogCache.Text
