import CatalogCache.Encoding.Utf8
import CatalogCache.Text.Hex

/-!
# Where a byte string is not UTF-8

The first place at which a byte string is no UTF-8, and what is wrong there. Three things
can be: a byte that begins no character, a character that is broken off by another byte, and
a character that is broken off by the end.
-/

namespace CatalogCache.Utf8

/-- What is wrong with the bytes of a defect. -/
inductive Flaw where
  /-- The byte begins no character. -/
  | start
  /-- The character is broken off by another byte. -/
  | continuation
  /-- The character is broken off by the end. -/
  | truncated
  deriving DecidableEq, Repr

/-- The words for a flaw. -/
def Flaw.words : Flaw → String
  | .start => "invalid start byte"
  | .continuation => "invalid continuation byte"
  | .truncated => "unexpected end of data"

/-- The first place at which a byte string is not UTF-8. -/
structure Defect where
  /-- How many bytes come before. -/
  position : Nat
  /-- The bytes there. -/
  bytes : Bytes
  /-- What is wrong with them. -/
  flaw : Flaw
  deriving DecidableEq, Repr

/-- What is wrong with malformed bytes; `isLast` says that nothing follows them. -/
def flawOf (bytes : Bytes) (isLast : Bool) : Flaw :=
  match bytes with
  | [] => .start
  | b :: _ => if width b = 0 then .start else if isLast then .truncated else .continuation

/-- The first malformed piece, after `position` bytes. -/
def firstDefect (position : Nat) : List Piece → Option Defect
  | [] => none
  | .char c :: rest => firstDefect (position + (String.utf8EncodeChar c).length) rest
  | .malformed bytes :: rest => some ⟨position, bytes, flawOf bytes rest.isEmpty⟩

/-- The first defect of a byte string. -/
def defect? (bytes : Bytes) : Option Defect := firstDefect 0 (pieces bytes)

def Defect.message (defect : Defect) : String :=
  let start := defect.position
  let words := defect.flaw.words
  match defect.bytes with
  | [b] =>
    let digits := String.ofList (Hex.digits 2 b.toNat)
    s!"'utf-8' codec can't decode byte 0x{digits} in position {start}: {words}"
  | bytes =>
    let last := start + bytes.length - 1
    s!"'utf-8' codec can't decode bytes in position {start}-{last}: {words}"

/-- A byte string has a defect exactly if it is not UTF-8. -/
theorem defect?_isSome_iff (bytes : Bytes) : (defect? bytes).isSome ↔ decode? bytes = none := by
  have go : ∀ (ps : List Piece) (n : Nat), (firstDefect n ps).isSome ↔ chars? ps = none := by
    intro ps
    induction ps with
    | nil => intro n; simp [firstDefect, chars?]
    | cons p rest ih =>
      intro n
      cases p with
      | char c => simp [firstDefect, chars?, ih]
      | malformed bs => simp [firstDefect, chars?]
  exact go (pieces bytes) 0

end CatalogCache.Utf8
