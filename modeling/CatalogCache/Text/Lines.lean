/-!
# Lines of a text

A text is a sequence of lines, each ended by a line break. The last line may lack its
break; after a break at the very end of the text there is no further line. A carriage
return and the line feed after it are one break.
-/

namespace CatalogCache.Text

/-- The characters at which a line ends. -/
def isLineBreak (c : Char) : Bool :=
  let n := c.toNat
  (10 ≤ n && n ≤ 13) || (28 ≤ n && n ≤ 30) || n == 0x85 || n == 0x2028 || n == 0x2029

/-- Puts a character in front of the first line. -/
def consLine (c : Char) : List (List Char) → List (List Char)
  | [] => [[c]]
  | line :: rest => (c :: line) :: rest

/-- The lines of a text, without their breaks. -/
def lines : List Char → List (List Char)
  | [] => []
  | '\r' :: '\n' :: rest => [] :: lines rest
  | c :: rest => if isLineBreak c then [] :: lines rest else consLine c (lines rest)

/-- A character that is no break stands at the front of the first line. -/
theorem lines_cons_of_no_break {c : Char} (h : isLineBreak c = false) (cs : List Char) :
    lines (c :: cs) = consLine c (lines cs) := by
  have hr : c ≠ '\r' := by
    intro e
    rw [e] at h
    exact absurd h (by decide)
  rw [lines]
  · rw [h]
    rfl
  · intro rest e
    exact fun _ => hr e

/-- A text that holds no break is one line. -/
theorem lines_of_no_break {cs : List Char} (h : ∀ c ∈ cs, isLineBreak c = false)
    (hne : cs ≠ []) : lines cs = [cs] := by
  induction cs with
  | nil => exact absurd rfl hne
  | cons c rest ih =>
    rw [lines_cons_of_no_break (h c (by simp))]
    cases rest with
    | nil => rfl
    | cons d rest' =>
      rw [ih (fun x hx => h x (by simp [hx])) (by simp)]
      rfl

/-- A line feed ends the first line. -/
theorem lines_append_feed {cs : List Char} (h : ∀ c ∈ cs, isLineBreak c = false)
    (rest : List Char) : lines (cs ++ '\n' :: rest) = cs :: lines rest := by
  induction cs with
  | nil =>
    rw [List.nil_append, lines]
    · rfl
    · intro rest' e
      exact absurd e (by decide)
  | cons c cs ih =>
    rw [List.cons_append, lines_cons_of_no_break (h c (by simp)),
      ih (fun x hx => h x (by simp [hx]))]
    rfl

end CatalogCache.Text
