import CatalogCache.Proofs.FileReadings
import CatalogCache.Text.Fields
import Mathlib.Data.List.Basic

/-!
# Values between quotes

A file takes a good deal of freedom with its lines: it drops blank space, cuts at the first equals
sign, and takes quotes away. A value is safe from all of it between double quotes. Whatever stands
there is copied as it is, with the quotes, number signs, equals signs and blank space that it may
hold, and nothing has to be escaped (`DotEnv.pair?_quotedLine`). Only what ends a line or a text
cannot be written so (`IsOneLine`). A name has no quotes around it, so more can go wrong with it
(`IsPlainName`).

So a file of such lines sets exactly the variables that it was written for (`load_quotedText`).
-/

namespace CatalogCache

namespace DotEnv

/-- A text can stand in a line, and in a variable. -/
def IsOneLine (s : String) : Prop := ∀ c ∈ s.toList, c ≠ '\x00' ∧ Text.isLineBreak c = false

instance (s : String) : Decidable (IsOneLine s) :=
  List.decidableBAll (fun c => c ≠ '\x00' ∧ Text.isLineBreak c = false) s.toList

/-- A name is read as it stands in front of a line. -/
structure IsPlainName (name : String) : Prop where
  ne_empty : name ≠ ""
  no_equals : '=' ∉ name.toList
  /-- It begins with no blank space, and with no number sign. -/
  head : ∀ c, name.toList.head? = some c → Text.isBlank c = false ∧ c ≠ '#'
  /-- It ends with no blank space. -/
  last : ∀ c, name.toList.getLast? = some c → Text.isBlank c = false

/-- A value between double quotes. -/
def quotedValue (value : String) : List Char := '"' :: (value.toList ++ ['"'])

/-- The line that sets a variable, with the value between double quotes. -/
def quotedLine (name value : String) : List Char := name.toList ++ '=' :: quotedValue value

/-- A file of such lines, with what stands behind the last of them. -/
def quotedText (pairs : List (String × String)) (final : String) : String :=
  String.ofList (Text.joinFields '\n' (pairs.map fun pair => quotedLine pair.1 pair.2)) ++ final

/-! ## One line -/

theorem trim_quotedValue (value : String) : Text.trim (quotedValue value) = quotedValue value := by
  refine Text.trim_eq_self ?_ ?_
  · intro c hc
    obtain rfl := Option.some.inj hc
    decide
  · intro c hc
    rw [quotedValue, ← List.cons_append, List.getLast?_append] at hc
    obtain rfl := Option.some.inj hc
    decide

theorem unquote_quotedValue (value : String) : unquote (quotedValue value) = value.toList := by
  have hlast : (value.toList ++ ['"']).getLast? = some '"' := by simp
  rw [quotedValue, unquote, if_pos ⟨Or.inr rfl, hlast⟩, List.dropLast_concat]

section Line

variable {name : String} (h : IsPlainName name) (value : String)

include h

theorem exists_cons_of_isPlainName : ∃ c rest, name.toList = c :: rest ∧
    Text.isBlank c = false ∧ c ≠ '#' := by
  cases hname : name.toList with
  | nil => exact absurd (String.toList_eq_nil_iff.1 hname) h.ne_empty
  | cons c rest => exact ⟨c, rest, rfl, h.head c (by rw [hname]; rfl)⟩

theorem trim_quotedLine : Text.trim (quotedLine name value) = quotedLine name value := by
  obtain ⟨c, rest, hname, hblank, -⟩ := exists_cons_of_isPlainName h
  refine Text.trim_eq_self ?_ ?_
  · intro d hd
    rw [quotedLine, hname] at hd
    obtain rfl := Option.some.inj hd
    exact hblank
  · intro d hd
    have hquote : (quotedLine name value).getLast? = some '"' := by
      simp [quotedLine, quotedValue, List.getLast?_append, List.getLast?_cons]
    obtain rfl := Option.some.inj (hquote.symm.trans hd)
    decide

theorem takeWhile_quotedLine :
    (quotedLine name value).takeWhile (· != '=') = name.toList ∧
      (quotedLine name value).dropWhile (· != '=') = '=' :: quotedValue value := by
  have hname : ∀ c ∈ name.toList, (c != '=') = true := by
    intro c hc
    rw [bne_iff_ne]
    intro e
    exact h.no_equals (e ▸ hc)
  rw [quotedLine, List.takeWhile_append_of_pos hname, List.dropWhile_append_of_pos hname]
  exact ⟨by simp, by simp⟩

/-- A line with a value between quotes sets this value, whatever it is. -/
theorem pair?_quotedLine : pair? (quotedLine name value) = some (name, value) := by
  obtain ⟨c, rest, hname, -, hsign⟩ := exists_cons_of_isPlainName h
  have htrim : Text.trim name.toList = name.toList :=
    Text.trim_eq_self (fun c hc => (h.head c hc).1) h.last
  obtain ⟨htake, hdrop⟩ := takeWhile_quotedLine h value
  have hfirst : (quotedLine name value).head? ≠ some '#' := by
    rw [quotedLine, hname]
    intro e
    exact hsign (Option.some.inj e)
  rw [pair?, trim_quotedLine h value, if_neg hfirst, hdrop, htake, htrim]
  dsimp only
  rw [trim_quotedValue, unquote_quotedValue, String.ofList_toList, String.ofList_toList]

end Line

theorem no_break_of_quotedLine {name value : String} (hname : IsOneLine name)
    (hvalue : IsOneLine value) : ∀ c ∈ quotedLine name value, Text.isLineBreak c = false := by
  intro c hc
  simp only [quotedLine, quotedValue, List.mem_append, List.mem_cons, List.not_mem_nil,
    or_false] at hc
  rcases hc with hc | rfl | rfl | hc | rfl
  · exact (hname c hc).2
  · decide
  · decide
  · exact (hvalue c hc).2
  · decide

end DotEnv

/-! ## All lines -/

/-- Lines with line feeds between them are lines again, also if the last of them is ended too. -/
theorem Text.lines_joinFields {ls : List (List Char)} {final : List Char}
    (hfinal : final = [] ∨ final = ['\n']) (hls : ls ≠ [])
    (h : ∀ line ∈ ls, line ≠ [] ∧ ∀ c ∈ line, isLineBreak c = false) :
    lines (joinFields '\n' ls ++ final) = ls := by
  induction ls with
  | nil => exact absurd rfl hls
  | cons line rest ih =>
    obtain ⟨hne, hbreak⟩ := h line List.mem_cons_self
    cases rest with
    | nil =>
      rw [joinFields]
      rcases hfinal with rfl | rfl
      · rw [List.append_nil, lines_of_no_break hbreak hne]
      · rw [lines_append_feed hbreak]
        rfl
    | cons line' rest =>
      have htail : joinFields '\n' (line :: line' :: rest) =
          line ++ '\n' :: joinFields '\n' (line' :: rest) := rfl
      rw [htail, List.append_assoc, List.cons_append, lines_append_feed hbreak,
        ih (by simp) fun l hl => h l (List.mem_cons_of_mem _ hl)]

namespace DotEnv

/-- A file of lines with values between quotes sets the pairs that it is made of. -/
theorem pairs_quotedText {pairs : List (String × String)}
    (hnames : ∀ pair ∈ pairs, IsPlainName pair.1)
    (hlines : ∀ pair ∈ pairs, IsOneLine pair.1 ∧ IsOneLine pair.2) {final : String}
    (hfinal : final = "" ∨ final = "\n") :
    DotEnv.pairs (quotedText pairs final).toList = pairs := by
  have hend : final.toList = [] ∨ final.toList = ['\n'] := by
    rcases hfinal with rfl | rfl
    · exact Or.inl rfl
    · exact Or.inr rfl
  rw [DotEnv.pairs, quotedText, String.toList_append, String.toList_ofList]
  by_cases hne : pairs = []
  · -- what is left are no lines, or an empty one
    subst hne
    rcases hend with hend | hend
    · rw [hend]
      rfl
    · rw [hend]
      decide
  · have hquoted : ∀ line ∈ pairs.map (fun pair => quotedLine pair.1 pair.2),
        line ≠ [] ∧ ∀ c ∈ line, Text.isLineBreak c = false := by
      intro line hline
      obtain ⟨pair, hp, rfl⟩ := List.mem_map.1 hline
      refine ⟨by simp [quotedLine], ?_⟩
      exact no_break_of_quotedLine (hlines pair hp).1 (hlines pair hp).2
    rw [Text.lines_joinFields hend (by simpa using hne) hquoted, List.filterMap_map]
    have hread : ∀ pair ∈ pairs,
        (pair? ∘ fun pair => quotedLine pair.1 pair.2) pair = some pair := by
      intro pair hp
      obtain ⟨name, value⟩ := pair
      rw [Function.comp_apply]
      exact pair?_quotedLine (hnames _ hp) value
    rw [List.filterMap_congr hread, List.filterMap_some]

/-- No variable with a plain name and no NUL is refused. -/
theorem not_isRefused {name value : String} (hname : IsPlainName name) (h : IsOneLine name)
    (hvalue : IsOneLine value) : ¬ IsRefused name value := by
  intro hrefused
  rcases hrefused with hempty | hnul | hnul
  · exact hname.ne_empty hempty
  · exact (h _ hnul).1 rfl
  · exact (hvalue _ hnul).1 rfl

theorem additions_empty {pairs : List (String × String)} (h : (Keyed.keys pairs).Nodup) :
    additions .empty pairs = pairs := by
  rw [additions, Keyed.firsts_of_nodup h, List.filter_eq_self]
  intro pair _
  rfl

end DotEnv

namespace Variables

open DotEnv (IsOneLine IsPlainName quotedText)

/--
**Values between double quotes are read back as they are.**

Let a file be made of lines with a name, an equals sign, and a value between double quotes, with or
without a line feed behind the last one. Let the names be all different and plain, and let neither
names nor values hold a NUL or a character that ends a line. Read into a process without variables,
the file sets each name to its value, in the order of the lines, and nothing else.
-/
theorem load_quotedText {pairs : List (String × String)}
    (hdistinct : (Keyed.keys pairs).Nodup) (hnames : ∀ pair ∈ pairs, IsPlainName pair.1)
    (hlines : ∀ pair ∈ pairs, IsOneLine pair.1 ∧ IsOneLine pair.2) {final : String}
    (hfinal : final = "" ∨ final = "\n") :
    let outcome := load ⟨.empty, false⟩ (some (Utf8.encodeString (quotedText pairs final)))
    outcome.2 = none ∧ outcome.1.environment.slots = pairs := by
  intro outcome
  have hread := DotEnv.pairs_quotedText hnames hlines hfinal
  have hnot : ¬ DotEnv.MeetsRefused .empty pairs := by
    intro hmeets
    obtain ⟨before, name, value, after, hpairs, -, hrefused⟩ := hmeets
    have hmem : (name, value) ∈ pairs := by simp [hpairs]
    exact DotEnv.not_isRefused (hnames _ hmem) (hlines _ hmem).1 (hlines _ hmem).2 hrefused
  have hnone : (DotEnv.bindAll .empty pairs).2 = none :=
    (DotEnv.bindAll_eq_none_iff fun pair hp => (hnames pair hp).no_equals).2 hnot
  have hslots := DotEnv.slots_bindAll hnone
  rw [DotEnv.additions_empty hdistinct] at hslots
  have houtcome : outcome = (⟨(DotEnv.bindAll .empty pairs).1, true⟩, none) := by
    show load _ _ = _
    rw [load_of_unread, DotEnv.load_encodeString, hread, hnone]
    rfl
  rw [houtcome]
  exact ⟨rfl, hslots⟩

/-- A value may begin and end with quotes, a name may hold blank space, and a value may be
empty. -/
theorem load_quotedText_signs :
    let pairs := [("A b", "\"# ='"), ("C", "")]
    ((Keyed.keys pairs).Nodup ∧ (∀ pair ∈ pairs, IsPlainName pair.1) ∧
      (∀ pair ∈ pairs, IsOneLine pair.1 ∧ IsOneLine pair.2) ∧ ("\n" = "" ∨ "\n" = "\n")) ∧
      let outcome := load ⟨.empty, false⟩ (some (Utf8.encodeString (quotedText pairs "\n")))
      outcome.2 = none ∧ outcome.1.environment.slots = pairs := by
  intro pairs
  have hdistinct : (Keyed.keys pairs).Nodup := by decide
  have hnames : ∀ pair ∈ pairs, IsPlainName pair.1 := by
    intro pair hp
    simp only [pairs, List.mem_cons, List.not_mem_nil, or_false] at hp
    rcases hp with rfl | rfl
    · refine ⟨by decide, by decide, fun c hc => ?_, fun c hc => ?_⟩
      · obtain rfl : 'A' = c := Option.some.inj hc
        decide
      · obtain rfl : 'b' = c := Option.some.inj hc
        decide
    · refine ⟨by decide, by decide, fun c hc => ?_, fun c hc => ?_⟩
      · obtain rfl : 'C' = c := Option.some.inj hc
        decide
      · obtain rfl : 'C' = c := Option.some.inj hc
        decide
  have hlines : ∀ pair ∈ pairs, IsOneLine pair.1 ∧ IsOneLine pair.2 := by decide
  have hfinal : "\n" = "" ∨ "\n" = "\n" := Or.inr rfl
  exact ⟨⟨hdistinct, hnames, hlines, hfinal⟩,
    load_quotedText hdistinct hnames hlines hfinal⟩

end Variables

end CatalogCache
