import CatalogCache.Encoding.Percent
import CatalogCache.Keyed
import CatalogCache.Text
import CatalogCache.Text.Fields

/-!
# Queries

A query is a row of parameters with an ampersand between them. A parameter is a name and,
after the first equals sign, a value; without an equals sign the value is empty. In both a
plus sign is a space, and then percent-encoding is undone. Of parameters with one name the
first counts.

Main statement: `ofChars_encodeParameter`, a parameter that was percent-encoded is read back.
-/

namespace CatalogCache.Http.Query

/-- A plus sign stands for a space. -/
def plusToSpace (c : Char) : Char := if c = '+' then ' ' else c

/-- The text that a name or a value stands for. -/
def decodeText (cs : List Char) : String := String.ofList (Percent.decode (cs.map plusToSpace))

/-- A parameter: its name and its value. -/
def parameter (cs : List Char) : String × String :=
  (decodeText (cs.takeWhile (· != '=')), decodeText ((cs.dropWhile (· != '=')).drop 1))

/-- All parameters of a query in order. -/
def ofChars (cs : List Char) : List (String × String) :=
  ((Text.fields '&' cs).filter fun field => !field.isEmpty).map parameter

/-- All parameters of a query in order. -/
def ofString (query : String) : List (String × String) := ofChars query.toList

/-- The first value of a name. -/
def value? (query : String) (name : String) : Option String := Keyed.find? name (ofString query)

/-- The first value of a name, as a text. -/
def text? (query : String) (name : String) : Option Text := (value? query name).map .ofString

theorem text?_of_value? {query name value : String} (h : value? query name = some value) :
    text? query name = some (value : Text) := by
  rw [text?, h, Option.map_some]

/-- A query holds characters only. -/
theorem isString_of_text? {query name : String} {text : Text} (h : text? query name = some text) :
    text.IsString := by
  obtain ⟨s, -, rfl⟩ := Option.map_eq_some_iff.1 h
  exact Text.isString_ofString s

/-- The parameters by name, the first of each. -/
def first (query : String) : List (String × String) := Keyed.firsts (ofString query)

/-- A parameter as it stands in a query. -/
def encodeParameter (name value : String) : List Char :=
  Percent.encode Percent.isUnreserved name.toList ++
    '=' :: Percent.encode Percent.isUnreserved value.toList

/-! ## What was encoded is read back -/

/-- A choice of characters that may stand in the value of a parameter as they are. Those that
have a meaning there may not. -/
structure Safe (keep : Char → Bool) : Prop where
  percent : keep '%' = false
  plus : keep '+' = false
  ampersand : keep '&' = false

theorem safe_isUnreserved : Safe Percent.isUnreserved := ⟨rfl, rfl, rfl⟩

/-- The marks of a query are not part of an escape, so they are gone when they are encoded. -/
theorem not_mem_encode {keep : Char → Bool} {c : Char} (hk : keep c = false)
    (hc : c ∈ ['+', '&', '=']) (cs : List Char) : c ∉ Percent.encode keep cs := by
  have digits : ∀ n < 16, Hex.upper n ∉ ['+', '&', '='] := by decide
  intro h
  rw [Percent.encode, List.mem_flatMap] at h
  obtain ⟨b, _, hb⟩ := h
  have hlt := b.toNat_lt
  rw [Percent.encodeByte] at hb
  split at hb
  · rename_i hkeep
    rw [Bool.and_eq_true] at hkeep
    rw [List.mem_singleton] at hb
    rw [hb, hkeep.2] at hk
    exact Bool.noConfusion hk
  · rw [Percent.escape] at hb
    rcases List.mem_cons.1 hb with rfl | hb
    · exact absurd hc (by decide)
    · rcases List.mem_cons.1 hb with rfl | hb
      · exact digits _ (by omega) hc
      · rw [List.mem_singleton] at hb
        subst hb
        exact digits _ (by omega) hc

theorem decodeText_encode {keep : Char → Bool} (h : Safe keep) (s : String) :
    decodeText (Percent.encode keep s.toList) = s := by
  have hp : (Percent.encode keep s.toList).map plusToSpace = Percent.encode keep s.toList := by
    have same : ∀ c ∈ Percent.encode keep s.toList, plusToSpace c = id c := by
      intro c hc
      refine if_neg ?_
      rintro rfl
      exact not_mem_encode h.plus (by simp) s.toList hc
    rw [List.map_congr_left same, List.map_id]
  rw [decodeText, hp, Percent.decode_encode h.percent, String.ofList_toList]

/-- A name and a value with an equals sign between them are one parameter. -/
theorem ofChars_parameter {name value : List Char} (hn : '=' ∉ name) (hn' : '&' ∉ name)
    (hv : '&' ∉ value) :
    ofChars (name ++ '=' :: value) = [(decodeText name, decodeText value)] := by
  have hamp : '&' ∉ name ++ '=' :: value := by
    simp [hn', hv]
  have hname : ∀ c ∈ name, (c != '=') = true := by
    intro c hc
    refine bne_iff_ne.2 ?_
    rintro rfl
    exact hn hc
  have hone : [name ++ '=' :: value].filter (fun field => !field.isEmpty) =
      [name ++ '=' :: value] := by simp
  rw [ofChars, Text.fields_of_not_mem hamp, hone, List.map_singleton, parameter,
    List.takeWhile_append_of_pos hname, List.dropWhile_append_of_pos hname]
  simp

/-- A parameter that was percent-encoded is read back. -/
theorem ofChars_encodeParameter (name value : String) :
    ofChars (encodeParameter name value) = [(name, value)] := by
  rw [encodeParameter, ofChars_parameter (not_mem_encode rfl (by simp) _)
    (not_mem_encode rfl (by simp) _) (not_mem_encode rfl (by simp) _),
    decodeText_encode safe_isUnreserved, decodeText_encode safe_isUnreserved]

theorem value?_encodeParameter (name value : String) :
    value? (String.ofList (encodeParameter name value)) name = some value := by
  rw [value?, ofString, String.toList_ofList, ofChars_encodeParameter, Keyed.find?, if_pos rfl]

theorem text?_encodeParameter (name value : String) :
    text? (String.ofList (encodeParameter name value)) name = some (value : Text) :=
  text?_of_value? (value?_encodeParameter name value)

end CatalogCache.Http.Query
