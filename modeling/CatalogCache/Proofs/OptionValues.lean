import CatalogCache.CommandLine

/-!
# Options without a value

Two dashes after an equals sign leave an option without a value. Nothing else does: the value of
an option is a whole argument or the end of one (`suffix_of_classify`), and it is taken away only
if it is two dashes. So where no argument ends in two dashes no port is left without a value
(`port_of_parse`). The argument follows the two readings, the one that tells arguments apart
(`tokens_spec`) and the one that goes through them (`port_of_collect`).
-/

namespace CatalogCache.CommandLine

/-- A text ends in two dashes. -/
def EndsInDashes (cs : List Char) : Prop := ['-', '-'] <:+ cs

/-- A token is one of an argument: the value that is part of it is the end of the argument. -/
def Token.IsOf (token : Token) (argument : String) : Prop :=
  ∀ flag short value, token = .option flag short (some value) → value.toList <:+ argument.toList

theorem suffix_of_splitValue {cs name : List Char} {value : String}
    (h : splitValue cs = (name, some value)) : value.toList <:+ cs := by
  unfold splitValue at h
  split at h
  · exact absurd h (by simp)
  · rename_i c rest hrest
    have hvalue : String.ofList rest = value := Option.some.inj (Prod.mk.inj h).2
    have hback : c :: rest <:+ cs := by
      rw [← hrest]
      exact List.dropWhile_suffix _
    rw [← hvalue, String.toList_ofList]
    exact (List.suffix_cons c rest).trans hback

theorem not_option_classifyOther {cs : List Char} {flag : Flag} {short : Bool}
    {value : Option String} : classifyOther cs ≠ .option flag short value := by
  rw [classifyOther]
  split <;> simp

theorem suffix_of_classifyLong {cs : List Char} {value : String} {flag : Flag} {short : Bool}
    (h : classifyLong cs = .ok (.option flag short (some value))) : value.toList <:+ cs := by
  unfold classifyLong at h
  dsimp only at h
  split at h
  · exact absurd (Except.ok.inj h) not_option_classifyOther
  · obtain ⟨-, -, hvalue⟩ := Token.option.inj (Except.ok.inj h)
    exact suffix_of_splitValue (Prod.ext rfl hvalue)
  · exact absurd h (by simp)

/-- The value that is part of an argument is the end of it. -/
theorem suffix_of_classify {argument value : String} {flag : Flag} {short : Bool}
    (h : classify argument = .ok (.option flag short (some value))) :
    value.toList <:+ argument.toList := by
  unfold classify at h
  dsimp only at h
  split at h
  · exact absurd h (by simp)
  · exact absurd h (by simp)
  · rename_i first rest _ hcs
    split at h
    · exact absurd h (by simp)
    split at h
    · exact absurd h (by simp)
    split at h
    · exact absurd h (by simp)
    split at h
    · -- a full name with an equals sign
      rename_i hsplit
      obtain ⟨-, -, hvalue⟩ := Token.option.inj (Except.ok.inj h)
      rw [← Option.some.inj hvalue]
      exact suffix_of_splitValue (Prod.ext rfl hsplit)
    split at h
    · exact suffix_of_classifyLong h
    · obtain ⟨-, -, hvalue⟩ := Token.option.inj (Except.ok.inj h)
      rw [← Option.some.inj hvalue, String.toList_ofList, hcs]
      exact (List.suffix_cons 'h' _).trans (List.suffix_cons first _)
    · exact absurd (Except.ok.inj h) not_option_classifyOther

/-- What is found in the arguments are these arguments, each with a token of it. -/
theorem tokens_spec {arguments : List String} {found : List (String × Token)}
    (h : tokens arguments = .ok found) :
    ∀ x ∈ found, x.1 ∈ arguments ∧ x.2.IsOf x.1 := by
  induction arguments generalizing found with
  | nil =>
    obtain rfl := Except.ok.inj h
    exact fun x hx => absurd hx List.not_mem_nil
  | cons argument rest ih =>
    unfold tokens at h
    split at h
    · exact absurd h (by simp)
    · obtain rfl := Except.ok.inj h
      refine List.forall_mem_cons.2 ⟨⟨List.mem_cons_self, nofun⟩, ?_⟩
      intro x hx
      obtain ⟨other, hother, rfl⟩ := List.mem_map.1 hx
      exact ⟨List.mem_cons_of_mem argument hother, nofun⟩
    · rename_i token _ htoken
      cases hrest : tokens rest with
      | error error =>
        rw [hrest] at h
        exact absurd h (by simp [Except.map])
      | ok found' =>
        rw [hrest] at h
        obtain rfl := Except.ok.inj h
        refine List.forall_mem_cons.2 ⟨⟨List.mem_cons_self, ?_⟩, ?_⟩
        · rintro flag short value rfl
          exact suffix_of_classify htoken
        · intro x hx
          obtain ⟨hmem, hvalue⟩ := ih hrest x hx
          exact ⟨List.mem_cons_of_mem argument hmem, hvalue⟩

/-- A port is left without a value by two dashes only. -/
theorem port_of_assign {flag : Flag} {text : String} {o o' : Overrides}
    (h : assign flag text o = .ok o') (ho : o.port ≠ .absent .empty) (htext : text ≠ "--") :
    o'.port ≠ .absent .empty := by
  cases flag with
  | help => exact absurd h (by simp [assign])
  | host | format | storageUrl =>
    obtain rfl := Except.ok.inj h
    exact ho
  | port =>
    rw [assign, given, if_neg htext, givenInt] at h
    cases hint : Decimal.int? text with
    | none =>
      rw [hint] at h
      exact absurd h (by simp [Except.map])
    | some n =>
      rw [hint] at h
      obtain rfl := Except.ok.inj h
      exact nofun

theorem helpAgain_ne_run (value : List Char) (o : Overrides) : helpAgain value ≠ .ok (.run o) := by
  fun_induction helpAgain value with
  | case1 => simp
  | case2 rest _ ih => exact ih
  | case3 value => simp

theorem ne_dashes_of_suffix {argument text : String} (hend : ¬ EndsInDashes argument.toList)
    (hsuffix : text.toList <:+ argument.toList) : text ≠ "--" := by
  rintro rfl
  exact hend hsuffix

/-- Where no argument ends in two dashes, no port is left without a value. -/
theorem port_of_collect {o o' : Overrides} {spare : List String} {found : List (String × Token)}
    (h : collect o spare found = .ok (.run o')) (ho : o.port ≠ .absent .empty)
    (hfound : ∀ x ∈ found, ¬ EndsInDashes x.1.toList ∧ x.2.IsOf x.1) :
    o'.port ≠ .absent .empty := by
  fun_induction collect o spare found with
  | case1 o spare =>
    obtain rfl := Request.run.inj (Except.ok.inj h)
    exact ho
  | case2 | case3 | case6 | case8 | case9 => exact absurd h (by simp)
  | case4 o spare argument value rest => exact absurd h (helpAgain_ne_run _ _)
  | case5 o spare argument flag short value rest _ o₁ hassign ih =>
    obtain ⟨⟨hend, hvalue⟩, hrest⟩ := List.forall_mem_cons.1 hfound
    have htext := ne_dashes_of_suffix hend (hvalue flag short value rfl)
    exact ih h (port_of_assign hassign ho htext) hrest
  | case7 o spare argument flag short value rest _ o₁ hassign ih =>
    obtain ⟨-, hnext⟩ := List.forall_mem_cons.1 hfound
    obtain ⟨⟨hend, -⟩, hrest⟩ := List.forall_mem_cons.1 hnext
    have htext := ne_dashes_of_suffix hend (List.suffix_refl value.toList)
    exact ih h (port_of_assign hassign ho htext) hrest
  | case10 o spare argument rest ih | case11 o spare argument rest ih
  | case12 o spare argument rest ih => exact ih h ho (List.forall_mem_cons.1 hfound).2

theorem port_of_parse {arguments : List String} {o : Overrides}
    (h : parse arguments = .ok (.run o))
    (hend : ∀ argument ∈ arguments, ¬ EndsInDashes argument.toList) :
    o.port ≠ .absent .empty := by
  rw [parse] at h
  cases hfound : tokens arguments with
  | error error =>
    rw [hfound] at h
    exact absurd h (by simp)
  | ok found =>
    rw [hfound] at h
    refine port_of_collect h (by simp [Overrides.none]) ?_
    intro x hx
    obtain ⟨hmem, hvalue⟩ := tokens_spec hfound x hx
    exact ⟨hend x.1 hmem, hvalue⟩

end CatalogCache.CommandLine
