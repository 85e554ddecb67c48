import SensorGateway.Text.Parts

/-!
# What trimming takes off and what it leaves

`dropWhile` and `dropEnd` take characters of a kind off one end of a text, as many as there are:
what is left has another character at that end, or none at all.  A text is `Trimmed` if neither end
is blank, and trimming is finding the only such text with nothing but blanks around it.
-/

namespace SensorGateway.Text

variable {p : Char → Bool} {before core after cs : List Char}

/-! ## One end -/

/-- What is left behind dropped characters does not begin with one of that kind. -/
theorem head_dropWhile (cs : List Char) : ∀ c ∈ (cs.dropWhile p).head?, p c = false := by
  intro c hc
  have hnot := List.head?_dropWhile_not p cs
  rw [Option.mem_def.mp hc] at hnot
  exact hnot

/-- Dropping characters of a kind stops at the first one of another kind. -/
theorem dropWhile_append_core (hbefore : ∀ c ∈ before, p c = true)
    (hcore : ∀ c ∈ core.head?, p c = false) : (before ++ core).dropWhile p = core := by
  rw [List.dropWhile_append_of_pos hbefore]
  cases core with
  | nil => rfl
  | cons c core => rw [List.dropWhile_cons_of_neg (by simp [hcore c rfl])]

/-- A text from whose end characters of a kind have been dropped does not end with one. -/
theorem last_dropEnd (cs : List Char) : ∀ c ∈ (dropEnd p cs).getLast?, p c = false := by
  rw [dropEnd, List.getLast?_reverse]
  exact head_dropWhile cs.reverse

/-- Dropping characters of a kind from the end stops at the last one of another kind. -/
theorem dropEnd_append_core (hcore : ∀ c ∈ core.getLast?, p c = false)
    (hafter : ∀ c ∈ after, p c = true) : dropEnd p (core ++ after) = core := by
  have hreverse : (after.reverse ++ core.reverse).dropWhile p = core.reverse := by
    apply dropWhile_append_core
    · intro c hc
      exact hafter c (List.mem_reverse.mp hc)
    · rwa [List.head?_reverse]
  rw [dropEnd, List.reverse_append, hreverse, List.reverse_reverse]

/-- From a text that ends with a character of another kind nothing is dropped. -/
theorem dropEnd_of_last (hlast : ∀ c ∈ cs.getLast?, p c = false) : dropEnd p cs = cs := by
  have hdrop : dropEnd p (cs ++ []) = cs := dropEnd_append_core hlast nofun
  rwa [List.append_nil] at hdrop

/-- What is dropped from the end of a text is of that kind. -/
theorem exists_dropEnd_append (p : Char → Bool) (cs : List Char) :
    ∃ after, cs = dropEnd p cs ++ after ∧ ∀ c ∈ after, p c = true := by
  refine ⟨(cs.reverse.takeWhile p).reverse, ?_, ?_⟩
  · rw [dropEnd, ← List.reverse_append, List.takeWhile_append_dropWhile, List.reverse_reverse]
  · intro c hc
    exact List.all_eq_true.mp List.all_takeWhile c (List.mem_reverse.mp hc)

/-! ## Both ends -/

/-- Neither end of a text is blank. -/
structure Trimmed (cs : List Char) : Prop where
  head : ∀ c ∈ cs.head?, isBlank c = false
  last : ∀ c ∈ cs.getLast?, isBlank c = false

/-- A text without blanks has none around it. -/
theorem Trimmed.of_no_blank (h : ∀ c ∈ cs, isBlank c = false) : Trimmed cs where
  head := fun c hc => h c (List.mem_of_mem_head? hc)
  last := fun c hc => h c (List.mem_of_mem_getLast? hc)

/-- Of blanks around a trimmed text that text is left. -/
theorem trim_append_core (hbefore : ∀ c ∈ before, isBlank c = true) (hcore : Trimmed core)
    (hafter : ∀ c ∈ after, isBlank c = true) : trim (before ++ core ++ after) = core := by
  cases core with
  | nil =>
      have hall : ∀ c ∈ before ++ after, isBlank c = true :=
        List.forall_mem_append.mpr ⟨hbefore, hafter⟩
      have hdrop : (before ++ after ++ []).dropWhile isBlank = [] :=
        dropWhile_append_core hall nofun
      rw [List.append_nil] at hdrop ⊢
      rw [trim, hdrop]
      rfl
  | cons c core =>
      have hhead : ∀ d ∈ (c :: core ++ after).head?, isBlank d = false := hcore.head
      rw [trim, List.append_assoc, dropWhile_append_core hbefore hhead,
        dropEnd_append_core hcore.last hafter]

/-- A text without blanks around it is trimmed already. -/
theorem Trimmed.trim_eq (h : Trimmed cs) : trim cs = cs := by
  have htrim : trim ([] ++ cs ++ []) = cs := trim_append_core nofun h nofun
  rwa [List.nil_append, List.append_nil] at htrim

/-- What trimming takes off is blank. -/
theorem exists_trim_append (cs : List Char) :
    ∃ before after, cs = before ++ trim cs ++ after ∧
      (∀ c ∈ before, isBlank c = true) ∧ ∀ c ∈ after, isBlank c = true := by
  obtain ⟨after, hrest, hafter⟩ := exists_dropEnd_append isBlank (cs.dropWhile isBlank)
  refine ⟨cs.takeWhile isBlank, after, ?_, ?_, hafter⟩
  · rw [List.append_assoc, trim, ← hrest, List.takeWhile_append_dropWhile]
  · intro c hc
    exact List.all_eq_true.mp List.all_takeWhile c hc

/-- What trimming leaves is trimmed. -/
theorem trimmed_trim (cs : List Char) : Trimmed (trim cs) where
  head := by
    obtain ⟨after, hrest, -⟩ := exists_dropEnd_append isBlank (cs.dropWhile isBlank)
    intro c hc
    have hhead : c ∈ (trim cs ++ after).head? := by
      rw [List.head?_append, Option.mem_def.mp hc]
      rfl
    rw [trim, ← hrest] at hhead
    exact head_dropWhile cs c hhead
  last := last_dropEnd _

/-- A character that is not blank stays at the end of a text when the blanks behind it go. -/
theorem getLast?_trim_append_cons {c : Char} (hc : isBlank c = false)
    (hafter : ∀ d ∈ after, isBlank d = true) :
    (trim (before ++ c :: after)).getLast? = some c := by
  have hdrop : (before ++ c :: after).dropWhile isBlank
      = before.dropWhile isBlank ++ [c] ++ after := by
    rw [List.dropWhile_append, List.dropWhile_cons_of_neg (by simp [hc]), List.append_assoc]
    split
    next hnil =>
      rw [List.isEmpty_iff.mp hnil]
      rfl
    next => rfl
  have hlast : ∀ d ∈ (before.dropWhile isBlank ++ [c]).getLast?, isBlank d = false := by
    rw [List.getLast?_concat]
    rintro _ ⟨⟩
    exact hc
  rw [trim, hdrop, dropEnd_append_core hlast hafter, List.getLast?_concat]

/-- Trimming makes no text longer. -/
theorem length_trim_le (cs : List Char) : (trim cs).length ≤ cs.length := by
  obtain ⟨before, after, hcs, -⟩ := exists_trim_append cs
  have hlength := congrArg List.length hcs
  simp only [List.length_append] at hlength
  omega

end SensorGateway.Text
