import ApiDirectives.Proofs.Assembly.ByKey
import ApiDirectives.Proofs.Directive.Slots

/-!
# Searching for a constraint

A constraint is looked for in what is left of the line, whatever else stands there: behind each blank its
key and an equals sign are tried, and the first value that follows them is taken. These are the rules of
that search on a text known in parts; how the values are written does not matter to them.
-/

namespace ApiDirectives

open Text

namespace Line

/-! ## Blanks -/

theorem valueAfterBlank?_step (key : List Char) (c : Char) (cs : List Char) :
    valueAfterBlank? key (c :: cs) =
      (if isBlank c then valueAt? key cs else none).or (valueAfterBlank? key cs) := by
  conv => lhs; unfold valueAfterBlank?
  split
  · rename_i v hfound
    rw [hfound]
    rfl
  · rename_i hnone
    rw [hnone]
    rfl

theorem valueAfterBlank?_cons {c : Char} (hc : isBlank c = false) (key cs : List Char) :
    valueAfterBlank? key (c :: cs) = valueAfterBlank? key cs := by
  simp [valueAfterBlank?_step, hc]

/-- Where there is no blank, there is nothing to be found. -/
theorem valueAfterBlank?_append {before : List Char} (h : ∀ c ∈ before, isBlank c = false)
    (key cs : List Char) : valueAfterBlank? key (before ++ cs) = valueAfterBlank? key cs := by
  induction before with
  | nil => rfl
  | cons c before ih =>
    rw [List.cons_append, valueAfterBlank?_cons (h c List.mem_cons_self)]
    exact ih fun d hd => h d (List.mem_cons_of_mem c hd)

/-! ## Values -/

/-- A value does not begin with a blank. -/
theorem value?_blank {c : Char} (hc : isBlank c = true) (cs : List Char) : value? (c :: cs) = none := by
  have hquote : c ≠ '"' := by
    rintro rfl
    cases hc
  simp [value?, quoted?, between?, hquote, run?, isSolid, hc]

/-- A value without quotes goes up to a blank. -/
theorem value?_solid {c : Char} (hc : isBlank c = false) (hquote : c ≠ '"') (cs : List Char) :
    value? (c :: cs) = some ((c :: cs).takeWhile isSolid) := by
  simp [value?, quoted?, between?, hquote, run?, isSolid, hc]

/-- Whatever does not begin with a blank begins with a value. -/
theorem isSome_value? {c : Char} (hc : isBlank c = false) (cs : List Char) :
    (value? (c :: cs)).isSome = true := by
  unfold value?
  split
  · rfl
  · simp [run?, isSolid, hc]

/-! ## Keys -/

/-- A key has neither blanks nor quotes in it. -/
theorem key_chars (c : Constraint) :
    ∀ d ∈ c.key.toList, isBlank d = false ∧ isQuote d = false := by
  have hall : c.key.toList.all (fun d => !isBlank d && !isQuote d) = true := by
    cases c <;> decide
  simpa using hall

/-- Before an equals sign a key is found only if it stands there. -/
theorem dropLiteral?_key (c c' : Constraint) (rest : List Char) :
    dropLiteral? (c.key.toList ++ ['=']) (c'.key.toList ++ '=' :: rest) =
      if c' = c then some rest else none := by
  cases c <;> cases c' <;> rfl

end Line

/-- Listed under its key, a constraint has the value that it has in the slot. -/
theorem Directive.lookup_key_ofSlot (place : Option Place) (slot : Slot) (c : Constraint) :
    (ofSlot place slot).args.lookup c.key = slot.constraints.lookup c := by
  rw [← lookup_slotArgs]
  cases place with
  | none => rfl
  | some place =>
    have hkey : c.key ≠ "in" := by cases c <;> decide
    rw [ofSlot, args, List.lookup_cons, beq_eq_false_iff_ne.mpr hkey]

end ApiDirectives
