import ApiDirectives.Proofs.Text.Blank

/-!
# Lines of a text

A text is cut at eleven line ends, and a carriage return with a line feed behind it counts once. So a
line feed between two texts always ends a line of its own or completes a carriage return, and the lines
of the whole are those of the two texts with at most one empty line between them. The lines that a line
feed at the end makes sure of, the empty last one included, are the rows of a text; there is always one
row more than there are line ends.
-/

namespace ApiDirectives.Text

/-! ## Trimming twice -/

theorem dropWhile_dropWhile (p : Char → Bool) (cs : List Char) :
    (cs.dropWhile p).dropWhile p = cs.dropWhile p := by
  induction cs with
  | nil => rfl
  | cons c r ih =>
    by_cases hc : p c = true
    · rw [List.dropWhile_cons_of_pos hc, ih]
    · rw [List.dropWhile_cons_of_neg hc, List.dropWhile_cons_of_neg hc]

theorem dropEnd_dropEnd (p : Char → Bool) (cs : List Char) :
    dropEnd p (dropEnd p cs) = dropEnd p cs := by
  rw [dropEnd, dropEnd, List.reverse_reverse, dropWhile_dropWhile]

/-- What is dropped at the end is of the class, all of it. -/
theorem eq_dropEnd_append (p : Char → Bool) (cs : List Char) :
    ∃ rest, cs = dropEnd p cs ++ rest ∧ ∀ c ∈ rest, p c = true := by
  refine ⟨(cs.reverse.takeWhile p).reverse, ?_, ?_⟩
  · rw [dropEnd, ← List.reverse_append, List.takeWhile_append_dropWhile, List.reverse_reverse]
  · intro c hc
    exact List.mem_takeWhile_imp (List.mem_reverse.mp hc)

theorem prefix_dropEnd (p : Char → Bool) (cs : List Char) : dropEnd p cs <+: cs := by
  obtain ⟨rest, hcs, -⟩ := eq_dropEnd_append p cs
  exact ⟨rest, hcs.symm⟩

/-- What is left does not end in a character of the class. -/
theorem getLast?_dropEnd {p : Char → Bool} {cs : List Char} {c : Char}
    (h : c ∈ (dropEnd p cs).getLast?) : p c = false := by
  rw [dropEnd, List.getLast?_reverse] at h
  have hnot := List.head?_dropWhile_not p cs.reverse
  rw [h] at hnot
  simpa using hnot

/-- A trimmed text has nothing left to trim. -/
theorem trimOf_trimOf (p : Char → Bool) (cs : List Char) : trimOf p (trimOf p cs) = trimOf p cs := by
  have hkept : (trimOf p cs).dropWhile p = trimOf p cs := by
    cases htrim : trimOf p cs with
    | nil => rfl
    | cons c r =>
      have hhead : (cs.dropWhile p).head? = some c :=
        head?_dropEnd (by rw [← trimOf, htrim, List.head?_cons])
      have hc : ¬ p c = true := by
        have hnot := List.head?_dropWhile_not p cs
        rw [hhead] at hnot
        simpa using hnot
      exact List.dropWhile_cons_of_neg hc
  rw [trimOf, hkept, trimOf, dropEnd_dropEnd]

theorem mem_of_mem_trimOf {p : Char → Bool} {cs : List Char} {c : Char} (h : c ∈ trimOf p cs) :
    c ∈ cs :=
  (List.dropWhile_suffix p).mem ((prefix_dropEnd p _).mem h)

/-! ## Ends of lines -/

section Ends

variable {c : Char} {line cs rest : List Char}

/-- A line feed behind a text makes a pair only with a carriage return at its very end. -/
theorem head?_append_feed (hpair : ∀ r, c = '\r' → cs = '\n' :: r → False)
    (hlast : ¬ (c = '\r' ∧ cs = [])) (hc : c = '\r') : (cs ++ '\n' :: rest).head? ≠ some '\n' := by
  cases cs with
  | nil => exact absurd ⟨hc, rfl⟩ hlast
  | cons d r =>
    rintro ⟨⟩
    exact hpair r hc rfl

theorem linesFrom_feed (line rest : List Char) :
    linesFrom line ('\n' :: rest) = line.reverse :: linesOf rest :=
  linesFrom_end (by decide) (by simp)

end Ends

/-! ## Rows -/

/-- The lines of a text, where the last one counts even if it is empty. -/
def rowsOf (cs : List Char) : List (List Char) := linesOf (cs ++ ['\n'])

/-- What is read before a line feed does not change what is read after it. -/
theorem linesFrom_append_feed (line cs rest : List Char) :
    linesFrom line (cs ++ '\n' :: rest) = linesFrom line (cs ++ ['\n']) ++ linesOf rest := by
  fun_induction linesFrom line cs with
  | case1 line => rw [List.nil_append, List.nil_append, linesFrom_feed, linesFrom_feed]; rfl
  | case2 line => rw [List.nil_append, List.nil_append, linesFrom_feed, linesFrom_feed]; rfl
  | case3 line r ih =>
    simp only [List.cons_append, linesFrom_pair]
    rw [linesOf, ih]
    rfl
  | case4 line c r hpair hend ih =>
    by_cases hlast : c = '\r' ∧ r = []
    · -- A carriage return at the very end takes the line feed with it.
      obtain ⟨rfl, rfl⟩ := hlast
      rfl
    · rw [List.cons_append, List.cons_append, linesFrom_end hend (head?_append_feed hpair hlast),
        linesFrom_end hend (head?_append_feed hpair hlast), linesOf, ih]
      rfl
  | case5 line c r hpair hend ih =>
    have hchar : isLineEnd c = false := by simpa using hend
    rw [List.cons_append, List.cons_append, linesFrom_char hchar, linesFrom_char hchar, ih]

theorem linesOf_append_feed (cs rest : List Char) :
    linesOf (cs ++ '\n' :: rest) = rowsOf cs ++ linesOf rest :=
  linesFrom_append_feed [] cs rest

/-- The rows are the lines, and an empty one more if the text is empty or ends in a line end. -/
theorem linesFrom_concat_feed (line cs : List Char) :
    linesFrom line (cs ++ ['\n']) = linesFrom line cs ∨
      linesFrom line (cs ++ ['\n']) = linesFrom line cs ++ [[]] := by
  fun_induction linesFrom line cs with
  | case1 line hempty =>
    obtain rfl : line = [] := List.isEmpty_iff.mp hempty
    exact .inr rfl
  | case2 line hempty => exact .inl rfl
  | case3 line r ih =>
    rw [List.cons_append, List.cons_append, linesFrom_pair, linesOf]
    rcases ih with ih | ih
    · exact .inl (by rw [ih])
    · exact .inr (by rw [ih]; rfl)
  | case4 line c r hpair hend ih =>
    by_cases hlast : c = '\r' ∧ r = []
    · obtain ⟨rfl, rfl⟩ := hlast
      exact .inl rfl
    · rw [List.cons_append, linesFrom_end hend (head?_append_feed hpair hlast), linesOf]
      rcases ih with ih | ih
      · exact .inl (by rw [ih])
      · exact .inr (by rw [ih]; rfl)
  | case5 line c r hpair hend ih =>
    rw [List.cons_append, linesFrom_char (by simpa using hend)]
    exact ih

/-- A line goes on with what was read of it before. -/
theorem linesFrom_eq_cons (cs : List Char) :
    ∃ head tail, ∀ line, linesFrom line (cs ++ ['\n']) = (line.reverse ++ head) :: tail := by
  induction cs with
  | nil => exact ⟨[], [], fun line => by rw [List.nil_append, linesFrom_feed, List.append_nil]; rfl⟩
  | cons c r ih =>
    by_cases hc : isLineEnd c = true
    · by_cases hpair : c = '\r' ∧ (r ++ ['\n']).head? = some '\n'
      · obtain ⟨rfl, hhead⟩ := hpair
        obtain ⟨rest, hrest⟩ := List.head?_eq_some_iff.mp hhead
        refine ⟨[], linesOf rest, fun line => ?_⟩
        rw [List.cons_append, hrest, linesFrom_pair, List.append_nil]
      · refine ⟨[], rowsOf r, fun line => ?_⟩
        rw [List.cons_append, linesFrom_end hc fun hreturn hhead => hpair ⟨hreturn, hhead⟩,
          List.append_nil, rowsOf]
    · obtain ⟨head, tail, hrows⟩ := ih
      refine ⟨c :: head, tail, fun line => ?_⟩
      rw [List.cons_append, linesFrom_char (by simpa using hc), hrows]
      simp

theorem rowsOf_cons_end {c : Char} (hc : isLineEnd c = true) (hreturn : c ≠ '\r') (cs : List Char) :
    rowsOf (c :: cs) = [] :: rowsOf cs :=
  linesFrom_end hc fun h => absurd h hreturn

/-- What holds no line end stands at the front of the first row. -/
theorem rowsOf_append (line : List Char) (h : ∀ c ∈ line, isLineEnd c = false) (cs : List Char) :
    ∃ head tail, rowsOf cs = head :: tail ∧ rowsOf (line ++ cs) = (line ++ head) :: tail := by
  obtain ⟨head, tail, hrows⟩ := linesFrom_eq_cons cs
  refine ⟨head, tail, hrows [], ?_⟩
  have hread : ∀ read, linesFrom read (line ++ (cs ++ ['\n'])) =
      (read.reverse ++ (line ++ head)) :: tail := by
    induction line with
    | nil => exact hrows
    | cons c r ih =>
      intro read
      obtain ⟨hc, hr⟩ := List.forall_mem_cons.mp h
      rw [List.cons_append, linesFrom_char hc, ih hr]
      simp
  rw [rowsOf, linesOf, List.append_assoc, hread]
  rfl

/-- There is one row more than there are line ends. -/
theorem length_rowsOf {cs : List Char} (h : '\r' ∉ cs) :
    (rowsOf cs).length = cs.countP isLineEnd + 1 := by
  induction cs with
  | nil => rfl
  | cons c r ih =>
    obtain ⟨hc, hr⟩ := not_or.mp (List.mem_cons.not.mp h)
    by_cases hend : isLineEnd c = true
    · rw [rowsOf_cons_end hend (Ne.symm hc), List.length_cons, ih hr, List.countP_cons_of_pos hend]
    · obtain ⟨head, tail, hrows, hcons⟩ := rowsOf_append [c] (by simpa using hend) r
      rw [List.countP_cons_of_neg hend, ← ih hr, hrows]
      exact (congrArg List.length hcons).trans rfl

/-- A row has no character that the text lacks. -/
theorem mem_of_mem_linesFrom {line cs l : List Char} {c : Char} (h : l ∈ linesFrom line cs)
    (hc : c ∈ l) : c ∈ line ∨ c ∈ cs := by
  fun_induction linesFrom line cs with
  | case1 => cases h
  | case2 line =>
    rw [List.mem_singleton.mp h] at hc
    exact .inl (List.mem_reverse.mp hc)
  | case3 line r ih | case4 line _ r _ _ ih =>
    rcases List.mem_cons.mp h with rfl | h
    · exact .inl (List.mem_reverse.mp hc)
    · have := ih h
      simp_all
  | case5 line d r _ _ ih =>
    have := ih h
    simp only [List.mem_cons] at this ⊢
    tauto

/-- A text without line ends is one row. -/
theorem rowsOf_of_forall {cs : List Char} (h : ∀ c ∈ cs, isLineEnd c = false) : rowsOf cs = [cs] := by
  obtain ⟨head, tail, hnil, hrows⟩ := rowsOf_append cs h []
  obtain ⟨rfl, rfl⟩ : head = [] ∧ tail = [] := by
    rw [show rowsOf [] = [[]] from rfl] at hnil
    simpa using hnil.symm
  rwa [List.append_nil] at hrows

end ApiDirectives.Text
