import ApiDirectives.Proofs.Command.Agreement
import ApiDirectives.Proofs.Directive.Lines
import ApiDirectives.Proofs.Source.Refusals
import ApiDirectives.Proofs.Source.Runs
import Mathlib.Algebra.GroupWithZero.Nat
import Mathlib.Algebra.Order.BigOperators.Group.List
import Mathlib.Algebra.Order.Group.Nat

/-!
# The lines of a listing

A listing takes the comments of a run as one text and numbers the lines of that text from the first
line of the run on. Comments are found on lines that line feeds end, but a text is cut at other
characters too. So a line end inside of a comment moves the numbers of all directives behind it in the
run. What is moved is never moved back: the listing is right exactly if every comment with something to
list has no such character before its own end, nor in a comment of the run above it.
-/

namespace ApiDirectives

open Text Source

/-! ## Numbered rows -/

/-- The directives among some rows with their numbers; the first row has the number `n`. -/
def numbered (n : Nat) : List (List Char) → List (Nat × Remark)
  | [] => []
  | row :: rows => ((Remark.ofLine? (String.ofList row)).map (n, ·)).toList ++ numbered (n + 1) rows

section Numbered

variable {n : Nat} {row cs : List Char} {rows : List (List Char)}

theorem numbered_append (n : Nat) (rows more : List (List Char)) :
    numbered n (rows ++ more) = numbered n rows ++ numbered (n + rows.length) more := by
  induction rows generalizing n with
  | nil => rfl
  | cons row rows ih =>
    rw [List.cons_append, numbered, numbered, ih, List.append_assoc, List.length_cons,
      show n + 1 + rows.length = n + (rows.length + 1) by omega]

theorem numbered_map_snd (n : Nat) (rows : List (List Char)) :
    (numbered n rows).map Prod.snd = rows.filterMap fun l => Remark.ofLine? (String.ofList l) := by
  induction rows generalizing n with
  | nil => rfl
  | cons row rows ih =>
    rw [numbered, List.map_append, ih, List.filterMap_cons]
    cases Remark.ofLine? (String.ofList row) with
    | none => rfl
    | some r => rfl

/-- Blanks behind a text do not count. -/
theorem trimOf_append {p : Char → Bool} (cs : List Char) {rest : List Char}
    (h : ∀ c ∈ rest, p c = true) : trimOf p (cs ++ rest) = trimOf p cs := by
  have hend : ∀ ds, dropEnd p (ds ++ rest) = dropEnd p ds := by
    intro ds
    rw [dropEnd, List.reverse_append,
      List.dropWhile_append_of_pos fun c hc => h c (List.mem_reverse.mp hc), dropEnd]
  rw [trimOf, List.dropWhile_append]
  split
  · rename_i hempty
    rw [trimOf, List.isEmpty_iff.mp hempty, List.dropWhile_eq_nil_iff.mpr h]
  · rw [hend, trimOf]

/-- What is kept of two texts stands in the first or is kept of the second. -/
theorem mem_dropEnd_append {p : Char → Bool} {cs rest : List Char} {c : Char}
    (h : c ∈ dropEnd p (cs ++ rest)) : c ∈ cs ∨ c ∈ dropEnd p rest := by
  rw [dropEnd, List.reverse_append, List.mem_reverse, List.dropWhile_append] at h
  split at h
  · exact .inl (List.mem_reverse.mp ((List.dropWhile_suffix p).mem h))
  · rcases List.mem_append.mp h with h | h
    · exact .inr (List.mem_reverse.mpr h)
    · exact .inl (List.mem_reverse.mp h)

theorem ofLine?_congr {cs ds : List Char} (h : trimList cs = trimList ds) :
    Remark.ofLine? (String.ofList cs) = Remark.ofLine? (String.ofList ds) := by
  rw [← Remark.ofLine?_trim (String.ofList cs), ← Remark.ofLine?_trim (String.ofList ds),
    String.toList_ofList, String.toList_ofList, h]

/-- A blank row has no directive. -/
theorem ofLine?_of_blank (h : ∀ c ∈ row, isBlank c = true) :
    Remark.ofLine? (String.ofList row) = none := by
  have htrim : trimList row = trimList [] := trimOf_append [] h
  rw [ofLine?_congr htrim]
  exact Remark.ofLine?_empty

theorem numbered_of_blank (n : Nat) (h : ∀ row ∈ rows, ∀ c ∈ row, isBlank c = true) :
    numbered n rows = [] := by
  induction rows generalizing n with
  | nil => rfl
  | cons row rows ih =>
    obtain ⟨hrow, hrows⟩ := List.forall_mem_cons.mp h
    rw [numbered, ofLine?_of_blank hrow, ih _ hrows]
    rfl

/-- A text that has no line end before the blanks at its end is read as one row. -/
theorem numbered_of_plain (n : Nat) (h : ∀ c ∈ dropEnd isBlank cs, isLineEnd c = false) :
    numbered n (rowsOf cs) = ((Remark.ofLine? (String.ofList cs)).map (n, ·)).toList := by
  obtain ⟨rest, hcs, hrest⟩ := eq_dropEnd_append isBlank cs
  obtain ⟨head, tail, hrows, hfirst⟩ := rowsOf_append _ h rest
  have hblank : ∀ row ∈ head :: tail, ∀ c ∈ row, isBlank c = true := by
    intro row hrow c hc
    rw [← hrows] at hrow
    have hmem := (mem_of_mem_linesFrom hrow hc).resolve_left List.not_mem_nil
    rcases List.mem_append.mp hmem with hmem | hmem
    · exact hrest c hmem
    · rw [List.mem_singleton.mp hmem]
      decide
  obtain ⟨hhead, htail⟩ := List.forall_mem_cons.mp hblank
  have htrim : trimList (dropEnd isBlank cs ++ head) = trimList cs := by
    conv_rhs => rw [hcs]
    exact (trimOf_append _ hhead).trans (trimOf_append _ hrest).symm
  rw [hcs, hfirst, numbered, numbered_of_blank _ htail, List.append_nil, ofLine?_congr htrim, ← hcs]

/-- Line ends among the blanks at the front move the number. -/
theorem numbered_dropWhile (n : Nat) (hreturn : '\r' ∉ cs) :
    numbered n (rowsOf cs) =
      numbered (n + (cs.takeWhile isBlank).countP isLineEnd) (rowsOf (cs.dropWhile isBlank)) := by
  induction cs generalizing n with
  | nil => rfl
  | cons c r ih =>
    obtain ⟨hc, hr⟩ := not_or.mp (List.mem_cons.not.mp hreturn)
    by_cases hblank : isBlank c = true
    · rw [List.takeWhile_cons_of_pos hblank, List.dropWhile_cons_of_pos hblank]
      by_cases hend : isLineEnd c = true
      · rw [rowsOf_cons_end hend (Ne.symm hc), numbered, ofLine?_of_blank (by simp),
          List.countP_cons_of_pos hend]
        refine (ih (n + 1) hr).trans ?_
        rw [show n + 1 + (r.takeWhile isBlank).countP isLineEnd =
          n + ((r.takeWhile isBlank).countP isLineEnd + 1) by omega]
      · obtain ⟨head, tail, hrows, hcons⟩ := rowsOf_append [c] (by simpa using hend) r
        have htrim : trimList ([c] ++ head) = trimList head := trimOf_cons hblank head
        rw [List.countP_cons_of_neg hend, ← ih n hr, hrows, show c :: r = [c] ++ r from rfl, hcons,
          numbered, numbered, ofLine?_congr htrim]
    · rw [List.takeWhile_cons_of_neg hblank, List.dropWhile_cons_of_neg hblank]
      rfl

end Numbered

/-! ## What is reported -/

/-- The line ends inside of the comments directly above a line. -/
def extraRows (cs : List Comment) (line : Nat) : Nat :=
  ((above cs line).map fun d => d.text.toList.countP isLineEnd).sum

/-- What a listing has of a run of comments. -/
def runReport (run : Nat × List String) : List (Nat × Remark) :=
  numbered run.1 (linesOf (joined "\n" run.2).toList)

/-- What a listing has of all comments. -/
def reported (cs : List Comment) : List (Nat × Remark) := (runs cs).flatMap runReport

/-- What a listing has of one comment. -/
def reportOf (cs : List Comment) (c : Comment) : List (Nat × Remark) :=
  numbered (c.line + extraRows cs c.line) (rowsOf c.text.toList)

section Reported

variable {cs pre rest : List Comment} {texts : List String} {first last : Nat}

theorem listingOf_eq (file : String) (first : Nat) (text : String) :
    listingOf file first text =
      (numbered first (linesOf text.toList)).map fun (n, r) => r.listing file n := by
  have hlines : ∀ (rows : List (List Char)) (n : Nat),
      ((rows.map String.ofList).mapIdx fun i line =>
        (Remark.ofLine? line).map (·.listing file (n + i))).filterMap id =
        (numbered n rows).map fun (n, r) => r.listing file n := by
    intro rows
    induction rows with
    | nil => exact fun n => rfl
    | cons row rows ih =>
      intro n
      rw [List.map_cons, List.mapIdx_cons, List.filterMap_cons, numbered, List.map_append, ← ih (n + 1)]
      have hnext : (fun i line => (Remark.ofLine? line).map (·.listing file (n + (i + 1)))) =
          fun i line => (Remark.ofLine? line).map (·.listing file (n + 1 + i)) := by
        funext i line
        rw [show n + (i + 1) = n + 1 + i by omega]
      rw [hnext]
      cases Remark.ofLine? (String.ofList row) with
      | none => rfl
      | some r => rfl
  exact hlines _ first

/-- An empty row at the end makes no difference. -/
theorem numbered_linesOf (n : Nat) (cs : List Char) : numbered n (linesOf cs) = numbered n (rowsOf cs) := by
  rcases linesFrom_concat_feed [] cs with hrows | hrows
  · rw [rowsOf, linesOf, linesOf, hrows]
  · rw [rowsOf, linesOf, linesOf, hrows, numbered_append]
    exact (List.append_nil _).symm

/-- A text that is put together with line feeds has the rows of its parts. -/
theorem rowsOf_joined (h : texts ≠ []) :
    rowsOf (joined "\n" texts).toList = texts.flatMap fun text => rowsOf text.toList := by
  induction texts with
  | nil => exact absurd rfl h
  | cons text texts ih =>
    by_cases hlast : texts = []
    · subst hlast
      simp [joined_singleton]
    · have htext : (joined "\n" (text :: texts)).toList ++ ['\n'] =
          text.toList ++ '\n' :: ((joined "\n" texts).toList ++ ['\n']) := by
        rw [joined_cons hlast]
        simp
      rw [rowsOf, htext, linesOf_append_feed, List.flatMap_cons, ← ih hlast]
      rfl

/-- The rows of comments: one for each of them, and those behind line ends inside. -/
theorem length_flatMap_rowsOf (h : ∀ c ∈ cs, '\r' ∉ c.text.toList) :
    (cs.flatMap fun c => rowsOf c.text.toList).length =
      cs.length + (cs.map fun c => c.text.toList.countP isLineEnd).sum := by
  induction cs with
  | nil => rfl
  | cons c cs ih =>
    obtain ⟨hc, hcs⟩ := List.forall_mem_cons.mp h
    rw [List.flatMap_cons, List.length_append, ih hcs, length_rowsOf hc, List.length_cons, List.map_cons,
      List.sum_cons]
    omega

theorem runReport_eq (first : Nat) {run : List Comment} (h : run ≠ []) :
    runReport (first, run.map (·.text)) = numbered first (run.flatMap fun c => rowsOf c.text.toList) := by
  rw [runReport, numbered_linesOf, rowsOf_joined (by simpa using h), List.flatMap_map]

/-- A comment below others counts their rows and its own number. -/
theorem reportOf_eq (pre : List Comment) {c : Comment} (hrest : ∀ d ∈ rest, c.line < d.line) :
    reportOf (pre ++ c :: rest) c =
      numbered (c.line + ((above pre c.line).map fun d => d.text.toList.countP isLineEnd).sum)
        (rowsOf c.text.toList) := by
  have habove : above (pre ++ c :: rest) c.line = above pre c.line :=
    above_append (List.forall_mem_cons.mpr ⟨Nat.le_refl _, fun d hd => (hrest d hd).le⟩)
  rw [reportOf, extraRows, habove]

/-- A listing goes through the comments one by one: after those of `pre`, the last of which are the run
that is open, it has what it has of the others. -/
theorem flatMap_runsFrom {run : List Comment} (hrun : above pre (last + 1) = run) (hne : run ≠ [])
    (hfirst : first + run.length = last + 1) (hpre : ∀ d ∈ pre, d.line ≤ last)
    (hrest : ∀ d ∈ rest, last < d.line) (hgrow : rest.Pairwise fun c d => c.line < d.line)
    (hreturn : ∀ d ∈ pre ++ rest, '\r' ∉ d.text.toList) :
    (runsFrom first (run.map (·.text)).reverse last rest).flatMap runReport =
      numbered first (run.flatMap fun c => rowsOf c.text.toList) ++
        rest.flatMap (reportOf (pre ++ rest)) := by
  induction rest generalizing pre run first last with
  | nil =>
    rw [runsFrom, List.flatMap_cons, List.flatMap_nil, List.flatMap_nil, List.reverse_reverse,
      runReport_eq first hne]
  | cons c rest ih =>
    obtain ⟨hc, hrest⟩ := List.forall_mem_cons.mp hrest
    obtain ⟨hbelow, hgrow⟩ := List.pairwise_cons.mp hgrow
    have hearlier : ∀ d ∈ pre, d.line < c.line := fun d hd => Nat.lt_of_le_of_lt (hpre d hd) hc
    have hconcat := above_concat hearlier
    have hall : pre ++ c :: rest = (pre ++ [c]) ++ rest := by simp
    have hpre' : ∀ d ∈ pre ++ [c], d.line ≤ c.line := by
      intro d hd
      rcases List.mem_append.mp hd with hd | hd
      · exact (hearlier d hd).le
      · rw [List.mem_singleton.mp hd]
    have hreport := reportOf_eq pre hbelow
    rw [runsFrom, List.flatMap_cons, hreport]
    split
    · rename_i hnext
      -- The run goes on, and the comment counts the rows of those in it.
      rw [hnext, hrun] at hconcat
      have hown : ∀ d ∈ run, '\r' ∉ d.text.toList := fun d hd =>
        hreturn d (List.mem_append_left _ (mem_above_iff.mp (hrun ▸ hd)).1)
      have hlength := length_flatMap_rowsOf hown
      have hlonger : above (pre ++ [c]) (c.line + 1) = run ++ [c] := by rw [hnext, hconcat]
      have hcount : first + (run ++ [c]).length = c.line + 1 := by
        rw [List.length_append, List.length_singleton]
        omega
      have hstep := ih hlonger (by simp) hcount hpre' hbelow hgrow (hall ▸ hreturn)
      rw [List.map_append, List.reverse_append] at hstep
      refine hstep.trans ?_
      rw [List.flatMap_append, numbered_append, hlength, ← hall, hnext, hrun, List.append_assoc]
      simp only [List.flatMap_cons, List.flatMap_nil, List.append_nil]
      rw [show first + (run.length + (run.map fun c => c.text.toList.countP isLineEnd).sum) =
        last + 1 + (run.map fun c => c.text.toList.countP isLineEnd).sum by omega]
    · rename_i hgap
      -- A new run starts, with nothing directly above it.
      obtain ⟨m, hm⟩ : ∃ m, c.line = m + 1 := ⟨c.line - 1, by omega⟩
      have hnone : above pre c.line = [] := by
        rw [hm]
        refine above_eq_nil ?_
        rintro ⟨d, hd, hline⟩
        have := hpre d hd
        omega
      rw [hnone, List.nil_append] at hconcat
      have hcount : c.line + [c].length = c.line + 1 := rfl
      have hstep := ih hconcat (by simp) hcount hpre' hbelow hgrow (hall ▸ hreturn)
      rw [List.flatMap_cons, List.reverse_reverse, runReport_eq first hne, hnone]
      refine congrArg _ (hstep.trans ?_)
      rw [← hall, List.flatMap_singleton]
      rfl

/-- A listing is what it has of each comment, one after the other. -/
theorem reported_eq (hgrow : cs.Pairwise fun c d => c.line < d.line)
    (hreturn : ∀ d ∈ cs, '\r' ∉ d.text.toList) : reported cs = cs.flatMap (reportOf cs) := by
  cases cs with
  | nil => rfl
  | cons c rest =>
    obtain ⟨hbelow, hgrow⟩ := List.pairwise_cons.mp hgrow
    have hnone : ∀ d ∈ ([] : List Comment), d.line < c.line := by simp
    have hrun : above [c] (c.line + 1) = [c] := above_concat hnone
    have hcount : c.line + [c].length = c.line + 1 := rfl
    have hreport : reportOf (c :: rest) c = numbered c.line (rowsOf c.text.toList) :=
      reportOf_eq [] hbelow
    refine (flatMap_runsFrom hrun (by simp) hcount (by simp) hbelow hgrow hreturn).trans ?_
    rw [List.flatMap_singleton, List.flatMap_cons, hreport]
    rfl

end Reported

/-! ## What should be reported -/

/-- What a comment says as one line, with its own number. -/
def ownReport (c : Comment) : List (Nat × Remark) := ((Remark.ofLine? c.text).map (c.line, ·)).toList

/-- A text without line ends inside. -/
def Unbroken (cs : List Char) : Prop := ∀ c ∈ cs, isLineEnd c = false

-- Over the characters of the text: that there are finitely many characters at all would decide it too.
instance (cs : List Char) : Decidable (Unbroken cs) :=
  List.decidableBAll (fun c => isLineEnd c = false) cs

/-- A comment that has something to list, as one line or in its rows, stands in line: no comment of the run
above it has a line end in its text, nor does its own text up to the blanks at the end. -/
def StandsInLine (cs : List Comment) (c : Comment) : Prop :=
  (Remark.ofLine? c.text).isSome = true ∨ Remark.ofText c.text ≠ [] →
    (∀ d ∈ above cs c.line, Unbroken d.text.toList) ∧ Unbroken (dropEnd isBlank c.text.toList)

section Own

variable {cs : List Comment} {c : Comment} {r : Remark} {n : Nat}

theorem mem_ownReport : (n, r) ∈ ownReport c ↔ c.line = n ∧ Remark.ofLine? c.text = some r := by
  unfold ownReport
  cases Remark.ofLine? c.text with
  | none => simp
  | some d => simp [eq_comm]

/-- What is read from a row keeps a line without line ends. -/
theorem unbroken_raw_of_mem (h : (n, r) ∈ reportOf cs c) : Unbroken r.raw.toList := by
  have hmem : r ∈ (reportOf cs c).map Prod.snd := List.mem_map_of_mem (f := Prod.snd) h
  rw [reportOf, numbered_map_snd, Remark.filterMap_rowsOf] at hmem
  exact Remark.raw_unbroken hmem

theorem extraRows_eq_zero_iff :
    extraRows cs c.line = 0 ↔ ∀ d ∈ above cs c.line, Unbroken d.text.toList := by
  unfold extraRows Unbroken
  rw [List.sum_eq_zero_iff]
  simp

/-- A comment that is a directive as one line is listed once, each line end before it counted. -/
theorem reportOf_of_ofLine? (hreturn : '\r' ∉ c.text.toList) (hr : Remark.ofLine? c.text = some r)
    (hraw : Unbroken r.raw.toList) :
    reportOf cs c =
      [(c.line + extraRows cs c.line + (c.text.toList.takeWhile isBlank).countP isLineEnd, r)] := by
  rw [Remark.raw_of_ofLine? hr, String.toList_ofList] at hraw
  have htrim : trimList (c.text.toList.dropWhile isBlank) = trimList c.text.toList := by
    rw [trimList, trimOf, dropWhile_dropWhile, trimList, trimOf]
  rw [reportOf, numbered_dropWhile _ hreturn, numbered_of_plain _ hraw, ofLine?_congr htrim,
    String.ofList_toList, hr]
  rfl

theorem reportOf_eq_nil_iff : reportOf cs c = [] ↔ Remark.ofText c.text = [] := by
  rw [← Remark.filterMap_rowsOf, ← numbered_map_snd, List.map_eq_nil_iff, reportOf]

/-- A comment is listed as it should be exactly if it stands in line. -/
theorem reportOf_eq_ownReport_iff (hreturn : '\r' ∉ c.text.toList) :
    reportOf cs c = ownReport c ↔ StandsInLine cs c := by
  unfold StandsInLine
  constructor
  · intro heq hspeaks
    cases hr : Remark.ofLine? c.text with
    | none =>
      rw [ownReport, hr] at heq
      rcases hspeaks with hsome | htext
      · rw [hr] at hsome
        cases hsome
      · exact absurd (reportOf_eq_nil_iff.mp heq) htext
    | some r =>
      -- The directive is listed once, at a line that has grown by all that is in the way.
      have hmem : (c.line, r) ∈ reportOf cs c := by
        rw [heq]
        exact mem_ownReport.mpr ⟨rfl, hr⟩
      have hraw := unbroken_raw_of_mem hmem
      rw [reportOf_of_ofLine? hreturn hr hraw, List.mem_singleton] at hmem
      have hnumber := congrArg Prod.fst hmem
      dsimp only at hnumber
      refine ⟨extraRows_eq_zero_iff.mp (by omega), ?_⟩
      have hfront : ∀ x ∈ c.text.toList.takeWhile isBlank, ¬ isLineEnd x = true :=
        List.countP_eq_zero.mp (by omega)
      rw [Remark.raw_of_ofLine? hr, String.toList_ofList] at hraw
      intro x hx
      rw [← List.takeWhile_append_dropWhile (p := isBlank) (l := c.text.toList)] at hx
      rcases mem_dropEnd_append hx with hx | hx
      · exact Bool.eq_false_iff.mpr (hfront x hx)
      · exact hraw x hx
  · intro halign
    by_cases hspeaks : (Remark.ofLine? c.text).isSome = true ∨ Remark.ofText c.text ≠ []
    · obtain ⟨habove, hown⟩ := halign hspeaks
      rw [reportOf, extraRows_eq_zero_iff.mpr habove, numbered_of_plain _ hown, String.ofList_toList]
      rfl
    · obtain ⟨hnone, htext⟩ := not_or.mp hspeaks
      rw [reportOf_eq_nil_iff.mpr (not_not.mp htext), ownReport, Option.not_isSome_iff_eq_none.mp hnone]
      rfl

end Own

/-! ## True numbers -/

/-- The numbers of a listing are true: whatever is listed is what the comment of the line with its number
says as one line, and each comment that says something as one line is listed once. -/
structure TrueNumbers (cs : List Comment) (found : List (Nat × Remark)) : Prop where
  sound : ∀ n r, (n, r) ∈ found → ∃ c ∈ cs, c.line = n ∧ Remark.ofLine? c.text = some r
  complete : ∀ c ∈ cs, ∀ r, Remark.ofLine? c.text = some r → found.count (c.line, r) = 1

section Numbers

variable {cs : List Comment} {found : List (Nat × Remark)}

theorem nodup_flatMap_ownReport (hgrow : cs.Pairwise fun c d => c.line < d.line) :
    (cs.flatMap ownReport).Nodup := by
  refine List.nodup_flatMap.mpr ⟨fun c _ => ?_, hgrow.imp fun hlt => ?_⟩
  · unfold ownReport
    cases Remark.ofLine? c.text with
    | none => exact List.nodup_nil
    | some r => exact List.nodup_singleton _
  · rintro ⟨n, r⟩ hc hd
    have := (mem_ownReport.mp hc).1
    have := (mem_ownReport.mp hd).1
    omega

/-- The numbers are true exactly if, up to the order, each comment is listed as it should be. -/
theorem trueNumbers_iff_perm (hgrow : cs.Pairwise fun c d => c.line < d.line) :
    TrueNumbers cs found ↔ found.Perm (cs.flatMap ownReport) := by
  have hnodup := nodup_flatMap_ownReport hgrow
  have hmem : ∀ n r, (n, r) ∈ cs.flatMap ownReport ↔
      ∃ c ∈ cs, c.line = n ∧ Remark.ofLine? c.text = some r := by
    intro n r
    rw [List.mem_flatMap]
    simp only [mem_ownReport]
  constructor
  · rintro ⟨hsound, hcomplete⟩
    have hcount : ∀ p ∈ found, found.count p = 1 := by
      rintro ⟨n, r⟩ hp
      obtain ⟨c, hc, rfl, hr⟩ := hsound n r hp
      exact hcomplete c hc r hr
    -- Neither list has repetitions, so that it is enough to compare their members.
    have hfound : found.Nodup := List.nodup_iff_count_le_one.mpr fun p => by
      by_cases hp : p ∈ found
      · exact (hcount p hp).le
      · rw [List.count_eq_zero_of_not_mem hp]
        exact Nat.zero_le 1
    refine (List.perm_ext_iff_of_nodup hfound hnodup).mpr ?_
    rintro ⟨n, r⟩
    rw [hmem]
    refine ⟨hsound n r, ?_⟩
    rintro ⟨c, hc, rfl, hr⟩
    exact List.count_pos_iff.mp (by rw [hcomplete c hc r hr]; exact Nat.one_pos)
  · intro hperm
    refine ⟨fun n r hp => (hmem n r).mp (hperm.mem_iff.mp hp), fun c hc r hr => ?_⟩
    rw [hperm.count_eq]
    exact List.count_eq_one_of_mem hnodup ((hmem _ _).mpr ⟨c, hc, rfl, hr⟩)

/-- What the lines of a listing weigh: their numbers, and one for each line. -/
def weight (found : List (Nat × Remark)) : Nat := (found.map fun p => p.1 + 1).sum

theorem weight_flatMap (f : Comment → List (Nat × Remark)) (cs : List Comment) :
    weight (cs.flatMap f) = (cs.map fun c => weight (f c)).sum := by
  induction cs with
  | nil => rfl
  | cons c cs ih =>
    rw [List.flatMap_cons, weight, List.map_append, List.sum_append, List.map_cons, List.sum_cons, ← ih]
    rfl

/-- A listing has more lines than it should or higher numbers, if a comment is not listed as it
should be. -/
theorem weight_ownReport_le (cs : List Comment) {c : Comment} (hreturn : '\r' ∉ c.text.toList)
    (hraw : ∀ r, Remark.ofLine? c.text = some r → Unbroken r.raw.toList) :
    weight (ownReport c) ≤ weight (reportOf cs c) ∧
      (weight (ownReport c) = weight (reportOf cs c) → reportOf cs c = ownReport c) := by
  cases hr : Remark.ofLine? c.text with
  | none =>
    have hown : ownReport c = [] := by rw [ownReport, hr]; rfl
    rw [hown]
    refine ⟨Nat.zero_le _, fun hweight => ?_⟩
    cases hreport : reportOf cs c with
    | nil => rfl
    | cons p rest =>
      rw [hreport, weight, weight, List.map_nil, List.sum_nil, List.map_cons, List.sum_cons] at hweight
      omega
  | some r =>
    have hown : ownReport c = [(c.line, r)] := by rw [ownReport, hr]; rfl
    rw [hown, reportOf_of_ofLine? hreturn hr (hraw r hr)]
    simp only [weight, List.map_cons, List.map_nil, List.sum_cons, List.sum_nil]
    refine ⟨by omega, fun hweight => ?_⟩
    rw [show c.line + extraRows cs c.line + (c.text.toList.takeWhile isBlank).countP isLineEnd = c.line
      by omega]

/-- The numbers of the listing are true exactly if all comments stand in line. -/
theorem trueNumbers_iff (hgrow : cs.Pairwise fun c d => c.line < d.line)
    (hreturn : ∀ c ∈ cs, '\r' ∉ c.text.toList) :
    TrueNumbers cs (reported cs) ↔ ∀ c ∈ cs, StandsInLine cs c := by
  have hline : (∀ c ∈ cs, StandsInLine cs c) ↔ ∀ c ∈ cs, reportOf cs c = ownReport c :=
    forall₂_congr fun c hc => (reportOf_eq_ownReport_iff (hreturn c hc)).symm
  rw [hline, reported_eq hgrow hreturn]
  constructor
  · intro htrue
    have hraw : ∀ c ∈ cs, ∀ r, Remark.ofLine? c.text = some r → Unbroken r.raw.toList := by
      intro c hc r hr
      have hcount := htrue.complete c hc r hr
      obtain ⟨d, -, hd⟩ := List.mem_flatMap.mp (List.count_pos_iff.mp (by rw [hcount]; exact Nat.one_pos))
      exact unbroken_raw_of_mem hd
    -- Line ends only move numbers up, so one comment that is off cannot be made up for by another.
    have hweight : weight (cs.flatMap (reportOf cs)) = weight (cs.flatMap ownReport) :=
      (((trueNumbers_iff_perm hgrow).mp htrue).map _).sum_eq
    rw [weight_flatMap, weight_flatMap] at hweight
    intro c hc
    obtain ⟨hle, heq⟩ := weight_ownReport_le cs (hreturn c hc) (hraw c hc)
    refine heq (hle.antisymm (Nat.not_lt.mp fun hlt => ?_))
    have hless := List.sum_lt_sum (fun c => weight (ownReport c)) (fun c => weight (reportOf cs c))
      (fun d hd => (weight_ownReport_le cs (hreturn d hd) (hraw d hd)).1) ⟨c, hc, hlt⟩
    omega
  · intro hall
    rw [trueNumbers_iff_perm hgrow, List.flatMap_congr hall]

end Numbers

/-! ## The command -/

theorem run_forM_print (lines : List String) (k : Console) :
    (lines.forM fun line => Session.print (line ++ "\n")).run.run k =
      (.ok (), { k with out := k.out ++ Session.printed lines }) := by
  induction lines generalizing k with
  | nil =>
    rw [Session.printed, String.append_empty]
    rfl
  | cons line rest ih =>
    change (Session.print (line ++ "\n") >>= fun _ =>
      rest.forM fun line => Session.print (line ++ "\n")).run.run k = _
    rw [Session.run_bind_of_ok (Session.run_print _ k), ih, Session.printed, String.append_assoc]

theorem commentRuns_eq {text : String} {cs : List Comment} (h : Source.comments text = .ok cs) :
    Source.commentRuns text = .ok ((runs cs).map fun (first, texts) => (first, joined "\n" texts)) := by
  rw [Source.commentRuns, h]
  rfl

/-- The lines of the listing are those of what is reported. -/
theorem listing_eq (file : String) (cs : List Comment) :
    (((runs cs).map fun (first, texts) => (first, joined "\n" texts)).flatMap
      fun (first, text) => listingOf file first text) =
      (reported cs).map fun (n, r) => r.listing file n := by
  rw [reported, List.map_flatMap, List.flatMap_map]
  exact List.flatMap_congr fun run _ => listingOf_eq file run.1 _

/-- What the command leaves for a file that can be read. -/
theorem run_listDirectives {path : FilePath} {k : Console} {bytes : List UInt8} {text : String}
    {cs : List Comment} (hfile : k.files.read path = .ok bytes)
    (hread : (readSource path path.name bytes).1.content = .ok text)
    (hcomments : Source.comments text = .ok cs) :
    (listDirectives path).run.run k =
      (.ok (), { k with
        out := k.out ++ Session.printed ((reported cs).map fun (n, r) => r.listing path.name n)
        err := k.err ++ Session.printed [toString (reported cs).length ++ " directive(s)"] }) := by
  have hget : (get : Session Console).run.run k = (.ok k, k) := rfl
  rw [listDirectives, Session.run_bind_of_ok hget, hfile]
  dsimp only
  rw [hread]
  dsimp only
  rw [commentRuns_eq hcomments]
  dsimp only
  rw [listing_eq, Session.run_bind_of_ok (run_forM_print _ k), Session.run_tell, List.length_map]

/-- A listing has true line numbers exactly if the comments with something to list stand in line: the
command prints what is reported of the comments, each of these stands on the line with its number, and
what is reported is what each comment says, once and with its number, exactly if no line end inside of a
comment comes before a directive of the same run. -/
theorem listing_true_iff_in_line {path : FilePath} {k : Console} {bytes : List UInt8} {text : String}
    {cs : List Comment} (hfile : k.files.read path = .ok bytes)
    (hread : (readSource path path.name bytes).1.content = .ok text)
    (hcomments : Source.comments text = .ok cs) :
    (listDirectives path).run.run k =
        (.ok (), { k with
          out := k.out ++ Session.printed ((reported cs).map fun (n, r) => r.listing path.name n)
          err := k.err ++ Session.printed [toString (reported cs).length ++ " directive(s)"] }) ∧
      (∀ c ∈ cs, 1 ≤ c.line ∧
        ∃ line, (feedLines text.toList)[c.line - 1]? = some line ∧ StandsOn c.text line) ∧
      (TrueNumbers cs (reported cs) ↔ ∀ c ∈ cs, StandsInLine cs c) := by
  obtain ⟨hgrow, hstand⟩ := comments_stand hcomments
  refine ⟨run_listDirectives hfile hread hcomments, hstand, trueNumbers_iff hgrow fun c hc hreturn => ?_⟩
  -- A text that is read from a file has no carriage returns.
  have hholds := readSource_holds path path.name bytes
  rw [SourceFile.holds, hread] at hholds
  simp [mem_of_mem_comments hcomments hc hreturn] at hholds

/-- Line ends behind a directive and behind all directives of a run do no harm. -/
theorem listing_true_behind_directives :
    ((listDirectives (.ofString "a.py")).run.run
        { files := oneSource "# !tag x\x0c\n# a\x0cb\nx = 1\n# !tag y\n" }).2.out =
        "a.py:1: tag name='x'\na.py:4: tag name='y'\n" ∧
      TrueNumbers [⟨1, "!tag x\x0c"⟩, ⟨2, "a\x0cb"⟩, ⟨4, "!tag y"⟩]
        (reported [⟨1, "!tag x\x0c"⟩, ⟨2, "a\x0cb"⟩, ⟨4, "!tag y"⟩]) := by
  have hcomments : Source.comments "# !tag x\x0c\n# a\x0cb\nx = 1\n# !tag y\n" =
      .ok [⟨1, "!tag x\x0c"⟩, ⟨2, "a\x0cb"⟩, ⟨4, "!tag y"⟩] := by decide
  have hfile : (oneSource "# !tag x\x0c\n# a\x0cb\nx = 1\n# !tag y\n").read (.ofString "a.py") =
      .ok (encodeUtf8 "# !tag x\x0c\n# a\x0cb\nx = 1\n# !tag y\n") := by rfl
  have hread : (readSource (.ofString "a.py") (FilePath.ofString "a.py").name
      (encodeUtf8 "# !tag x\x0c\n# a\x0cb\nx = 1\n# !tag y\n")).1.content =
      .ok "# !tag x\x0c\n# a\x0cb\nx = 1\n# !tag y\n" := by decide +kernel
  have hrun := listing_true_iff_in_line
    (k := { files := oneSource "# !tag x\x0c\n# a\x0cb\nx = 1\n# !tag y\n" }) hfile hread hcomments
  constructor
  · rw [hrun.1]
    decide
  · refine hrun.2.2.mpr (List.forall_mem_cons.mpr ⟨?_, List.forall_mem_cons.mpr ⟨?_, ?_⟩⟩)
    · exact fun _ => ⟨by decide, by decide⟩
    · exact fun hspeaks => absurd hspeaks (by decide)
    · intro c hc
      rw [List.mem_singleton.mp hc]
      exact fun _ => ⟨by decide, by decide⟩

/-- A form feed in a comment moves the directive behind it to a line that there is not. -/
theorem form_feed_moves_directive :
    ((listDirectives (.ofString "a.py")).run.run
        { files := oneSource "# a\x0cb\n# !tag x\n" }).2.out = "a.py:3: tag name='x'\n" ∧
      (feedLines "# a\x0cb\n# !tag x\n".toList).length = 2 ∧
      Source.comments "# a\x0cb\n# !tag x\n" = .ok [⟨1, "a\x0cb"⟩, ⟨2, "!tag x"⟩] ∧
      ¬ TrueNumbers [⟨1, "a\x0cb"⟩, ⟨2, "!tag x"⟩] (reported [⟨1, "a\x0cb"⟩, ⟨2, "!tag x"⟩]) := by
  refine ⟨by decide +kernel, by decide, by decide, fun htrue => ?_⟩
  have hnumbers : (reported [⟨1, "a\x0cb"⟩, ⟨2, "!tag x"⟩]).map Prod.fst = [3] := by decide
  have hthree : 3 ∈ (reported [⟨1, "a\x0cb"⟩, ⟨2, "!tag x"⟩]).map Prod.fst := by
    rw [hnumbers]
    exact List.mem_singleton_self 3
  obtain ⟨found, hfound, hline⟩ := List.mem_map.mp hthree
  obtain ⟨c, hc, hnumber, -⟩ := htrue.sound found.1 found.2 hfound
  rw [hline] at hnumber
  simp only [List.mem_cons, List.not_mem_nil, or_false] at hc
  rcases hc with rfl | rfl <;> simp at hnumber

end ApiDirectives
