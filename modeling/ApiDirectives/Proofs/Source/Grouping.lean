import ApiDirectives.Proofs.Source.Runs
import Mathlib.Data.Finset.Sort
import Mathlib.Data.List.Chain

/-!
# Comments in runs

Comments are found in runs in two ways: downwards over all of them, where a run is left at the first gap,
and upwards from a declaration, line by line, until there is none. `runs_maximal` says that the first way
finds the maximal runs, and that the second finds the same ones. `header_preceding_partition` says that
what the upward way takes for a declaration and what it leaves to the module are together the comments
above, each once and in order.

Statements are about every finite map from lines to texts; lists of comments, whose lines grow, are what
it is in order.
-/

namespace ApiDirectives.Source

/-! ## Finite maps -/

/-- The comments of a finite map from lines to texts, in the order of the lines. -/
def commentsOf (lines : Finset Nat) (text : Nat → String) : List Comment :=
  lines.sort.map fun line => ⟨line, text line⟩

section Maps

variable {cs ds : List Comment} {c : Comment} {lines : Finset Nat} {text : Nat → String} {line : Nat}

theorem mem_commentsOf : c ∈ commentsOf lines text ↔ c.line ∈ lines ∧ text c.line = c.text := by
  unfold commentsOf
  rw [List.mem_map]
  constructor
  · rintro ⟨line, hline, rfl⟩
    exact ⟨(Finset.mem_sort _).mp hline, rfl⟩
  · rintro ⟨hline, htext⟩
    refine ⟨c.line, (Finset.mem_sort _).mpr hline, ?_⟩
    rw [htext]

theorem commented_commentsOf : Commented (commentsOf lines text) line ↔ line ∈ lines := by
  unfold Commented
  constructor
  · rintro ⟨c, hc, rfl⟩
    exact (mem_commentsOf.mp hc).1
  · intro hline
    exact ⟨⟨line, text line⟩, mem_commentsOf.mpr ⟨hline, rfl⟩, rfl⟩

theorem commentsOf_grow (lines : Finset Nat) (text : Nat → String) :
    (commentsOf lines text).Pairwise fun c d => c.line < d.line := by
  unfold commentsOf
  rw [List.pairwise_map]
  exact lines.sortedLT_sort.pairwise

/-- Where lines grow, the members decide the list. -/
theorem eq_of_grow (hcs : cs.Pairwise fun c d => c.line < d.line)
    (hds : ds.Pairwise fun c d => c.line < d.line) (h : ∀ c, c ∈ cs ↔ c ∈ ds) : cs = ds := by
  have hnodup : ∀ {es : List Comment}, es.Pairwise (fun c d => c.line < d.line) → es.Nodup :=
    fun hes => hes.imp fun hlt heq => Nat.ne_of_lt hlt (congrArg Comment.line heq)
  refine List.Perm.eq_of_pairwise (fun c d _ _ hcd hdc => ?_) hcs hds
    ((List.perm_ext_iff_of_nodup (hnodup hcs) (hnodup hds)).mpr h)
  omega

theorem filter_commentsOf (p : Nat → Bool) :
    (commentsOf lines text).filter (fun c => p c.line) =
      commentsOf (lines.filter fun line => p line) text := by
  refine eq_of_grow ((commentsOf_grow _ _).filter _) (commentsOf_grow _ _) fun c => ?_
  rw [List.mem_filter, mem_commentsOf, mem_commentsOf, Finset.mem_filter]
  tauto

theorem commentsOf_toFinset {ls : List Nat} (text : Nat → String) (h : ls.Pairwise (· < ·)) :
    commentsOf ls.toFinset text = ls.map fun line => ⟨line, text line⟩ := by
  have hsort : ls.toFinset.sort = ls :=
    (List.toFinset_sort _ (h.imp Nat.ne_of_lt)).mpr (h.imp Nat.le_of_lt)
  rw [commentsOf, hsort]

/-- Of comments whose lines grow, the one at a line is found there. -/
theorem commentAt?_of_mem (h : cs.Pairwise fun c d => c.line < d.line) (hc : c ∈ cs) :
    commentAt? cs c.line = some c.text := by
  have hlines : (cs.map (·.line)).Nodup := List.pairwise_map.mpr (h.imp Nat.ne_of_lt)
  unfold commentAt?
  cases hfind : cs.find? (·.line = c.line) with
  | none => simpa using List.find?_eq_none.mp hfind c hc
  | some d =>
    have hline : d.line = c.line := by simpa using List.find?_some hfind
    rw [List.inj_on_of_nodup_map hlines (List.mem_of_find?_eq_some hfind) hc hline]
    rfl

/-- Comments whose lines grow are those of a finite map. -/
theorem exists_commentsOf (h : cs.Pairwise fun c d => c.line < d.line) :
    ∃ lines text, cs = commentsOf lines text := by
  refine ⟨(cs.map (·.line)).toFinset, fun line => (commentAt? cs line).getD "", ?_⟩
  refine eq_of_grow h (commentsOf_grow _ _) fun c => ?_
  rw [mem_commentsOf, List.mem_toFinset, List.mem_map]
  constructor
  · intro hc
    exact ⟨⟨c, hc, rfl⟩, by rw [commentAt?_of_mem h hc]; rfl⟩
  · rintro ⟨⟨d, hd, hline⟩, htext⟩
    rw [← hline, commentAt?_of_mem h hd, Option.getD_some] at htext
    obtain ⟨line, text⟩ := d
    obtain ⟨line', text'⟩ := c
    cases hline
    cases htext
    exact hd

/-- What is found in a source is a finite map whose lines are numbered from one on. -/
theorem commentsOf_of_comments {source : String} (h : comments source = .ok cs) :
    ∃ lines text, 0 ∉ lines ∧ cs = commentsOf lines text := by
  obtain ⟨hgrow, hstand⟩ := comments_stand h
  obtain ⟨lines, text, rfl⟩ := exists_commentsOf hgrow
  refine ⟨lines, text, fun hzero => ?_, rfl⟩
  exact Nat.not_succ_le_zero 0 (hstand ⟨0, text 0⟩ (mem_commentsOf.mpr ⟨hzero, rfl⟩)).1

end Maps

/-! ## Upwards -/

/-- The way up from a line, as long as there is a comment: the texts on it, from below, and the line
without a comment that it ends at. -/
inductive Climbs (cs : List Comment) : Nat → List String → Nat → Prop
  | stop {line : Nat} : commentAt? cs line = none → Climbs cs line [] line
  | up {line stop : Nat} {text : String} {gathered : List String} :
      commentAt? cs (line + 1) = some text → Climbs cs line gathered stop →
        Climbs cs (line + 1) (text :: gathered) stop

section Upwards

variable {cs : List Comment} {c : Comment} {line stop : Nat} {gathered : List String}

theorem commentAt?_eq_none_iff : commentAt? cs line = none ↔ ¬ Commented cs line := by
  rw [← isSome_commentAt?_iff, Bool.not_eq_true, Option.isSome_eq_false_iff, Option.isNone_iff_eq_none]

/-- The way up ends, at the latest above the first line. -/
theorem exists_climbs (hzero : ¬ Commented cs 0) (line : Nat) :
    ∃ gathered stop, Climbs cs line gathered stop := by
  induction line with
  | zero => exact ⟨[], 0, .stop (commentAt?_eq_none_iff.mpr hzero)⟩
  | succ line ih =>
    obtain ⟨gathered, stop, hclimb⟩ := ih
    cases htext : commentAt? cs (line + 1) with
    | none => exact ⟨[], line + 1, .stop htext⟩
    | some text => exact ⟨text :: gathered, stop, .up htext hclimb⟩

/-- Below a comment there is one more directly above. -/
theorem above_succ (hgrow : cs.Pairwise fun c d => c.line < d.line) (hc : c ∈ cs) :
    above cs (c.line + 1) = above cs c.line ++ [c] := by
  obtain ⟨pre, post, rfl⟩ := List.append_of_mem hc
  obtain ⟨-, hpost, hpre⟩ := List.pairwise_append.mp hgrow
  have hlater : ∀ d ∈ post, c.line + 1 ≤ d.line := (List.pairwise_cons.mp hpost).1
  have hearlier : ∀ d ∈ pre, d.line < c.line := fun d hd => hpre d hd c List.mem_cons_self
  have hthere : above (pre ++ c :: post) c.line = above pre c.line :=
    above_append (List.forall_mem_cons.mpr ⟨Nat.le_refl _, fun d hd => Nat.le_of_succ_le (hlater d hd)⟩)
  rw [hthere, ← above_concat hearlier, show pre ++ c :: post = (pre ++ [c]) ++ post by simp]
  exact above_append hlater

/-- The texts gathered on the way up are those directly above the line below. -/
theorem preceding_of_climbs (hgrow : cs.Pairwise fun c d => c.line < d.line)
    (h : Climbs cs line gathered stop) : preceding cs (line + 1) = gathered.reverse := by
  induction h with
  | stop hnone =>
    rw [preceding_eq, above_eq_nil (commentAt?_eq_none_iff.mp hnone)]
    rfl
  | @up line stop text gathered htext _ ih =>
    obtain ⟨c, hc, hline⟩ := isSome_commentAt?_iff.mp (by rw [htext]; rfl)
    have hsame : c.text = text := by
      rw [← hline, commentAt?_of_mem hgrow hc] at htext
      exact Option.some.inj htext
    have habove := above_succ hgrow hc
    rw [hline] at habove
    rw [preceding_eq, habove, List.map_append, ← preceding_eq, ih, List.reverse_cons, List.map_singleton,
      hsame]

/-- The way up ends right above the run. -/
theorem runStart_of_climbs (h : Climbs cs line gathered stop) : runStart cs (line + 1) = stop + 1 := by
  induction h with
  | stop hnone => rw [runStart, hnone, if_neg (by decide)]
  | up htext _ ih => rw [runStart, htext, if_pos (by rfl), ih]

end Upwards

section Partition

variable {lines : Finset Nat} {text : Nat → String}

theorem texts_commentsOf (lines : Finset Nat) (text : Nat → String) :
    (commentsOf lines text).map (·.text) = lines.sort.map text := by
  rw [commentsOf, List.map_map]
  rfl

/-- The lines of a run and those above it are all lines above the one that the run ends at. -/
theorem commentsOf_split {first line : Nat} (h : first ≤ line) :
    commentsOf (lines.filter (· < first)) text ++
        commentsOf (lines.filter fun l => first ≤ l ∧ l < line) text =
      commentsOf (lines.filter (· < line)) text := by
  refine eq_of_grow ?_ (commentsOf_grow _ _) fun c => ?_
  · refine List.pairwise_append.mpr ⟨commentsOf_grow _ _, commentsOf_grow _ _, fun c hc d hd => ?_⟩
    have hbelow := (Finset.mem_filter.mp (mem_commentsOf.mp hc).1).2
    have hfrom := (Finset.mem_filter.mp (mem_commentsOf.mp hd).1).2.1
    omega
  · rw [List.mem_append, mem_commentsOf, mem_commentsOf, mem_commentsOf, Finset.mem_filter,
      Finset.mem_filter, Finset.mem_filter]
    constructor
    · rintro (⟨⟨hmem, hlt⟩, htext⟩ | ⟨⟨hmem, -, hlt⟩, htext⟩)
      · exact ⟨⟨hmem, by omega⟩, htext⟩
      · exact ⟨⟨hmem, hlt⟩, htext⟩
    · rintro ⟨⟨hmem, hlt⟩, htext⟩
      by_cases hfirst : c.line < first
      · exact .inl ⟨⟨hmem, hfirst⟩, htext⟩
      · exact .inr ⟨⟨hmem, by omega, hlt⟩, htext⟩

theorem header_commentsOf (line : Nat) :
    header (commentsOf lines text) (some line) =
      (lines.filter (· < runStart (commentsOf lines text) line)).sort.map text := by
  unfold header
  dsimp only
  rw [filter_commentsOf fun l => l < runStart (commentsOf lines text) line, texts_commentsOf]
  simp

theorem preceding_commentsOf (line : Nat) :
    preceding (commentsOf lines text) line =
      (lines.filter fun l => runStart (commentsOf lines text) line ≤ l ∧ l < line).sort.map text := by
  unfold preceding
  dsimp only
  rw [filter_commentsOf fun l => runStart (commentsOf lines text) line ≤ l && l < line,
    texts_commentsOf]
  simp

/-- Of the comments of a finite map, the way up from above a line ends; what it gathers is directly above
the line, and what is further up than its end is left to the module. Both together are the comments above
the line, each once and in the order of the lines. -/
theorem header_preceding_partition (lines : Finset Nat) (text : Nat → String) (hlines : 0 ∉ lines)
    (line : Nat) :
    let cs := commentsOf lines text
    (∃ gathered stop, Climbs cs (line - 1) gathered stop ∧
      header cs (some line) = (lines.filter (· ≤ stop)).sort.map text ∧
      preceding cs line = gathered.reverse) ∧
    header cs (some line) ++ preceding cs line = (lines.filter (· < line)).sort.map text := by
  intro cs
  have hgrow := commentsOf_grow lines text
  have hzero : ¬ Commented cs 0 := fun h => hlines (commented_commentsOf.mp h)
  obtain ⟨gathered, stop, hclimb⟩ := exists_climbs hzero (line - 1)
  refine ⟨⟨gathered, stop, hclimb, ?_⟩, ?_⟩
  · cases line with
    | zero =>
      -- No comment is further up than the first line, where the way up has to end.
      change Climbs cs 0 gathered stop at hclimb
      cases hclimb
      refine ⟨?_, by simp [preceding]⟩
      rw [header_commentsOf, runStart]
      congr 2
      refine Finset.filter_congr fun l hl => ?_
      have hne : l ≠ 0 := fun heq => hlines (heq ▸ hl)
      omega
    | succ line =>
      change Climbs cs line gathered stop at hclimb
      refine ⟨?_, preceding_of_climbs hgrow hclimb⟩
      rw [header_commentsOf, runStart_of_climbs hclimb]
      simp only [Nat.lt_succ_iff]
  · have hstart : runStart cs line ≤ line := runStart_le_iff.mpr fun l _ _ => by omega
    rw [header_commentsOf, preceding_commentsOf, ← texts_commentsOf, ← texts_commentsOf,
      ← texts_commentsOf, ← List.map_append, commentsOf_split hstart]

/-- A run above a gap, and comments below the line: the first two are left to the module. -/
theorem header_preceding_partition_at_gap :
    let lines := [1, 2, 4, 5, 8].toFinset
    let cs := commentsOf lines toString
    0 ∉ lines ∧ header cs (some 6) = ["1", "2"] ∧ preceding cs 6 = ["4", "5"] ∧
      header cs (some 6) ++ preceding cs 6 = (lines.filter (· < 6)).sort.map toString := by
  intro lines cs
  have hlines : 0 ∉ lines := by decide
  have hcs : cs = [1, 2, 4, 5, 8].map fun line => ⟨line, toString line⟩ :=
    commentsOf_toFinset toString (by decide)
  refine ⟨hlines, ?_, ?_, (header_preceding_partition lines toString hlines 6).2⟩
  · rw [hcs]
    rfl
  · rw [hcs]
    rfl

end Partition

/-! ## Downwards -/

/-- Texts on lines that follow one another. -/
def consecutive (first : Nat) : List String → List Comment
  | [] => []
  | text :: rest => ⟨first, text⟩ :: consecutive (first + 1) rest

/-- The comments in some runs. -/
def heldIn (rs : List (Nat × List String)) : List Comment := rs.flatMap fun run => consecutive run.1 run.2

/-- The line below a run. -/
def below (run : Nat × List String) : Nat := run.1 + run.2.length

/-- There is a line between two runs, which stand in this order. -/
def Apart (run next : Nat × List String) : Prop := below run < next.1

section Downwards

variable {cs rest : List Comment} {c : Comment} {texts : List String} {first last line : Nat}
  {run : Nat × List String}

theorem consecutive_cons (first : Nat) (text : String) (rest : List String) :
    consecutive first (text :: rest) = ⟨first, text⟩ :: consecutive (first + 1) rest := rfl

theorem consecutive_append (first : Nat) (texts more : List String) :
    consecutive first (texts ++ more) =
      consecutive first texts ++ consecutive (first + texts.length) more := by
  induction texts generalizing first with
  | nil => rfl
  | cons text texts ih =>
    rw [List.cons_append, consecutive_cons, ih, List.length_cons, consecutive_cons, List.cons_append,
      show first + 1 + texts.length = first + (texts.length + 1) by omega]

theorem texts_consecutive (first : Nat) (texts : List String) :
    (consecutive first texts).map (·.text) = texts := by
  induction texts generalizing first with
  | nil => rfl
  | cons text texts ih => rw [consecutive_cons, List.map_cons, ih]

/-- The lines of texts that follow one another are all from the first on. -/
theorem commented_consecutive :
    Commented (consecutive first texts) line ↔ first ≤ line ∧ line < first + texts.length := by
  induction texts generalizing first with
  | nil => simp [Commented, consecutive]
  | cons text texts ih =>
    have hcons : Commented (consecutive first (text :: texts)) line ↔
        first = line ∨ Commented (consecutive (first + 1) texts) line := by
      simp [Commented, consecutive_cons]
    rw [hcons, ih, List.length_cons]
    omega

theorem line_of_mem_consecutive (h : c ∈ consecutive first texts) :
    first ≤ c.line ∧ c.line < first + texts.length :=
  commented_consecutive.mp ⟨c, h, rfl⟩

/-- The runs after an open one hold what that has gathered and the rest. -/
theorem heldIn_runsFrom (h : first + texts.length = last + 1) :
    heldIn (runsFrom first texts last rest) = consecutive first texts.reverse ++ rest := by
  induction rest generalizing first texts last with
  | nil => rw [runsFrom, heldIn, List.flatMap_singleton, List.append_nil]
  | cons c rest ih =>
    rw [runsFrom]
    split
    · rename_i hnext
      have hlength : first + (c.text :: texts).length = c.line + 1 := by
        rw [List.length_cons]
        omega
      rw [ih hlength, List.reverse_cons, consecutive_append, List.length_reverse, h, ← hnext,
        List.append_assoc]
      rfl
    · rw [heldIn, List.flatMap_cons, ← heldIn, ih rfl]
      rfl

theorem isChain_runsFrom (h : first + texts.length = last + 1) (hrest : ∀ d ∈ rest, last < d.line)
    (hgrow : rest.Pairwise fun c d => c.line < d.line) :
    (runsFrom first texts last rest).IsChain Apart := by
  induction rest generalizing first texts last with
  | nil => exact .singleton _
  | cons c rest ih =>
    obtain ⟨hlater, hgrow⟩ := List.pairwise_cons.mp hgrow
    rw [runsFrom]
    split
    · refine ih ?_ hlater hgrow
      rw [List.length_cons]
      omega
    · rename_i hgap
      refine List.isChain_cons.mpr ⟨fun next hnext => ?_, ih rfl hlater hgrow⟩
      have hlast := hrest c List.mem_cons_self
      rw [Apart, head?_runsFrom _ _ _ _ next hnext, below, List.length_reverse]
      omega

theorem ne_nil_of_mem_runsFrom (h : texts ≠ []) (hrun : run ∈ runsFrom first texts last rest) :
    run.2 ≠ [] := by
  induction rest generalizing first texts last with
  | nil =>
    rw [List.mem_singleton.mp hrun]
    exact List.reverse_ne_nil_iff.mpr h
  | cons c rest ih =>
    rw [runsFrom] at hrun
    split at hrun
    · exact ih (List.cons_ne_nil _ _) hrun
    · rcases List.mem_cons.mp hrun with rfl | hrun
      · exact List.reverse_ne_nil_iff.mpr h
      · exact ih (List.cons_ne_nil _ _) hrun

/-- The runs hold the comments, in order. -/
theorem heldIn_runs (cs : List Comment) : heldIn (runs cs) = cs := by
  cases cs with
  | nil => rfl
  | cons c rest => exact heldIn_runsFrom rfl

theorem ne_nil_of_mem_runs (h : run ∈ runs cs) : run.2 ≠ [] := by
  cases cs with
  | nil => cases h
  | cons c rest => exact ne_nil_of_mem_runsFrom (List.cons_ne_nil _ _) h

/-- Each run is apart from all that come after it. -/
theorem pairwise_apart_runs (hgrow : cs.Pairwise fun c d => c.line < d.line) :
    (runs cs).Pairwise Apart := by
  have htrans : ∀ {run next third : Nat × List String}, Apart run next → Apart next third →
      Apart run third := by
    intro run next third hrun hnext
    unfold Apart below at *
    omega
  have hchain : (runs cs).IsChain Apart := by
    cases cs with
    | nil => exact .nil
    | cons c rest =>
      obtain ⟨hlater, hgrow⟩ := List.pairwise_cons.mp hgrow
      exact isChain_runsFrom rfl hlater hgrow
  have : IsTrans (Nat × List String) Apart := ⟨fun _ _ _ => htrans⟩
  exact hchain.pairwise

/-- The comments before a run end above the line before it, and those after it start below the line
after it. -/
theorem exists_around_run (hgrow : cs.Pairwise fun c d => c.line < d.line) (h : run ∈ runs cs) :
    ∃ pre post, cs = pre ++ (consecutive run.1 run.2 ++ post) ∧ (∀ d ∈ pre, d.line + 1 < run.1) ∧
      ∀ d ∈ post, below run < d.line := by
  obtain ⟨before, after, hruns⟩ := List.append_of_mem h
  have hapart := pairwise_apart_runs hgrow
  rw [hruns, List.pairwise_append] at hapart
  obtain ⟨-, hafter, hbefore⟩ := hapart
  refine ⟨heldIn before, heldIn after, ?_, ?_, ?_⟩
  · conv_lhs => rw [← heldIn_runs cs, hruns, heldIn, List.flatMap_append, List.flatMap_cons]
    rfl
  · intro d hd
    obtain ⟨other, hother, hd⟩ := List.mem_flatMap.mp hd
    have hlt : below other < run.1 := hbefore other hother run List.mem_cons_self
    have hline := line_of_mem_consecutive hd
    unfold below at hlt
    omega
  · intro d hd
    obtain ⟨other, hother, hd⟩ := List.mem_flatMap.mp hd
    have hlt : below run < other.1 := (List.pairwise_cons.mp hafter).1 other hother
    have hline := line_of_mem_consecutive hd
    omega

/-- Where a comment can be, seen from a run: on none of the two lines around it. -/
theorem line_around_run (hgrow : cs.Pairwise fun c d => c.line < d.line) (h : run ∈ runs cs)
    (hc : c ∈ cs) :
    c.line + 1 < run.1 ∨ (run.1 ≤ c.line ∧ c.line < below run) ∨ below run < c.line := by
  obtain ⟨pre, post, rfl, hpre, hpost⟩ := exists_around_run hgrow h
  rcases List.mem_append.mp hc with hc | hc
  · exact .inl (hpre c hc)
  · rcases List.mem_append.mp hc with hc | hc
    · exact .inr (.inl (line_of_mem_consecutive hc))
    · exact .inr (.inr (hpost c hc))

theorem not_commented_below_run (hgrow : cs.Pairwise fun c d => c.line < d.line) (h : run ∈ runs cs) :
    ¬ Commented cs (below run) := by
  rintro ⟨c, hc, hline⟩
  have haround := line_around_run hgrow h hc
  have hle : run.1 ≤ below run := Nat.le_add_right _ _
  omega

/-- Directly above the line below a run there is the run. -/
theorem above_below_run (hgrow : cs.Pairwise fun c d => c.line < d.line) (h : run ∈ runs cs) :
    above cs (below run) = consecutive run.1 run.2 := by
  have haround := fun c (hc : c ∈ cs) => line_around_run hgrow h hc
  obtain ⟨pre, post, hcs, hpre, hpost⟩ := exists_around_run hgrow h
  have hrun : consecutive run.1 run.2 ⊆ cs := by
    rw [hcs]
    exact fun c hc => List.mem_append_right _ (List.mem_append_left _ hc)
  refine eq_of_grow (hgrow.filter _) ?_ fun c => ?_
  · rw [hcs] at hgrow
    exact (List.pairwise_append.mp (List.pairwise_append.mp hgrow).2.1).1
  · rw [mem_above_iff]
    constructor
    · rintro ⟨hc, hlt, hall⟩
      -- From further up, the way to the line below would go over the gap above the run.
      have hfirst : run.1 ≤ c.line := by
        by_contra hbefore
        obtain ⟨d, hd, hline⟩ := hall (run.1 - 1) (by omega) (by unfold below at *; omega)
        have := haround d hd
        unfold below at *
        omega
      rw [hcs, List.mem_append, List.mem_append] at hc
      rcases hc with hc | hc | hc
      · have := hpre c hc
        omega
      · exact hc
      · have := hpost c hc
        omega
    · intro hc
      have hline := line_of_mem_consecutive hc
      refine ⟨hrun hc, hline.2, fun l hl hlt => ?_⟩
      obtain ⟨d, hd, hat⟩ := commented_consecutive.mpr
        (⟨by omega, hlt⟩ : run.1 ≤ l ∧ l < run.1 + run.2.length)
      exact ⟨d, hrun hd, hat⟩

/-- Where no run ends, there is nothing directly above. -/
theorem above_eq_nil_of_no_run (hline : ¬ Commented cs line) (h : ∀ run ∈ runs cs, below run ≠ line) :
    above cs line = [] := by
  cases line with
  | zero => simp [above]
  | succ line =>
    refine above_eq_nil ?_
    rintro ⟨c, hc, rfl⟩
    rw [← heldIn_runs cs] at hc
    obtain ⟨run, hrun, hc⟩ := List.mem_flatMap.mp hc
    have hin := line_of_mem_consecutive hc
    have hend : c.line + 1 ≠ run.1 + run.2.length := fun heq => h run hrun heq.symm
    -- The run goes on below the comment, so the line has a comment of its own.
    obtain ⟨d, hd, hat⟩ := commented_consecutive.mpr
      (⟨by omega, by omega⟩ : run.1 ≤ c.line + 1 ∧ c.line + 1 < run.1 + run.2.length)
    refine hline ⟨d, ?_, hat⟩
    rw [← heldIn_runs cs]
    exact List.mem_flatMap.mpr ⟨run, hrun, hd⟩

end Downwards

section Maximal

/-- The runs of the comments of a finite map hold each of them once, in the order of the lines, and on
consecutive lines in each run, which is never empty. Between two runs there is a line, and the one below
a run has no comment. What is directly above a line without a comment is the run that ends there, or
nothing if none does. -/
theorem runs_maximal (lines : Finset Nat) (text : Nat → String) :
    let cs := commentsOf lines text
    heldIn (runs cs) = lines.sort.map (fun line => ⟨line, text line⟩) ∧
      (∀ run ∈ runs cs, run.2 ≠ [] ∧ below run ∉ lines) ∧ (runs cs).Pairwise Apart ∧
      ∀ line ∉ lines, (∀ run ∈ runs cs, below run = line → preceding cs line = run.2) ∧
        ((∀ run ∈ runs cs, below run ≠ line) → preceding cs line = []) := by
  intro cs
  have hgrow := commentsOf_grow lines text
  refine ⟨heldIn_runs cs, fun run hrun => ⟨ne_nil_of_mem_runs hrun, fun hmem => ?_⟩,
    pairwise_apart_runs hgrow, fun line hline => ⟨?_, fun hnone => ?_⟩⟩
  · exact not_commented_below_run hgrow hrun (commented_commentsOf.mpr hmem)
  · rintro run hrun rfl
    rw [preceding_eq, above_below_run hgrow hrun, texts_consecutive]
  · have hfree : ¬ Commented cs line := fun h => hline (commented_commentsOf.mp h)
    rw [preceding_eq, above_eq_nil_of_no_run hfree hnone]
    rfl

end Maximal

end ApiDirectives.Source
