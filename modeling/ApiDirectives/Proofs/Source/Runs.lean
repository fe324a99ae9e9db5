import ApiDirectives.Proofs.Source.Comments
import ApiDirectives.Source.Blocks

/-!
# Runs of comments

The comments directly above a line are the last run before it: those from which every line on has a
comment of its own. They depend on nothing at that line or below it.
-/

namespace ApiDirectives.Source

variable {cs pre rest : List Comment} {c : Comment} {line first : Nat}

/-- A comment stands on the line. -/
def Commented (cs : List Comment) (line : Nat) : Prop := ∃ c ∈ cs, c.line = line

theorem isSome_commentAt?_iff : (commentAt? cs line).isSome = true ↔ Commented cs line := by
  unfold commentAt?
  rw [Option.isSome_map, List.find?_isSome]
  simp [Commented]

/-- The run above a line starts no later than a line from which every one on is commented. -/
theorem runStart_le_iff :
    runStart cs line ≤ first ↔ ∀ l, first ≤ l → l < line → Commented cs l := by
  induction line with
  | zero => simp [runStart]
  | succ line ih =>
    rw [runStart]
    split
    · rename_i hsome
      rw [ih]
      refine ⟨fun h l hfirst hl => ?_, fun h l hfirst hl => h l hfirst (by omega)⟩
      rcases Nat.lt_succ_iff_lt_or_eq.mp hl with hl | rfl
      · exact h l hfirst hl
      · exact isSome_commentAt?_iff.mp hsome
    · rename_i hnone
      rw [isSome_commentAt?_iff] at hnone
      refine ⟨fun h l hfirst hl => absurd hl (by omega), fun h => ?_⟩
      by_contra hlate
      exact hnone (h line (by omega) (by omega))

/-- The comments directly above a line. -/
def above (cs : List Comment) (line : Nat) : List Comment :=
  cs.filter fun c => runStart cs line ≤ c.line && c.line < line

theorem preceding_eq (cs : List Comment) (line : Nat) :
    preceding cs line = (above cs line).map (·.text) := rfl

/-- A comment is directly above a line if no line between is without one. -/
theorem mem_above_iff :
    c ∈ above cs line ↔ c ∈ cs ∧ c.line < line ∧ ∀ l, c.line ≤ l → l < line → Commented cs l := by
  unfold above
  rw [List.mem_filter, Bool.and_eq_true, decide_eq_true_eq, decide_eq_true_eq, runStart_le_iff]
  tauto

/-- Comments further down do not count. -/
theorem above_append (h : ∀ d ∈ rest, line ≤ d.line) : above (pre ++ rest) line = above pre line := by
  have hcommented : ∀ l < line, Commented (pre ++ rest) l ↔ Commented pre l := by
    intro l hl
    refine ⟨fun ⟨d, hd, hline⟩ => ?_, fun ⟨d, hd, hline⟩ => ⟨d, List.mem_append_left _ hd, hline⟩⟩
    rcases List.mem_append.mp hd with hd | hd
    · exact ⟨d, hd, hline⟩
    · have := h d hd
      omega
  have hstart : ∀ first, runStart (pre ++ rest) line ≤ first ↔ runStart pre line ≤ first := by
    intro first
    rw [runStart_le_iff, runStart_le_iff]
    exact forall_congr' fun l => forall_congr' fun _ => forall_congr' fun hl => hcommented l hl
  have hnone : rest.filter (fun c => runStart (pre ++ rest) line ≤ c.line && c.line < line) = [] := by
    refine List.filter_eq_nil_iff.mpr fun d hd => ?_
    have := h d hd
    simp
    omega
  unfold above
  rw [List.filter_append, hnone, List.append_nil]
  exact List.filter_congr fun d _ => by simp only [hstart]

/-- Without a comment on the line before there is none directly above. -/
theorem above_eq_nil (h : ¬ Commented cs line) : above cs (line + 1) = [] := by
  refine List.eq_nil_iff_forall_not_mem.mpr fun c hc => h ?_
  obtain ⟨-, hline, hrun⟩ := mem_above_iff.mp hc
  exact hrun line (by omega) (by omega)

/-- Directly below a comment there is that one, after those directly above it. -/
theorem above_concat (h : ∀ d ∈ pre, d.line < c.line) :
    above (pre ++ [c]) (c.line + 1) = above pre c.line ++ [c] := by
  have hbelow : above (pre ++ [c]) c.line = above pre c.line := above_append (by simp)
  have hstart : runStart (pre ++ [c]) (c.line + 1) = runStart (pre ++ [c]) c.line := by
    rw [runStart, if_pos (isSome_commentAt?_iff.mpr ⟨c, by simp, rfl⟩)]
  have hle : runStart (pre ++ [c]) c.line ≤ c.line := runStart_le_iff.mpr fun l _ _ => by omega
  have hpre : above (pre ++ [c]) c.line =
      pre.filter fun d => runStart (pre ++ [c]) (c.line + 1) ≤ d.line && d.line < c.line + 1 := by
    unfold above
    rw [List.filter_append, List.filter_cons_of_neg (by simp), List.filter_nil, List.append_nil, hstart]
    refine List.filter_congr fun d hd => ?_
    have := h d hd
    simp only [show d.line < c.line + 1 by omega, this]
  rw [← hbelow, hpre]
  conv_lhs => rw [above, List.filter_append]
  rw [List.filter_cons_of_pos (by rw [hstart]; simpa using hle), List.filter_nil]

end ApiDirectives.Source
