import ApiDirectives.Proofs.Directive.Lines
import ApiDirectives.Proofs.Source.CommentLines
import ApiDirectives.Proofs.Source.DeclarationLines
import ApiDirectives.Proofs.Source.Runs

/-!
# Whose comment it is

Each block of a module is made of the comments that belong to it: those directly above a declaration, and
for the module those further up than the run above its first declaration. The run above a line depends on
the line only, so two declarations on one line have the same comments, and what is written once is said
twice. The comments of the module belong to nothing else.
-/

namespace ApiDirectives.Source

open ApiDirectives.Text

/-! ## The comments of a block -/

/-- The comments above a line without those directly above it; all comments if there is no line. -/
def headerComments (cs : List Comment) : Option Nat → List Comment
  | none => cs
  | some line => cs.filter fun c => c.line < runStart cs line

theorem header_eq (cs : List Comment) (line : Option Nat) :
    header cs line = (headerComments cs line).map (·.text) := by
  cases line with
  | none => rfl
  | some line => rfl

/-- The comments of each block of a module, those of the module first. -/
def ownComments (tree : Tree) (cs : List Comment) : List (List Comment) :=
  headerComments cs (tree.declarations.head?.map (·.line)) ::
    tree.declarations.map fun d => above cs d.line

/-- What comments say. -/
def told (cs : List Comment) : List Remark := cs.flatMap fun c => Remark.ofText c.text

section Blocks

variable {cs : List Comment} {tree : Tree} {source file : String} {bs : List Block}

theorem ofText_joined_texts (cs : List Comment) : Remark.ofText (joined "\n" (cs.map (·.text))) = told cs := by
  rw [Remark.ofText_joined, List.flatMap_map, told]

/-- The module says what its comments say, and then what its docstring says. -/
theorem ofText_moduleText (docstring : String) (first : Option Nat) :
    Remark.ofText (moduleText cs docstring first) =
      told (headerComments cs first) ++ Remark.ofText docstring := by
  have habove : (if (header cs first).isEmpty then [] else [joined "\n" (header cs first)]).flatMap
      Remark.ofText = told (headerComments cs first) := by
    rw [header_eq]
    split
    · rename_i hempty
      rw [List.isEmpty_iff, List.map_eq_nil_iff] at hempty
      rw [hempty]
      rfl
    · rw [List.flatMap_singleton, ofText_joined_texts]
  unfold moduleText
  dsimp only
  rw [Remark.ofText_joined]
  split
  · rename_i hnone
    rw [habove, hnone, show Remark.ofText "" = [] from rfl, List.append_nil]
  · rw [List.flatMap_append, habove, List.flatMap_singleton]

/-- Each block says what its own comments say. -/
theorem remarks_moduleBlocks (file : String) (tree : Tree) (cs : List Comment) :
    (moduleBlocks file tree cs).map (·.remarks) =
      match ownComments tree cs with
      | [] => []
      | own :: rest => (told own ++ Remark.ofText tree.docstring) :: rest.map told := by
  unfold moduleBlocks ownComments
  dsimp only
  rw [List.map_cons, List.map_map, List.map_map]
  refine congrArg₂ _ (ofText_moduleText _ _) (List.map_congr_left fun d _ => ?_)
  exact ofText_joined_texts _

theorem eq_moduleBlocks (h : blocks source file = .ok bs) :
    ∃ tree cs, parseModule source.toList = .ok tree ∧ comments source = .ok cs ∧
      bs = moduleBlocks file tree cs := by
  unfold blocks at h
  dsimp only at h
  split at h
  · cases h
  · split at h
    · cases h
    · rename_i tree htree
      cases hcomments : comments source with
      | error e =>
        rw [hcomments] at h
        cases h
      | ok cs =>
        rw [hcomments] at h
        cases h
        exact ⟨tree, cs, htree, rfl, rfl⟩

end Blocks

/-! ## Comments of two blocks -/

section Shared

variable {cs : List Comment} {d e first : Declaration}

/-- Every line from the one above a line down to another line has a comment. -/
def ShareRun (cs : List Comment) (line next : Nat) : Prop :=
  1 ≤ line ∧ line ≤ next ∧ ∀ l, line ≤ l + 1 → l < next → Commented cs l

/-- Two declarations have no comment in common exactly if no run of comments reaches from one to the
other. -/
theorem disjoint_above_iff (h : d.NotAfter e) :
    (above cs d.line).Disjoint (above cs e.line) ↔ ¬ ShareRun cs d.line e.line := by
  constructor
  · rintro hdisjoint ⟨hone, hle, hrun⟩
    obtain ⟨c, hc, hline⟩ := hrun (d.line - 1) (by omega) (by omega)
    refine hdisjoint (mem_above_iff.mpr ⟨hc, by omega, fun l hl hlt => hrun l (by omega) (by omega)⟩)
      (mem_above_iff.mpr ⟨hc, by omega, fun l hl hlt => hrun l (by omega) hlt⟩)
  · intro hshare c hd he
    obtain ⟨-, hlt, -⟩ := mem_above_iff.mp hd
    obtain ⟨-, hlt', hrun⟩ := mem_above_iff.mp he
    have hle : d.line ≤ e.line := h.resolve_left (by omega)
    exact hshare ⟨by omega, hle, fun l hl hlt => hrun l (by omega) hlt⟩

/-- The comments of the module belong to no declaration. -/
theorem disjoint_headerComments (h : first.NotAfter d) :
    (headerComments cs (some first.line)).Disjoint (above cs d.line) := by
  intro c hheader hd
  obtain ⟨-, hbefore⟩ := List.mem_filter.mp hheader
  obtain ⟨hc, hlt, hrun⟩ := mem_above_iff.mp hd
  have hle : first.line ≤ d.line := h.resolve_left (by omega)
  -- The run above the later declaration would reach up to the first one and on.
  have hstart : runStart cs first.line ≤ c.line := runStart_le_iff.mpr fun l hl hfirst => hrun l hl (by omega)
  simp only [decide_eq_true_eq] at hbefore
  omega

/-- No comment belongs to two blocks exactly if no two declarations share a run. -/
theorem pairwise_disjoint_iff {tree : Tree} (h : tree.declarations.Pairwise Declaration.NotAfter) :
    (ownComments tree cs).Pairwise List.Disjoint ↔
      tree.declarations.Pairwise fun d e => ¬ ShareRun cs d.line e.line := by
  unfold ownComments
  generalize tree.declarations = ds at h
  have hdeclarations : (ds.map fun d => above cs d.line).Pairwise List.Disjoint ↔
      ds.Pairwise fun d e => ¬ ShareRun cs d.line e.line := by
    rw [List.pairwise_map]
    exact ⟨fun hdisjoint => (h.and hdisjoint).imp fun hboth => (disjoint_above_iff hboth.1).mp hboth.2,
      fun hshare => (h.and hshare).imp fun hboth => (disjoint_above_iff hboth.1).mpr hboth.2⟩
  rw [List.pairwise_cons, hdeclarations, and_iff_right]
  intro own hown
  obtain ⟨d, hd, rfl⟩ := List.mem_map.mp hown
  cases ds with
  | nil => cases hd
  | cons first rest =>
    refine disjoint_headerComments ?_
    rcases List.mem_cons.mp hd with rfl | hd
    · exact .inr (Nat.le_refl _)
    · exact (List.pairwise_cons.mp h).1 d hd

/-- From a line without a comment no run reaches further down, so only declarations on one line share a
run. -/
theorem shareRun_iff {line next : Nat} (h : ¬ Commented cs line) :
    ShareRun cs line next ↔ line = next ∧ Commented cs (line - 1) := by
  constructor
  · rintro ⟨hone, hle, hrun⟩
    have heq : line = next := hle.antisymm (Nat.le_of_not_lt fun hlt => h (hrun line (by omega) hlt))
    exact ⟨heq, hrun (line - 1) (by omega) (by omega)⟩
  · rintro ⟨rfl, hcomment⟩
    have hone : line ≠ 0 := by
      rintro rfl
      exact h hcomment
    refine ⟨by omega, Nat.le_refl line, fun l hl hlt => ?_⟩
    rwa [show l = line - 1 by omega]

end Shared

/-- No declaration starts on the line of a comment. -/
theorem not_commented_line {source : String} {tree : Tree} {cs : List Comment} {d : Declaration}
    (hreturn : '\r' ∉ source.toList) (htree : parseModule source.toList = .ok tree)
    (hcomments : comments source = .ok cs) (hd : d ∈ tree.declarations) : ¬ Commented cs d.line := by
  rintro ⟨c, hc, hline⟩
  obtain ⟨hlines, -⟩ := declarations_spec (valid_of_parseModule htree) (inLineOrder_of_parseModule htree)
  rcases hlines d hd with hzero | ⟨k, hk, hsolid, hstart⟩
  · have hone := ((comments_stand hcomments).2 c hc).1
    omega
  · exact comment_line_ne hreturn htree hcomments hc hk hsolid (hline.trans hstart.symm)

end ApiDirectives.Source

namespace ApiDirectives

open Source

theorem comments_belong_once_iff {source file : String} {bs : List Block}
    (h : blocks source file = .ok bs) :
    ∃ tree cs, parseModule source.toList = .ok tree ∧ Source.comments source = .ok cs ∧
      bs.map (·.remarks) = (match ownComments tree cs with
        | [] => []
        | own :: rest => (told own ++ Remark.ofText tree.docstring) :: rest.map told) ∧
      ((ownComments tree cs).Pairwise List.Disjoint ↔
        tree.declarations.Pairwise fun d e => ¬ ShareRun cs d.line e.line) ∧
      ('\r' ∉ source.toList → ((ownComments tree cs).Pairwise List.Disjoint ↔
        tree.declarations.Pairwise fun d e => d.line = e.line → ¬ Commented cs (d.line - 1))) := by
  obtain ⟨tree, cs, htree, hcomments, rfl⟩ := eq_moduleBlocks h
  obtain ⟨-, horder⟩ := declarations_spec (valid_of_parseModule htree) (inLineOrder_of_parseModule htree)
  have hdisjoint : (ownComments tree cs).Pairwise List.Disjoint ↔
      tree.declarations.Pairwise fun d e => ¬ ShareRun cs d.line e.line := pairwise_disjoint_iff horder
  refine ⟨tree, cs, htree, hcomments, remarks_moduleBlocks file tree cs, hdisjoint, fun hreturn => ?_⟩
  rw [hdisjoint]
  refine List.Pairwise.iff_of_mem fun {d e} hd _ => ?_
  rw [shareRun_iff (not_commented_line hreturn htree hcomments hd), not_and]

/-- The comment above a class and the one above its field, each for itself. -/
theorem comments_belong_once_at_class :
    ∃ tree cs, parseModule "# !tag w\n\n# !tag x\nclass A:\n    # !tag y\n    x = 1\n".toList = .ok tree ∧
      Source.comments "# !tag w\n\n# !tag x\nclass A:\n    # !tag y\n    x = 1\n" = .ok cs ∧
      (ownComments tree cs).Pairwise List.Disjoint := by
  have hparse : (parseModule "# !tag w\n\n# !tag x\nclass A:\n    # !tag y\n    x = 1\n".toList).toOption.map
      (fun tree => (tree.declarations, tree.docstring)) =
        some ([⟨"A", .classBody, 4, none⟩, ⟨"x", .field, 6, some ⟨"A", 4⟩⟩], "") := by
    rw [String.toList_ofList]
    decide +kernel
  have hcomments : Source.comments "# !tag w\n\n# !tag x\nclass A:\n    # !tag y\n    x = 1\n" =
      .ok [⟨1, "!tag w"⟩, ⟨3, "!tag x"⟩, ⟨5, "!tag y"⟩] := by
    rw [comments_ofList]
    decide
  obtain ⟨tree, cs, htree, hcs, -, -, hiff⟩ :=
    comments_belong_once_iff (blocks_of_parse "a.py" (by decide) hparse hcomments)
  refine ⟨tree, cs, htree, hcs, (hiff (by decide)).mpr ?_⟩
  rw [htree] at hparse
  have hlines : tree.declarations.map (·.line) = [4, 6] :=
    congrArg (fun found => found.1.map (·.line)) (Option.some.inj hparse)
  have hpairs : (tree.declarations.map (·.line)).Pairwise (· ≠ ·) := by rw [hlines]; decide
  exact (List.pairwise_map.mp hpairs).imp fun hne heq => absurd heq hne

/-- A class in one line and its field have the same comment, and both are operations. -/
theorem class_in_one_line_doubles_comment :
    ((blocks "# !GET /a -> x\nclass A: x = 1\n" "a.py").toOption.map fun bs =>
        bs.map fun b => (b.declaration, b.remarks.map (·.raw))) =
        some [("a", []), ("A", ["!GET /a -> x"]), ("x", ["!GET /a -> x"])] ∧
      ∃ tree cs, parseModule "# !GET /a -> x\nclass A: x = 1\n".toList = .ok tree ∧
        Source.comments "# !GET /a -> x\nclass A: x = 1\n" = .ok cs ∧
        ¬ (ownComments tree cs).Pairwise List.Disjoint := by
  have hparse : (parseModule "# !GET /a -> x\nclass A: x = 1\n".toList).toOption.map
      (fun tree => (tree.declarations, tree.docstring)) =
        some ([⟨"A", .classBody, 2, none⟩, ⟨"x", .field, 2, some ⟨"A", 2⟩⟩], "") := by
    rw [String.toList_ofList]
    decide +kernel
  have hcomments : Source.comments "# !GET /a -> x\nclass A: x = 1\n" = .ok [⟨1, "!GET /a -> x"⟩] := by
    rw [comments_ofList]
    decide
  refine ⟨?_, ?_⟩
  · rw [blocks_of_parse "a.py" (by decide) hparse hcomments]
    decide
  cases htree : parseModule "# !GET /a -> x\nclass A: x = 1\n".toList with
  | error e =>
    rw [htree] at hparse
    cases hparse
  | ok tree =>
    rw [htree] at hparse
    refine ⟨tree, _, rfl, hcomments, fun hdisjoint => ?_⟩
    have hlines : tree.declarations.map (·.line) = [2, 2] :=
      congrArg (fun found => found.1.map (·.line)) (Option.some.inj hparse)
    have hown : (tree.declarations.map fun d => above [⟨1, "!GET /a -> x"⟩] d.line) =
        [[⟨1, "!GET /a -> x"⟩], [⟨1, "!GET /a -> x"⟩]] := by
      have hmap := congrArg (List.map (above [⟨1, "!GET /a -> x"⟩])) hlines
      rw [List.map_map] at hmap
      exact hmap.trans (by decide)
    unfold ownComments at hdisjoint
    rw [hown, List.pairwise_cons, List.pairwise_cons] at hdisjoint
    exact hdisjoint.2.1 _ List.mem_cons_self List.mem_cons_self List.mem_cons_self

end ApiDirectives
