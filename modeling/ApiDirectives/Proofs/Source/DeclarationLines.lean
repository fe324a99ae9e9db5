import ApiDirectives.Proofs.Source.TokenLines
import ApiDirectives.Proofs.Source.ValidTrees

/-!
# Declarations come line by line

The statements of a module are parts of its tree, one behind the other, and so are the statements of a
class. A declaration starts at the line of one of its tokens, and never at one that is layout: at a keyword,
the expression of a decorator, or the target of a field. So declarations come in the order of their lines,
the class before its fields, and whatever is written further down later. A line of zero stands for a tree
without tokens.
-/

namespace ApiDirectives.Source

/-! ## Parts of a tree -/

section Parts

variable {ts us : List Tree} {t : Tree}

/-- Parts of parts are parts of the whole. -/
theorem tokensOf_flatMap_sublist {f : Tree → List Tree} (h : ∀ t, (tokensOf (f t)).Sublist t.tokens)
    (ts : List Tree) : (tokensOf (ts.flatMap f)).Sublist (tokensOf ts) := by
  rw [tokensOf_eq_flatMap, List.flatMap_assoc, tokensOf_eq_flatMap]
  refine .flatMap_right ts fun t _ => ?_
  rw [← tokensOf_eq_flatMap]
  exact h t

theorem lineStatements_sublist (t : Tree) : (tokensOf (lineStatements t)).Sublist t.tokens := by
  unfold lineStatements
  split
  · rw [Tree.tokens_node]
    exact tokensOf_sublist List.filter_sublist
  · simp

theorem runStatements_sublist (t : Tree) : (tokensOf (runStatements t)).Sublist t.tokens := by
  unfold runStatements
  split
  · rw [Tree.tokens_node]
    exact tokensOf_flatMap_sublist lineStatements_sublist _
  · exact lineStatements_sublist t

/-- The statements of a block are parts of it. -/
theorem bodyStatements_sublist (t : Tree) : (tokensOf (bodyStatements t)).Sublist t.tokens := by
  unfold bodyStatements
  split
  · rename_i t rest
    rw [Tree.tokens_node]
    exact (runStatements_sublist t).trans (tokens_sublist_of_mem List.mem_cons_self)
  · rename_i a b t c
    rw [Tree.tokens_node]
    exact (runStatements_sublist t).trans (tokens_sublist_of_mem (by simp))
  · exact List.nil_sublist _
  · exact runStatements_sublist t

/-- A tree without its grouping brackets is a part of it. -/
theorem Tree.core_sublist : ∀ t : Tree, t.core.tokens.Sublist t.tokens
  | .leaf _ => .refl _
  | .node r ts => by
    unfold core
    split
    · rename_i a b c
      split
      · rw [Tree.tokens_node]
        exact b.core_sublist.trans (tokens_sublist_of_mem (by simp))
      · exact .refl _
    · exact .refl _

end Parts

/-! ## The lines of declarations -/

/-- A line of a token that is no layout, or zero where there is none. -/
def IsLineOf (tokens : List Token) (line : Nat) : Prop :=
  line = 0 ∨ ∃ k ∈ tokens, k.isLayout = false ∧ k.line = line

section Lines

variable {tokens more : List Token} {t : Tree} {ts : List Tree} {line : Nat}

theorem IsLineOf.mono (h : IsLineOf tokens line) (hsub : tokens.Sublist more) : IsLineOf more line :=
  h.imp_right fun ⟨k, hk, hline⟩ => ⟨k, hsub.mem hk, hline⟩

/-- A tree starts at its first token. -/
theorem Tree.start_eq : ∀ t : Tree, t.start = 0 ∨ ∃ k rest, t.tokens = k :: rest ∧ k.line = t.start
  | .leaf k => .inr ⟨k, [], by simp, by simp [start]⟩
  | .node r [] => .inl (by simp [start])
  | .node r (t :: ts) => by
    have hstart : (Tree.node r (t :: ts)).start = t.start := by rw [start]
    rw [hstart, Tree.tokens_node, tokensOf_cons]
    rcases t.start_eq with hzero | ⟨k, rest, htokens, hline⟩
    · exact .inl hzero
    · exact .inr ⟨k, rest ++ tokensOf ts, by rw [htokens]; rfl, hline⟩

theorem Tree.IsInline.isLineOf_start (h : t.IsInline) : IsLineOf t.tokens t.start := by
  rcases t.start_eq with hzero | ⟨k, rest, htokens, hline⟩
  · exact .inl hzero
  · have hk : k ∈ t.tokens := by rw [htokens]; exact List.mem_cons_self
    exact .inr ⟨k, hk, h k hk, hline⟩

/-- Without its grouping brackets, too, a tree starts at one of its tokens. -/
theorem Tree.IsInline.isLineOf_line (h : t.IsInline) : IsLineOf t.tokens t.line := by
  have hcore : t.core.IsInline := fun k hk => h k (t.core_sublist.mem hk)
  exact hcore.isLineOf_start.mono t.core_sublist

/-- A definition starts at its keyword. -/
theorem Tree.Valid.isLineOf_start {r : Rule} (h : Valid (.node r ts))
    (hr : (r.production.openings.all opensWithText && r.production.steps.isEmpty) = true) :
    IsLineOf (Tree.node r ts).tokens (Tree.node r ts).start := by
  obtain ⟨k, us, rfl, hk⟩ := h.keyword hr
  exact .inr ⟨k, by simp, hk, by simp [start]⟩

/-- Nothing of a tree stands before its start. -/
theorem Tree.start_le (h : InLineOrder t.tokens) : ∀ k ∈ t.tokens, t.start ≤ k.line := by
  intro k hk
  rcases t.start_eq with hzero | ⟨first, rest, htokens, hline⟩
  · omega
  · rw [htokens] at h hk
    rcases List.mem_cons.mp hk with rfl | hk
    · exact hline.ge
    · exact hline ▸ (List.pairwise_cons.mp h).1 k hk

theorem isLineOf_decoratorLines {t : Tree} (hv : t.Valid) (h : line ∈ decoratorLines t) :
    IsLineOf t.tokens line := by
  unfold decoratorLines at h
  split at h
  · rename_i ts
    obtain ⟨d, hd, rfl⟩ := List.mem_map.mp h
    obtain ⟨hmem, hneither⟩ := List.mem_filter.mp hd
    rw [Bool.and_eq_true, Bool.not_eq_true', Bool.not_eq_true'] at hneither
    -- What is neither the sign nor the end of the line is the expression.
    have hinline : d.IsInline := by
      rcases hv.decorators d hmem with hsign | hend | hinline
      · rw [hsign] at hneither
        cases hneither.1
      · rw [hend] at hneither
        cases hneither.2
      · exact hinline
    rw [Tree.tokens_node]
    exact hinline.isLineOf_line.mono (tokens_sublist_of_mem hmem)
  · cases h

/-- A definition without its decorators is a part of it, and so are the decorators. -/
theorem undecorated_parts {t : Tree} (hv : t.Valid) :
    (undecorated t).2.Valid ∧ (undecorated t).2.tokens.Sublist t.tokens ∧
      ∀ line ∈ (undecorated t).1, IsLineOf t.tokens line := by
  unfold undecorated
  split
  · rename_i ds bare
    rw [Tree.tokens_node]
    exact ⟨hv.of_mem (by simp), tokens_sublist_of_mem (by simp), fun line hline =>
      (isLineOf_decoratorLines (hv.of_mem (by simp)) hline).mono (tokens_sublist_of_mem (by simp))⟩
  · rename_i ds bare
    rw [Tree.tokens_node]
    exact ⟨hv.of_mem (by simp), tokens_sublist_of_mem (by simp), fun line hline =>
      (isLineOf_decoratorLines (hv.of_mem (by simp)) hline).mono (tokens_sublist_of_mem (by simp))⟩
  · exact ⟨hv, .refl _, by simp⟩

/-- The least of a line and others is one of them, and no more than the first. -/
theorem foldl_min_spec (lines : List Nat) (first : Nat) :
    lines.foldl min first ≤ first ∧ (lines.foldl min first = first ∨ lines.foldl min first ∈ lines) := by
  induction lines generalizing first with
  | nil => exact ⟨Nat.le_refl _, .inl rfl⟩
  | cons line lines ih =>
    rw [List.foldl_cons]
    obtain ⟨hle, hmem⟩ := ih (min first line)
    refine ⟨hle.trans (Nat.min_le_left _ _), ?_⟩
    rcases hmem with heq | hmem
    · rcases Nat.le_total first line with hfirst | hline
      · exact .inl (heq.trans (Nat.min_eq_left hfirst))
      · exact .inr (by rw [heq, Nat.min_eq_right hline]; exact List.mem_cons_self)
    · exact .inr (List.mem_cons_of_mem _ hmem)

end Lines

/-! ## Their order -/

/-- A declaration comes no later than another, unless that has no tokens. -/
def Declaration.NotAfter (d e : Declaration) : Prop := e.line = 0 ∨ d.line ≤ e.line

section Order

variable {t : Tree} {ts : List Tree} {d : Declaration}

/-- What is part of one tree stands before what is part of a later one. -/
theorem pairwise_of_inLineOrder (h : InLineOrder (tokensOf ts)) :
    (∀ t ∈ ts, InLineOrder t.tokens) ∧
      ts.Pairwise fun t u => ∀ k ∈ t.tokens, ∀ l ∈ u.tokens, k.line ≤ l.line := by
  rw [tokensOf_eq_flatMap] at h
  exact List.pairwise_flatMap.mp h

/-- A line of an earlier tree is no greater than one of a later tree. -/
theorem IsLineOf.le {tokens more : List Token} {line next : Nat} (h : IsLineOf tokens line)
    (hnext : IsLineOf more next) (horder : ∀ k ∈ tokens, ∀ l ∈ more, k.line ≤ l.line) :
    next = 0 ∨ line ≤ next := by
  rcases hnext with hzero | ⟨l, hl, -, rfl⟩
  · exact .inl hzero
  · rcases h with hzero | ⟨k, hk, -, rfl⟩
    · exact .inr (by omega)
    · exact .inr (horder k hk l hl)

/-- A field is declared by an assignment, which has no layout in it. -/
theorem Tree.Valid.isInline_of_field {name : String} (hv : t.Valid) (h : fieldName? t = some name) :
    t.IsInline := by
  unfold fieldName? at h
  split at h
  · exact hv.isInline rfl
  · cases h

/-- The fields of a class start at their statements. -/
theorem isLineOf_fieldDeclarations {owner : Owner} (hv : ∀ t ∈ ts, t.Valid)
    (h : d ∈ fieldDeclarations owner ts) : IsLineOf (tokensOf ts) d.line := by
  obtain ⟨t, ht, hd⟩ := List.mem_filterMap.mp h
  obtain ⟨name, hname, rfl⟩ := Option.map_eq_some_iff.mp hd
  exact ((hv t ht).isInline_of_field hname).isLineOf_start.mono (tokens_sublist_of_mem ht)

theorem fieldDeclarations_inOrder (owner : Owner) (hv : ∀ t ∈ ts, t.Valid) (h : InLineOrder (tokensOf ts)) :
    (fieldDeclarations owner ts).Pairwise Declaration.NotAfter := by
  refine List.pairwise_filterMap.mpr ((pairwise_of_inLineOrder h).2.imp_of_mem ?_)
  intro t u ht hu horder d hd e he
  obtain ⟨_, hname, rfl⟩ := Option.map_eq_some_iff.mp hd
  obtain ⟨_, hnext, rfl⟩ := Option.map_eq_some_iff.mp he
  exact ((hv t ht).isInline_of_field hname).isLineOf_start.le
    ((hv u hu).isInline_of_field hnext).isLineOf_start horder

/-- What a statement declares: a function, or a class and its fields. -/
theorem statementDeclarations_spec (hv : t.Valid) (h : InLineOrder t.tokens) :
    (∀ d ∈ statementDeclarations t, IsLineOf t.tokens d.line) ∧
      (statementDeclarations t).Pairwise Declaration.NotAfter := by
  obtain ⟨hvalid, hbare, hlines⟩ := undecorated_parts hv
  unfold statementDeclarations
  generalize undecorated t = parts at hvalid hbare hlines
  obtain ⟨lines, bare⟩ := parts
  dsimp only at hvalid hbare hlines ⊢
  obtain ⟨hleast, hone⟩ := foldl_min_spec lines bare.start
  generalize lines.foldl min bare.start = line at hleast hone
  have hline (hstart : IsLineOf bare.tokens bare.start) : IsLineOf t.tokens line := by
    rcases hone with rfl | hmem
    · exact hstart.mono hbare
    · exact hlines _ hmem
  split
  · replace hline := hline (hvalid.isLineOf_start (by decide))
    exact ⟨fun d hd => by rw [List.mem_singleton.mp hd]; exact hline, List.pairwise_singleton _ _⟩
  · rename_i ts
    replace hline := hline (hvalid.isLineOf_start (by decide))
    have hordered : InLineOrder (Tree.node (.statement .bareClass) ts).tokens := h.sublist hbare
    have hbody : (tokensOf ((ts.getLast?.map bodyStatements).getD [])).Sublist
        (Tree.node (.statement .bareClass) ts).tokens := by
      cases hlast : ts.getLast? with
      | none => exact List.nil_sublist _
      | some body =>
        rw [Option.map_some, Option.getD_some, Tree.tokens_node]
        exact (bodyStatements_sublist body).trans (tokens_sublist_of_mem (List.mem_of_getLast? hlast))
    have hstatements : ∀ u ∈ (ts.getLast?.map bodyStatements).getD [], u.Valid := by
      cases hlast : ts.getLast? with
      | none => simp
      | some body => exact (hvalid.of_mem (List.mem_of_getLast? hlast)).bodyStatements
    have hfield : ∀ d ∈ fieldDeclarations ⟨firstName ts, line⟩ ((ts.getLast?.map bodyStatements).getD []),
        IsLineOf (Tree.node (.statement .bareClass) ts).tokens d.line :=
      fun d hd => (isLineOf_fieldDeclarations hstatements hd).mono hbody
    refine ⟨List.forall_mem_cons.mpr ⟨hline, fun d hd => (hfield d hd).mono hbare⟩,
      List.pairwise_cons.mpr ⟨fun d hd => ?_, fieldDeclarations_inOrder _ hstatements (hordered.sublist hbody)⟩⟩
    -- The fields of a class stand behind its first token.
    rcases hfield d hd with hzero | ⟨k, hk, -, hkline⟩
    · exact .inl hzero
    · exact .inr (hkline ▸ hleast.trans (Tree.start_le hordered k hk))
  · exact ⟨by simp, .nil⟩

/-- The declarations of a module start at tokens that are no layout, and come in the order of their
lines. -/
theorem declarations_spec (hv : t.Valid) (h : InLineOrder t.tokens) :
    (∀ d ∈ t.declarations, IsLineOf t.tokens d.line) ∧ t.declarations.Pairwise Declaration.NotAfter := by
  have hbody := bodyStatements_sublist t
  obtain ⟨hordered, horder⟩ := pairwise_of_inLineOrder (h.sublist hbody)
  have hspec := fun s hs => statementDeclarations_spec (hv.bodyStatements s hs) (hordered s hs)
  refine ⟨fun d hd => ?_, List.pairwise_flatMap.mpr ⟨fun s hs => (hspec s hs).2, ?_⟩⟩
  · obtain ⟨s, hs, hd⟩ := List.mem_flatMap.mp hd
    exact ((hspec s hs).1 d hd).mono ((tokens_sublist_of_mem hs).trans hbody)
  · exact horder.imp_of_mem fun hs hu hlines d hd e he => ((hspec _ hs).1 d hd).le ((hspec _ hu).1 e he) hlines

end Order

end ApiDirectives.Source
