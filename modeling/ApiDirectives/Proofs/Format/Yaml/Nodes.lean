import ApiDirectives.Format.Yaml.Node
import ApiDirectives.Proofs.Format.Yaml.Scanning

/-!
# What the reader of nodes refuses tokens for

Nodes are read without a look at what their scalars stand for, so nothing that is blamed here is a scalar:
a stream of tokens is a document or breaks a rule of the format. The readers of nodes call each other, and
the bound on their steps falls with each call; what holds for all of them at a bound is kept in one
structure, and the induction on the bound carries it.
-/

namespace ApiDirectives.Yaml

variable {α β : Type}

/-! ## Readers -/

/-- A reader that has no scalar fault, wherever it starts. -/
def Reader.OnlyRefuses (m : Reader α) : Prop := ∀ r, Blames (fun _ => False) (m r)

namespace Reader

theorem onlyRefuses_pure (a : α) : OnlyRefuses (pure a) := fun _ => trivial

theorem onlyRefuses_fail (problem : Problem) : OnlyRefuses (fail problem : Reader α) :=
  fun _ => trivial

theorem OnlyRefuses.bind {m : Reader α} {f : α → Reader β} (hm : OnlyRefuses m)
    (hf : ∀ a, OnlyRefuses (f a)) : OnlyRefuses (m >>= f) :=
  fun r => Blames.bind (hm r) fun read => hf read.1 read.2

theorem OnlyRefuses.ite {c : Prop} [Decidable c] {m n : Reader α} (hm : OnlyRefuses m)
    (hn : OnlyRefuses n) : OnlyRefuses (if c then m else n) := by
  split
  · exact hm
  · exact hn

theorem onlyRefuses_get : OnlyRefuses (get : Reader Reading) := fun _ => trivial

theorem onlyRefuses_peek : OnlyRefuses peek := fun _ => trivial

theorem onlyRefuses_drop : OnlyRefuses drop := fun _ => trivial

theorem onlyRefuses_ahead (options : List Token) : OnlyRefuses (ahead options) := fun _ => trivial

theorem onlyRefuses_accept (t : Token) : OnlyRefuses (accept t) :=
  .bind onlyRefuses_peek fun _ =>
    .ite (.bind onlyRefuses_drop fun _ => onlyRefuses_pure _) (onlyRefuses_pure _)

theorem onlyRefuses_separated (first : Bool) : OnlyRefuses (separated first) :=
  .ite (onlyRefuses_pure _) (onlyRefuses_accept _)

theorem onlyRefuses_named (name : String) : OnlyRefuses (named name) := by
  refine .bind onlyRefuses_get fun r => ?_
  split
  · exact onlyRefuses_pure _
  · exact onlyRefuses_fail _

theorem onlyRefuses_introduce (name : Option String) (n : Node) : OnlyRefuses (introduce name n) := by
  cases name with
  | none => exact onlyRefuses_pure _
  | some name => exact .bind onlyRefuses_get fun _ => .ite (onlyRefuses_fail _) fun _ => trivial

theorem onlyRefuses_complete (name : Option String) (n : Node) : OnlyRefuses (complete name n) := by
  cases name with
  | none => exact onlyRefuses_pure _
  | some name => exact .bind (fun _ => trivial) fun _ => onlyRefuses_pure _

theorem onlyRefuses_anchor : OnlyRefuses anchor? := by
  refine .bind onlyRefuses_peek fun next => ?_
  split
  · exact .bind onlyRefuses_drop fun _ => onlyRefuses_pure _
  · exact onlyRefuses_pure _

theorem onlyRefuses_tag (handles : Handles) : OnlyRefuses (tag? handles) := by
  refine .bind onlyRefuses_peek fun next => ?_
  split
  · exact .bind onlyRefuses_drop fun _ => onlyRefuses_pure _
  · refine .bind onlyRefuses_drop fun _ => ?_
    split
    · exact onlyRefuses_pure _
    · exact onlyRefuses_fail _
  · exact onlyRefuses_pure _

theorem onlyRefuses_properties (handles : Handles) : OnlyRefuses (properties handles) := by
  refine .bind onlyRefuses_anchor fun name => ?_
  split
  · exact .bind (onlyRefuses_tag _) fun _ => onlyRefuses_pure _
  · refine .bind (onlyRefuses_tag _) fun tag => ?_
    split
    · exact .bind onlyRefuses_anchor fun _ => onlyRefuses_pure _
    · exact onlyRefuses_pure _

end Reader

open Reader

/-! ## Nodes and collections -/

/-- What all readers of nodes have in common within a bound on their steps. -/
structure ReadersRefuse (handles : Handles) (bound : Nat) : Prop where
  node (block indentless : Bool) : Reader.OnlyRefuses (node handles bound block indentless)
  nodeUnless (ends : List Token) (block indentless : Bool) :
    Reader.OnlyRefuses (nodeUnless handles bound ends block indentless)
  blockItems : Reader.OnlyRefuses (blockItems handles bound)
  indentlessItems : Reader.OnlyRefuses (indentlessItems handles bound)
  blockEntries : Reader.OnlyRefuses (blockEntries handles bound)
  flowItems (first : Bool) : Reader.OnlyRefuses (flowItems handles bound first)
  flowPair (close : Token) : Reader.OnlyRefuses (flowPair handles bound close)
  flowEntries (first : Bool) : Reader.OnlyRefuses (flowEntries handles bound first)

namespace ReadersRefuse

variable {handles : Handles} {bound : Nat}

/-- A collection is read between the introduction of its name and its completion. -/
theorem collection {name : Option String} {start : Node} {items : Reader α} {made : α → Node}
    (h : Reader.OnlyRefuses items) : Reader.OnlyRefuses (do
      introduce name start
      complete name (made (← items))) :=
  .bind (onlyRefuses_introduce _ _) fun _ => .bind h fun _ => onlyRefuses_complete _ _

theorem node_succ (h : ReadersRefuse handles bound) (block indentless : Bool) :
    Reader.OnlyRefuses (Yaml.node handles (bound + 1) block indentless) := by
  rw [Yaml.node]
  refine .bind onlyRefuses_peek fun next => ?_
  split
  · exact .bind onlyRefuses_drop fun _ => onlyRefuses_named _
  · refine .bind (onlyRefuses_properties _) fun given => .bind onlyRefuses_peek fun next => ?_
    split
    · exact .bind onlyRefuses_drop fun _ => .bind (onlyRefuses_introduce _ _) fun _ => onlyRefuses_pure _
    · exact .bind onlyRefuses_drop fun _ => collection (h.flowItems _)
    · exact .bind onlyRefuses_drop fun _ => collection (h.flowEntries _)
    · refine .ite (collection h.indentlessItems) <|
        .ite (.bind onlyRefuses_drop fun _ => collection h.blockItems) <|
        .ite (.bind onlyRefuses_drop fun _ => collection h.blockEntries) <| .ite ?_ (onlyRefuses_fail _)
      exact .bind (onlyRefuses_introduce _ _) fun _ => onlyRefuses_pure _

theorem nodeUnless_succ (h : ReadersRefuse handles bound) (ends : List Token)
    (block indentless : Bool) :
    Reader.OnlyRefuses (Yaml.nodeUnless handles (bound + 1) ends block indentless) := by
  rw [Yaml.nodeUnless]
  exact .bind (onlyRefuses_ahead _) fun _ => .ite (onlyRefuses_pure _) (h.node _ _)

theorem blockItems_succ (h : ReadersRefuse handles bound) :
    Reader.OnlyRefuses (Yaml.blockItems handles (bound + 1)) := by
  rw [Yaml.blockItems]
  refine .bind (onlyRefuses_accept _) fun _ => .ite ?_ ?_
  · exact .bind (h.nodeUnless _ _ _) fun _ => .bind h.blockItems fun _ => onlyRefuses_pure _
  · exact .bind (onlyRefuses_accept _) fun _ => .ite (onlyRefuses_pure _) (onlyRefuses_fail _)

theorem indentlessItems_succ (h : ReadersRefuse handles bound) :
    Reader.OnlyRefuses (Yaml.indentlessItems handles (bound + 1)) := by
  rw [Yaml.indentlessItems]
  refine .bind (onlyRefuses_accept _) fun _ => .ite ?_ (onlyRefuses_pure _)
  exact .bind (h.nodeUnless _ _ _) fun _ => .bind h.indentlessItems fun _ => onlyRefuses_pure _

theorem blockEntries_succ (h : ReadersRefuse handles bound) :
    Reader.OnlyRefuses (Yaml.blockEntries handles (bound + 1)) := by
  rw [Yaml.blockEntries]
  refine .bind (onlyRefuses_accept _) fun _ => .ite ?_ ?_
  · refine .bind (h.nodeUnless _ _ _) fun _ => .bind (onlyRefuses_accept _) fun _ => .ite ?_ ?_
    · exact .bind (h.nodeUnless _ _ _) fun _ => .bind h.blockEntries fun _ => onlyRefuses_pure _
    · exact .bind (onlyRefuses_pure _) fun _ => .bind h.blockEntries fun _ => onlyRefuses_pure _
  · exact .bind (onlyRefuses_accept _) fun _ => .ite (onlyRefuses_pure _) (onlyRefuses_fail _)

theorem flowItems_succ (h : ReadersRefuse handles bound) (first : Bool) :
    Reader.OnlyRefuses (Yaml.flowItems handles (bound + 1) first) := by
  rw [Yaml.flowItems]
  refine .bind (onlyRefuses_accept _) fun _ => .ite (onlyRefuses_pure _) ?_
  refine .bind (onlyRefuses_separated _) fun _ => .ite (onlyRefuses_fail _) ?_
  refine .bind (onlyRefuses_accept _) fun _ => .ite (onlyRefuses_pure _) ?_
  refine .bind (onlyRefuses_accept _) fun _ => .ite ?_ ?_
  · exact .bind (h.flowPair _) fun _ => .bind (h.flowItems _) fun _ => onlyRefuses_pure _
  · exact .bind (h.node _ _) fun _ => .bind (h.flowItems _) fun _ => onlyRefuses_pure _

theorem flowPair_succ (h : ReadersRefuse handles bound) (close : Token) :
    Reader.OnlyRefuses (Yaml.flowPair handles (bound + 1) close) := by
  rw [Yaml.flowPair]
  refine .bind (h.nodeUnless _ _ _) fun _ => .bind (onlyRefuses_accept _) fun _ => .ite ?_ ?_
  · exact .bind (h.nodeUnless _ _ _) fun _ => onlyRefuses_pure _
  · exact .bind (onlyRefuses_pure _) fun _ => onlyRefuses_pure _

theorem flowEntries_succ (h : ReadersRefuse handles bound) (first : Bool) :
    Reader.OnlyRefuses (Yaml.flowEntries handles (bound + 1) first) := by
  rw [Yaml.flowEntries]
  refine .bind (onlyRefuses_accept _) fun _ => .ite (onlyRefuses_pure _) ?_
  refine .bind (onlyRefuses_separated _) fun _ => .ite (onlyRefuses_fail _) ?_
  refine .bind (onlyRefuses_accept _) fun _ => .ite (onlyRefuses_pure _) ?_
  refine .bind (onlyRefuses_accept _) fun _ => .ite ?_ ?_
  · exact .bind (h.flowPair _) fun _ => .bind (h.flowEntries _) fun _ => onlyRefuses_pure _
  · exact .bind (h.node _ _) fun _ => .bind (h.flowEntries _) fun _ => onlyRefuses_pure _

end ReadersRefuse

/-- Whatever the bound, readers of nodes blame no scalar. -/
theorem readersRefuse (handles : Handles) (bound : Nat) :
    ReadersRefuse handles bound := by
  induction bound with
  | zero =>
    constructor <;> intros <;> intro r
    all_goals
      simp only [node, nodeUnless, blockItems, indentlessItems, blockEntries, flowItems, flowPair,
        flowEntries]
      exact onlyRefuses_fail _ r
  | succ bound ih =>
    exact {
      node := ih.node_succ
      nodeUnless := ih.nodeUnless_succ
      blockItems := ih.blockItems_succ
      indentlessItems := ih.indentlessItems_succ
      blockEntries := ih.blockEntries_succ
      flowItems := ih.flowItems_succ
      flowPair := ih.flowPair_succ
      flowEntries := ih.flowEntries_succ }

/-! ## Documents -/

variable {P : ScalarFault → Prop}

theorem blames_prologue (p : Prologue) (ts : List Token) : Blames P (prologue p ts) := by
  fun_induction prologue p ts with
  | case1 p r ih => exact ih
  | case2 => exact blames_refuse _
  | case3 => exact blames_refuse _
  | case4 p r major _ _ _ ih => exact ih
  | case5 => exact blames_refuse _
  | case6 p r name meaning _ ih => exact ih
  | case7 => exact blames_ok _

theorem blames_documentNode (handles : Handles) (ts : List Token) :
    Blames P (documentNode handles ts) :=
  blames_map.mpr (((readersRefuse handles _).node true false _).mono fun _ h => h.elim)

/-- Tokens are a document, are none at all, or break a rule. -/
theorem blames_document (ts : List Token) : Blames P (document? ts) := by
  unfold document?
  split
  · exact blames_pure _
  · exact blames_pure _
  · -- What may stand behind the node is the same for all three beginnings.
    extract_lets finish
    have hfinish : ∀ found, Blames P (finish found) := by
      rintro ⟨n, rest⟩
      dsimp only [finish]
      split
      · exact blames_pure _
      · exact blames_pure _
      · exact blames_refuse _
    split
    iterate 2
      · refine .bind (blames_prologue _ _) fun opened => ?_
        dsimp only
        split
        · exact .ite (.bind (blames_pure _) hfinish) (.bind (blames_documentNode _ _) hfinish)
        · exact .bind (blames_refuse _) hfinish
    · exact .bind (blames_documentNode _ _) hfinish

end ApiDirectives.Yaml
