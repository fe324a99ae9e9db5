import ApiDirectives.Draft.Header
import ApiDirectives.Draft.Models
import ApiDirectives.Draft.Operations

/-!
# Assembling a draft

Blocks are merged in order. Conflicts never stop the run: the first declaration is kept and a
diagnostic is added. Directives of another role than their block's are reported and left out.
-/

namespace ApiDirectives

/-- The draft so far, the places of the classes that lost their name, and the findings in order. -/
structure Assembly where
  draft : Draft := {}
  rejected : List Location := []
  diagnostics : List Diagnostic := []
  deriving Repr, DecidableEq, Inhabited

namespace Assembly

/-- The finding that a block mixes roles, if it does. -/
def mixed (block : Block) : List Diagnostic :=
  match block.foreign with
  | [] => []
  | foreign =>
    [⟨.mixedRoles block.declaration block.role (foreign.map (·.directive.keyword)),
      some block.location⟩]

/-- Merges one block. -/
def step (a : Assembly) (block : Block) : Assembly :=
  match block.role with
  | .none => a
  | .api =>
    let (header, found) := a.draft.header.merge block.location block.kept
    { a with
      draft := { a.draft with header }
      diagnostics := a.diagnostics ++ (mixed block ++ found) }
  | .operation =>
    let (operations, found) :=
      Operations.merge a.draft.operations block.declaration block.location block.kept
    { a with
      draft := { a.draft with operations }
      diagnostics := a.diagnostics ++ (mixed block ++ found) }
  | .schema =>
    let (models, rejected, found) := Models.merge a.draft.models a.rejected block block.kept
    { draft := { a.draft with models }
      rejected
      diagnostics := a.diagnostics ++ (mixed block ++ found) }

/-- Merges blocks in order. -/
def run (a : Assembly) (blocks : List Block) : Assembly :=
  blocks.foldl step a

end Assembly

/-- Merges blocks, in order, into a draft. -/
def assemble (blocks : List Block) : Assembly :=
  Assembly.run {} blocks

end ApiDirectives
