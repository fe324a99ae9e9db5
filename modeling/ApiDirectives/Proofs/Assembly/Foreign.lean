import ApiDirectives.Proofs.Assembly.Roles

/-!
# Directives of other roles

A block is merged by the directives of its own role. Those of other roles are named in one error and
have no other effect: `Block.own` leaves them out, and a block and its own part do the same to the
draft and find the same, except for that error, which the block reports first. Since what a block does
depends on the draft and not on what was reported before, two whole runs differ by these errors and by
nothing else.
-/

namespace ApiDirectives

theorem Kind.role_ne_none (k : Kind) : k.role ≠ .none := by
  cases k <;> decide

namespace Block

/-- The block without its directives of other roles. -/
def own (b : Block) : Block :=
  { b with remarks := b.kept }

/-- The first directive decides the role, so it stays. -/
@[simp]
theorem role_own (b : Block) : b.own.role = b.role := by
  cases hremarks : b.remarks with
  | nil => simp [own, kept, role, hremarks]
  | cons r rest =>
    have hrole : b.role = r.role := by simp [role, hremarks]
    have hkept : b.kept = r :: rest.filter (·.role = b.role) := by
      simp [kept, hremarks, hrole]
    rw [hrole]
    simp [own, role, hkept]

@[simp]
theorem kept_own (b : Block) : b.own.kept = b.kept := by
  have hkept : b.own.kept = b.kept.filter (·.role = b.own.role) := rfl
  rw [hkept, role_own]
  simp [kept]

@[simp]
theorem foreign_own (b : Block) : b.own.foreign = [] := by
  have hforeign : b.own.foreign = b.kept.filter (·.role ≠ b.own.role) := rfl
  rw [hforeign, role_own, List.filter_eq_nil_iff]
  intro r hr
  have hrole : r.role = b.role := by simpa using (List.mem_filter.mp hr).2
  simp [hrole]

/-- A block without a role has no directives. -/
theorem foreign_of_role_none {b : Block} (h : b.role = .none) : b.foreign = [] := by
  cases hremarks : b.remarks with
  | nil => simp [foreign, hremarks]
  | cons r rest =>
    have hrole : b.role = r.role := by simp [role, hremarks]
    exact absurd (hrole.symm.trans h) (Kind.role_ne_none _)

end Block

/-- The model that a block describes is told by its declaration, not by its directives. -/
theorem Models.merge_own (models : Models) (rejected : List Location) (block : Block)
    (remarks : List Remark) :
    merge models rejected block.own remarks = merge models rejected block remarks := rfl

namespace Assembly

/-! ## One block -/

theorem mixed_eq (block : Block) :
    mixed block =
      if block.foreign = [] then []
      else [⟨.mixedRoles block.declaration block.role (block.foreign.map (·.directive.keyword)),
        some block.location⟩] := by
  unfold mixed
  split <;> simp_all

/-- Two assemblies that differ by what they reported at most. -/
structure Alike (a b : Assembly) : Prop where
  draft : a.draft = b.draft
  rejected : a.rejected = b.rejected

variable {a b : Assembly}

/-- A block does to an assembly what its own part does to one that is alike, and finds the same after
the error on its directives of other roles. -/
theorem Alike.step_own (h : a.Alike b) (block : Block) :
    (a.step block).Alike (b.step block.own) ∧
      a.added block = mixed block ++ b.added block.own := by
  have hmixed : mixed block.own = [] := by simp [mixed_eq]
  have howned : block.own.role = block.role := block.role_own
  unfold added
  cases hrole : block.role with
  | none =>
    rw [step_none hrole, step_none (howned.trans hrole)]
    exact ⟨h, by simp [mixed_eq, Block.foreign_of_role_none hrole]⟩
  | api =>
    rw [step_api hrole, step_api (howned.trans hrole), Block.kept_own, hmixed, h.draft]
    exact ⟨⟨rfl, h.rejected⟩, by simp [Block.own]⟩
  | operation =>
    rw [step_operation hrole, step_operation (howned.trans hrole), Block.kept_own, hmixed, h.draft]
    exact ⟨⟨rfl, h.rejected⟩, by simp [Block.own]⟩
  | schema =>
    rw [step_schema hrole, step_schema (howned.trans hrole), Block.kept_own, hmixed,
      Models.merge_own, h.draft, h.rejected]
    exact ⟨⟨rfl, rfl⟩, by simp⟩

/-! ## Whole runs -/

/-- What each block of a run finds, block by block. -/
def foundInTurn (a : Assembly) : List Block → List (List Diagnostic)
  | [] => []
  | block :: rest => a.added block :: (a.step block).foundInTurn rest

/-- A run reports what its blocks find, in turn. -/
theorem run_diagnostics (a : Assembly) (blocks : List Block) :
    (a.run blocks).diagnostics = a.diagnostics ++ (a.foundInTurn blocks).flatten := by
  induction blocks generalizing a with
  | nil => simp [run, foundInTurn]
  | cons block rest ih =>
    have hrest := ih (a.step block)
    rw [step_diagnostics, List.append_assoc] at hrest
    exact hrest

/-- Two runs, over blocks and over their own parts, from assemblies that are alike. -/
theorem Alike.run_own (h : a.Alike b) (blocks : List Block) :
    (a.run blocks).Alike (b.run (blocks.map Block.own)) ∧
      a.foundInTurn blocks =
        List.zipWith (fun block found => mixed block ++ found) blocks
          (b.foundInTurn (blocks.map Block.own)) := by
  induction blocks generalizing a b with
  | nil => exact ⟨h, rfl⟩
  | cons block rest ih =>
    obtain ⟨hstep, hadded⟩ := h.step_own block
    obtain ⟨hrun, hfound⟩ := ih hstep
    refine ⟨hrun, ?_⟩
    rw [List.map_cons, foundInTurn, foundInTurn, List.zipWith_cons_cons, hadded, hfound]

end Assembly

/-- Directives of other roles than their block's change nothing in the draft. They change what is
reported by one error for each block that has some, before whatever else the block finds. -/
theorem foreign_directives_inert (blocks : List Block) :
    let own := blocks.map Block.own
    let found := Assembly.foundInTurn {} own
    (assemble blocks).draft = (assemble own).draft ∧
      (assemble own).diagnostics = found.flatten ∧
      (assemble blocks).diagnostics =
        (List.zipWith (fun block others =>
          (if block.foreign = [] then []
            else [⟨.mixedRoles block.declaration block.role
              (block.foreign.map (·.directive.keyword)), some block.location⟩]) ++ others)
          blocks found).flatten := by
  intro own found
  obtain ⟨halike, hturns⟩ := Assembly.Alike.run_own (a := {}) (b := {}) ⟨rfl, rfl⟩ blocks
  have hblocks := Assembly.run_diagnostics {} blocks
  simp only [hturns, Assembly.mixed_eq, List.nil_append] at hblocks
  have hown := Assembly.run_diagnostics {} own
  exact ⟨halike.draft, hown, hblocks⟩

end ApiDirectives
