import ApiDirectives.Draft.Assembly
import Mathlib.Data.List.Basic
import Mathlib.Data.List.Induction

/-!
# Runs of the assembly

A run takes blocks one after another, so a fact about every run is a fact about the empty one that
each block preserves: `assemble_induction`. What one block does is told by its role: each role has
its own part of the draft, and the findings of a block belong to its role (`step_diagnostics_scope`).
Both are used by every statement on assembled drafts. What a block or a directive adds often depends on
those before it; `inTurn` collects this over a list.
-/

namespace ApiDirectives

/-! ## The shape of a run -/

@[simp]
theorem assemble_nil : assemble [] = {} := rfl

theorem assemble_append_singleton (blocks : List Block) (block : Block) :
    assemble (blocks ++ [block]) = (assemble blocks).step block := by
  simp only [assemble, Assembly.run, List.foldl_append, List.foldl_cons, List.foldl_nil]

/-- What holds of no blocks and is kept by every further block holds of every run. -/
theorem assemble_induction {P : List Block → Assembly → Prop} (nil : P [] {})
    (step : ∀ blocks block, P blocks (assemble blocks) →
      P (blocks ++ [block]) ((assemble blocks).step block))
    (blocks : List Block) : P blocks (assemble blocks) := by
  induction blocks using List.reverseRecOn with
  | nil => exact nil
  | append_singleton blocks block ih =>
    rw [assemble_append_singleton]
    exact step blocks block ih

/-! ## Members in context -/

/-- Each member of a list with the members before it and those after it. -/
def inContext {α : Type} : List α → List (List α × α × List α)
  | [] => []
  | a :: rest =>
    ([], a, rest) :: (inContext rest).map fun (before, b, after) => (a :: before, b, after)

/-- What the members of a list add up to, if each adds what depends on those before it. -/
def inTurn {α β : Type} (add : List α → α → List β) (xs : List α) : List β :=
  (inContext xs).flatMap fun (before, a, _) => add before a

theorem inContext_concat {α : Type} (xs : List α) (x : α) :
    inContext (xs ++ [x]) =
      (inContext xs).map (fun (before, a, after) => (before, a, after ++ [x]))
        ++ [(xs, x, [])] := by
  induction xs with
  | nil => rfl
  | cons a xs ih => simp [inContext, ih]

theorem inTurn_concat {α β : Type} (add : List α → α → List β) (xs : List α) (x : α) :
    inTurn add (xs ++ [x]) = inTurn add xs ++ add xs x := by
  simp [inTurn, inContext_concat, List.flatMap_map]

/-! ## One block, by its role -/

/-- Leaving out directives of other roles loses nothing that only directives of the block's role give. -/
theorem Block.filterMap_kept {β : Type} {block : Block} {f : Remark → Option β}
    (h : ∀ r, (f r).isSome = true → r.role = block.role) :
    block.kept.filterMap f = block.remarks.filterMap f := by
  rw [kept, List.filterMap_filter]
  apply List.filterMap_congr
  intro r _
  cases hr : f r with
  | none => simp
  | some b => simp [h r (by simp [hr])]

namespace Assembly

variable {a : Assembly} {block : Block}

theorem step_none (h : block.role = .none) : a.step block = a := by
  simp only [step, h]

theorem step_api (h : block.role = .api) :
    a.step block =
      { a with
        draft := { a.draft with header := (a.draft.header.merge block.location block.kept).1 }
        diagnostics := a.diagnostics
          ++ (mixed block ++ (a.draft.header.merge block.location block.kept).2) } := by
  simp only [step, h]

theorem step_operation (h : block.role = .operation) :
    a.step block =
      { a with
        draft := { a.draft with
          operations := (Operations.merge a.draft.operations block.declaration block.location
            block.kept).1 }
        diagnostics := a.diagnostics ++ (mixed block
          ++ (Operations.merge a.draft.operations block.declaration block.location
            block.kept).2) } := by
  simp only [step, h]

theorem step_schema (h : block.role = .schema) :
    a.step block =
      { draft := { a.draft with
          models := (Models.merge a.draft.models a.rejected block block.kept).1 }
        rejected := (Models.merge a.draft.models a.rejected block block.kept).2.1
        diagnostics := a.diagnostics
          ++ (mixed block ++ (Models.merge a.draft.models a.rejected block block.kept).2.2) } := by
  simp only [step, h]

/-- Only blocks on the interface change the header. -/
theorem step_header (a : Assembly) (block : Block) :
    (a.step block).draft.header =
      if block.role = .api then (a.draft.header.merge block.location block.kept).1
      else a.draft.header := by
  cases h : block.role with
  | none => rw [step_none h, if_neg nofun]
  | api => rw [step_api h, if_pos rfl]
  | operation => rw [step_operation h, if_neg nofun]
  | schema => rw [step_schema h, if_neg nofun]

end Assembly

/-! ## The findings of one block -/

/-- The findings with a cause of some kind. -/
def findings (kind : Cause → Bool) (found : List Diagnostic) : List Diagnostic :=
  found.filter (kind ·.cause)

@[simp]
theorem findings_append (kind : Cause → Bool) (ds es : List Diagnostic) :
    findings kind (ds ++ es) = findings kind ds ++ findings kind es :=
  List.filter_append ..

theorem findings_map {α : Type} {kind : Cause → Bool} {f : α → Diagnostic}
    (h : ∀ x, kind (f x).cause = false) (xs : List α) : findings kind (xs.map f) = [] := by
  apply List.filter_eq_nil_iff.mpr
  intro d hd
  obtain ⟨x, _, rfl⟩ := List.mem_map.mp hd
  simp [h x]

theorem findings_mixed {kind : Cause → Bool}
    (h : ∀ declaration role keywords, kind (.mixedRoles declaration role keywords) = false)
    (block : Block) : findings kind (Assembly.mixed block) = [] := by
  unfold Assembly.mixed
  split
  · rfl
  · simp [findings, h]

/-- The role of the blocks that a cause is found in; none for causes that are not found in blocks. -/
def Cause.scope : Cause → Role
  | .mixedRoles _ role _ => role
  | .duplicateWebhook .. | .strayWebhookPart .. => .api
  | .missingRoute .. | .extraRoute .. | .duplicateOperation .. | .duplicateOperationId .. =>
    .operation
  | .duplicateModel .. | .extraModel .. => .schema
  | _ => .none

/-- All findings are about blocks of a role. -/
def Within (role : Role) (found : List Diagnostic) : Prop :=
  ∀ d ∈ found, d.cause.scope = role

theorem within_append {role : Role} {ds es : List Diagnostic} :
    Within role (ds ++ es) ↔ Within role ds ∧ Within role es := by
  simp only [Within, List.forall_mem_append]

theorem within_map {α : Type} {role : Role} {f : α → Diagnostic}
    (h : ∀ x, (f x).cause.scope = role) (xs : List α) : Within role (xs.map f) := by
  intro d hd
  obtain ⟨x, _, rfl⟩ := List.mem_map.mp hd
  exact h x

/-- Findings of a kind that belongs to one role are found in blocks of that role only. -/
theorem findings_eq_nil_of_within {kind : Cause → Bool} {scope role : Role}
    {found : List Diagnostic} (hkind : ∀ c, kind c = true → c.scope = scope)
    (h : Within role found) (hrole : role ≠ scope) : findings kind found = [] := by
  apply List.filter_eq_nil_iff.mpr
  intro d hd hk
  exact hrole ((h d hd).symm.trans (hkind d.cause hk))

namespace Header

/-- A directive of a block adds findings on interface directives, or none. -/
theorem step_within (location : Location) (m : Merge) (d : Directive)
    (h : Within .api m.diagnostics) : Within .api (Merge.step location m d).diagnostics := by
  cases d with
  | webhook name method description =>
    simp only [Merge.step, Merge.addWebhook]
    split
    · exact within_append.mpr ⟨h, by simp [Within, Cause.scope]⟩
    · exact h
  | webhookBody payload =>
    simp only [Merge.step, Merge.onWebhook]
    split
    · exact within_append.mpr ⟨h, by simp [Within, Cause.scope]⟩
    · exact h
  | webhookResponse reply =>
    simp only [Merge.step, Merge.onWebhook]
    split
    · exact within_append.mpr ⟨h, by simp [Within, Cause.scope]⟩
    · exact h
  | _ => exact h

theorem merge_within (h : Header) (location : Location) (remarks : List Remark) :
    Within .api (h.merge location remarks).2 := by
  -- The directives of a block are merged in turn, from any state of the merge.
  have fold : ∀ (ds : List Directive) (m : Merge), Within .api m.diagnostics →
      Within .api (ds.foldl (Merge.step location) m).diagnostics := by
    intro ds
    induction ds with
    | nil => intro m hm; exact hm
    | cons d ds ih => intro m hm; exact ih _ (step_within location m d hm)
  exact fold _ _ (by simp [Within])

end Header

/-- The causes that a path and method, or an identifier, is taken. -/
def Cause.clashes : Cause → Bool
  | .duplicateOperation .. | .duplicateOperationId .. => true
  | _ => false

theorem Cause.scope_of_clashes (c : Cause) (h : c.clashes = true) : c.scope = .operation := by
  cases c <;> first | rfl | cases h

theorem Operations.clashes_of_conflict? {operations : Operations} {route : Route}
    {location : Location} {cause : Cause}
    (h : conflict? operations route location = some cause) : cause.clashes = true := by
  unfold conflict? at h
  split at h
  · cases h
    rfl
  · split at h
    · cases h
      rfl
    · cases h

theorem Operations.merge_within (operations : Operations) (declaration : String)
    (location : Location) (remarks : List Remark) :
    Within .operation (merge operations declaration location remarks).2 := by
  unfold merge
  split
  · simp [Within, Cause.scope]
  · rename_i route raw extra _
    have hextra : Within .operation
        (extra.map fun e => ⟨.extraRoute declaration e.2, some location⟩) := by
      apply within_map
      intro x
      rfl
    dsimp only
    split
    · rename_i cause hcause
      refine within_append.mpr ⟨hextra, ?_⟩
      simpa [Within] using cause.scope_of_clashes (clashes_of_conflict? hcause)
    · exact hextra

theorem Models.merge_within (models : Models) (rejected : List Location) (block : Block)
    (remarks : List Remark) : Within .schema (merge models rejected block remarks).2.2 := by
  unfold merge
  dsimp only
  split
  · simp [Within]
  · split
    · simp [Within, Cause.scope]
    · apply within_map
      intro x
      rfl

theorem Assembly.mixed_within (block : Block) : Within block.role (mixed block) := by
  unfold mixed
  split <;> simp [Within, Cause.scope]

/-- A block adds findings at the end, and they are about its own role. -/
theorem Assembly.step_diagnostics_scope (a : Assembly) (block : Block) :
    ∃ found, (a.step block).diagnostics = a.diagnostics ++ found ∧ Within block.role found := by
  have hmixed := mixed_within block
  cases h : block.role with
  | none => exact ⟨[], by simp [step_none h], by simp [Within]⟩
  | api =>
    rw [h] at hmixed
    exact ⟨_, by rw [step_api h], within_append.mpr ⟨hmixed, Header.merge_within _ _ _⟩⟩
  | operation =>
    rw [h] at hmixed
    exact ⟨_, by rw [step_operation h], within_append.mpr ⟨hmixed, Operations.merge_within _ _ _ _⟩⟩
  | schema =>
    rw [h] at hmixed
    exact ⟨_, by rw [step_schema h], within_append.mpr ⟨hmixed, Models.merge_within _ _ _ _⟩⟩

end ApiDirectives
