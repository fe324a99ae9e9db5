import ApiDirectives.Proofs.Assembly.Run
import ApiDirectives.Proofs.Table

/-!
# Operations of an assembled draft

A block of operation directives has two possible outcomes: one operation is added at the end, or the
draft stays as it is and exactly one error says that the block was refused. `Assembly.Settled` states
them, and everything below is read off it. Operations are conserved: each operation block is accounted
for by an operation or by a rejection, and what was accepted once stays in its place. And they are
well formed: an operation is found under its own path and method, and neither these nor the
identifiers repeat.
-/

namespace ApiDirectives

/-! ## Rejections -/

/-- The causes that keep a whole operation block out of the draft. -/
def Cause.rejects : Cause → Bool
  | .missingRoute .. | .duplicateOperation .. | .duplicateOperationId .. => true
  | _ => false

theorem Cause.scope_of_rejects (c : Cause) (h : c.rejects = true) : c.scope = .operation := by
  cases c <;> first | rfl | cases h

theorem Cause.rejects_of_clashes (c : Cause) (h : c.clashes = true) : c.rejects = true := by
  cases c <;> first | rfl | cases h

@[simp]
theorem findings_rejects_mixed (block : Block) :
    findings Cause.rejects (Assembly.mixed block) = [] :=
  findings_mixed (fun _ _ _ => rfl) block

/-! ## One block -/

namespace Operations

/-- The identifiers of operations, in order. -/
def ids (operations : Operations) : List String :=
  operations.values.map (·.operationId)

/-- Nothing stands in the way of a route: its place and its identifier are not taken. -/
def Free (operations : Operations) (route : Route) : Prop :=
  (route.path, route.method) ∉ operations.keys ∧ route.operationId ∉ operations.ids

theorem role_of_route {d : Directive} {route : Route} (h : Route.of? d = some route) :
    d.role = .operation := by
  cases d <;> first | rfl | cases h

/-- Leaving out directives of other roles loses no route of an operation block. -/
theorem routes_kept {block : Block} (h : block.role = .operation) :
    routes block.kept = routes block.remarks := by
  refine Block.filterMap_kept fun r hr => ?_
  rw [Option.isSome_map] at hr
  obtain ⟨route, hroute⟩ := Option.isSome_iff_exists.mp hr
  rw [h]
  exact role_of_route hroute

theorem find?_id_eq_none_iff {operations : Operations} {id : String} :
    operations.values.find? (·.operationId = id) = none ↔ id ∉ operations.ids := by
  simp [ids]

/-- A conflict is found exactly where a route is not free. -/
theorem conflict?_eq_none_iff {operations : Operations} {route : Route} {location : Location} :
    conflict? operations route location = none ↔ Free operations route := by
  unfold conflict? Free
  rw [← Table.get?_eq_none_iff, ← find?_id_eq_none_iff]
  split
  · rename_i hget
    simp [hget]
  · rename_i hget
    split <;> simp_all

end Operations

namespace Assembly

/-- What an operation block can do. Either its first route is free, and the operation is added at the
end while no finding is a rejection; or there is no free first route, and the draft stays while
exactly one finding is a rejection. -/
inductive Settled (a : Assembly) (block : Block) : Assembly → Prop
  | accepted {route : Operations.Route} {raw : String} {more : List (Operations.Route × String)}
      {found : List Diagnostic} :
      Operations.routes block.remarks = (route, raw) :: more →
      a.draft.operations.Free route → findings Cause.rejects found = [] →
      Settled a block
        { a with
          draft := { a.draft with
            operations := a.draft.operations ++
              [((route.path, route.method), Operations.build route block.location block.kept)] }
          diagnostics := a.diagnostics ++ found }
  | refused {found : List Diagnostic} {d : Diagnostic} :
      (∀ route raw more, Operations.routes block.remarks = (route, raw) :: more →
        ¬ a.draft.operations.Free route) →
      findings Cause.rejects found = [d] →
      Settled a block { a with diagnostics := a.diagnostics ++ found }

variable {a : Assembly} {block : Block}

/-- An operation block has no third outcome. -/
theorem step_settled (h : block.role = .operation) : Settled a block (a.step block) := by
  rw [step_operation h]
  unfold Operations.merge
  rw [Operations.routes_kept h]
  cases hroutes : Operations.routes block.remarks with
  | nil =>
    refine .refused (d := ⟨.missingRoute block.declaration, some block.location⟩) ?_ ?_
    · simp [hroutes]
    · rw [findings_append, findings_rejects_mixed]
      rfl
  | cons head more =>
    obtain ⟨route, raw⟩ := head
    -- Routes after the first are reported, but they refuse nothing: `findings_map`.
    dsimp only
    cases hconflict : Operations.conflict? a.draft.operations route block.location with
    | none =>
      refine .accepted hroutes (Operations.conflict?_eq_none_iff.mp hconflict) ?_
      rw [findings_append, findings_rejects_mixed, findings_map fun _ => rfl]
      rfl
    | some cause =>
      refine .refused (d := ⟨cause, some block.location⟩) ?_ ?_
      · intro route' raw' more' hroutes' hfree
        rw [hroutes] at hroutes'
        cases hroutes'
        rw [Operations.conflict?_eq_none_iff.mpr hfree] at hconflict
        cases hconflict
      · rw [findings_append, findings_rejects_mixed, findings_append, findings_map fun _ => rfl]
        simp [findings, cause.rejects_of_clashes (Operations.clashes_of_conflict? hconflict)]

/-- Blocks of other roles leave the operations alone and are never refused. -/
theorem step_of_role_ne_operation (h : block.role ≠ .operation) :
    (a.step block).draft.operations = a.draft.operations ∧
      findings Cause.rejects (a.step block).diagnostics = findings Cause.rejects a.diagnostics := by
  constructor
  · cases hrole : block.role with
    | none => rw [step_none hrole]
    | api => rw [step_api hrole]
    | operation => exact absurd hrole h
    | schema => rw [step_schema hrole]
  · obtain ⟨found, hfound, hwithin⟩ := step_diagnostics_scope a block
    rw [hfound, findings_append, findings_eq_nil_of_within Cause.scope_of_rejects hwithin h,
      List.append_nil]

/-! ## Conservation -/

/-- One block adds one operation or one rejection if it is an operation block, else neither. -/
theorem step_balance (a : Assembly) (block : Block) :
    (a.step block).draft.operations.length
        + (findings Cause.rejects (a.step block).diagnostics).length =
      a.draft.operations.length + (findings Cause.rejects a.diagnostics).length
        + if block.role = .operation then 1 else 0 := by
  by_cases h : block.role = .operation
  · rw [if_pos h]
    have hsettled := step_settled (a := a) h
    generalize a.step block = after at hsettled ⊢
    cases hsettled with
    | accepted hroutes hfree hfound =>
      simp only [findings_append, hfound, List.length_append, List.length_cons, List.length_nil]
      omega
    | refused htaken hfound =>
      simp only [findings_append, hfound, List.length_append, List.length_cons, List.length_nil]
      omega
  · obtain ⟨hoperations, hrejections⟩ := step_of_role_ne_operation (a := a) h
    rw [hoperations, hrejections, if_neg h, Nat.add_zero]

/-- A block leaves the operations before it in their places. -/
theorem step_operations_prefix (a : Assembly) (block : Block) :
    a.draft.operations <+: (a.step block).draft.operations := by
  by_cases h : block.role = .operation
  · have hsettled := step_settled (a := a) h
    generalize a.step block = after at hsettled ⊢
    cases hsettled with
    | accepted hroutes hfree hfound => exact List.prefix_append ..
    | refused htaken hfound => exact List.prefix_refl _
  · simp [(step_of_role_ne_operation h).1]

end Assembly

/-- Over a run each operation block is an operation of the draft or a rejection. -/
theorem assemble_balance (blocks : List Block) :
    (assemble blocks).draft.operations.length
        + (findings Cause.rejects (assemble blocks).diagnostics).length =
      (blocks.filter (·.role = .operation)).length := by
  induction blocks using assemble_induction with
  | nil => rfl
  | step blocks block ih =>
    rw [Assembly.step_balance, ih, List.filter_append, List.length_append]
    by_cases h : block.role = .operation <;> simp [h]

/-- Further blocks leave the operations so far in their places. -/
theorem assemble_operations_prefix (before after : List Block) :
    (assemble before).draft.operations <+: (assemble (before ++ after)).draft.operations := by
  induction after using List.reverseRecOn with
  | nil => simp
  | append_singleton after block ih =>
    rw [← List.append_assoc, assemble_append_singleton]
    exact ih.trans (Assembly.step_operations_prefix _ block)

/-- Each operation block, after any run, is accepted whole or refused whole. So the operations and the
rejections of a run are as many as its operation blocks, and a run only ever extends the operations of
a shorter one. -/
theorem operations_conserved :
    (∀ (before : List Block) (block : Block), block.role = .operation →
      Assembly.Settled (assemble before) block (assemble (before ++ [block]))) ∧
    (∀ blocks : List Block,
      (assemble blocks).draft.operations.length
          + (findings Cause.rejects (assemble blocks).diagnostics).length =
        (blocks.filter (·.role = .operation)).length) ∧
    ∀ before after : List Block,
      (assemble before).draft.operations <+: (assemble (before ++ after)).draft.operations := by
  refine ⟨?_, assemble_balance, assemble_operations_prefix⟩
  intro before block h
  rw [assemble_append_singleton]
  exact Assembly.step_settled h

/-- A second route and a directive of another role do not save a block whose identifier is taken. -/
theorem operations_conserved_at_taken_id :
    let first := Block.ofComment "!GET /users -> users" "list" .function ⟨"api.py", 3⟩
    let second := Block.ofComment "!POST /users -> users\n!GET /all -> all\n!model" "add" .function
      ⟨"api.py", 9⟩
    second.role = .operation ∧
      Assembly.Settled (assemble [first]) second (assemble [first, second]) ∧
      (findings Cause.rejects (assemble [first, second]).diagnostics).length = 1 := by
  intro first second
  obtain ⟨hrole, hone, htwo⟩ :
      second.role = .operation ∧ (assemble [first, second]).draft.operations.length = 1 ∧
      ([first, second].filter (·.role = .operation)).length = 2 := by
    dsimp only [first, second]
    rw [Block.ofComment_ofList, Block.ofComment_ofList]
    exact ⟨by decide, by decide, by decide⟩
  refine ⟨hrole, operations_conserved.1 [first] second hrole, ?_⟩
  have hsum := operations_conserved.2.1 [first, second]
  omega

/-! ## Well-formedness -/

namespace Operations

/-- Operations stand under their own paths and methods, and neither these nor identifiers repeat. -/
structure WellFormed (operations : Operations) : Prop where
  keyed : ∀ entry ∈ operations, entry.1 = (entry.2.path, entry.2.method)
  keys_nodup : operations.keys.Nodup
  ids_nodup : operations.ids.Nodup

theorem addPart_identity (o : OperationDraft) (d : Directive) :
    (addPart o d).path = o.path ∧ (addPart o d).method = o.method ∧
      (addPart o d).operationId = o.operationId := by
  cases d <;> exact ⟨rfl, rfl, rfl⟩

/-- An operation has the path, the method and the identifier of its route. -/
theorem build_identity (route : Route) (location : Location) (remarks : List Remark) :
    (build route location remarks).path = route.path ∧
      (build route location remarks).method = route.method ∧
      (build route location remarks).operationId = route.operationId := by
  have fold : ∀ (ds : List Directive) (o : OperationDraft),
      (ds.foldl addPart o).path = o.path ∧ (ds.foldl addPart o).method = o.method ∧
        (ds.foldl addPart o).operationId = o.operationId := by
    intro ds
    induction ds with
    | nil => intro o; exact ⟨rfl, rfl, rfl⟩
    | cons d ds ih =>
      intro o
      obtain ⟨hpath, hmethod, hid⟩ := addPart_identity o d
      obtain ⟨ihpath, ihmethod, ihid⟩ := ih (addPart o d)
      exact ⟨ihpath.trans hpath, ihmethod.trans hmethod, ihid.trans hid⟩
  exact fold _ _

/-- A free route can be added. -/
theorem WellFormed.append {operations : Operations} (h : operations.WellFormed) {route : Route}
    (hfree : operations.Free route) (location : Location) (remarks : List Remark) :
    WellFormed
      (operations ++ [((route.path, route.method), build route location remarks)]) := by
  obtain ⟨hpath, hmethod, hid⟩ := build_identity route location remarks
  refine ⟨?_, ?_, ?_⟩
  · intro entry hentry
    rcases List.mem_append.mp hentry with hold | hnew
    · exact h.keyed entry hold
    · rw [List.mem_singleton.mp hnew, hpath, hmethod]
  · simp only [Table.keys, List.map_append, List.map_cons, List.map_nil]
    exact h.keys_nodup.append (List.nodup_singleton _) (List.disjoint_singleton.mpr hfree.1)
  · simp only [ids, Table.values, List.map_append, List.map_cons, List.map_nil, hid]
    exact h.ids_nodup.append (List.nodup_singleton _) (List.disjoint_singleton.mpr hfree.2)

end Operations

/-- A block keeps the operations well formed. -/
theorem Assembly.step_wellFormed {a : Assembly} (h : a.draft.operations.WellFormed)
    (block : Block) : (a.step block).draft.operations.WellFormed := by
  by_cases hrole : block.role = .operation
  · have hsettled := step_settled (a := a) hrole
    generalize a.step block = after at hsettled ⊢
    cases hsettled with
    | accepted hroutes hfree hfound => exact h.append hfree block.location block.kept
    | refused htaken hfound => exact h
  · rw [(step_of_role_ne_operation hrole).1]
    exact h

/-- The operations of every assembled draft are well formed. -/
theorem assemble_operations_wellFormed (blocks : List Block) :
    (assemble blocks).draft.operations.WellFormed := by
  induction blocks using assemble_induction with
  | nil => exact ⟨by simp, List.nodup_nil, List.nodup_nil⟩
  | step blocks block ih => exact Assembly.step_wellFormed ih block

end ApiDirectives
