import ApiDirectives.Proofs.Assembly.Operations
import ApiDirectives.Proofs.Resolve.Yields
import ApiDirectives.Resolve.Document
import Mathlib.Data.List.Perm.Basic

/-!
# Operations of a document

A draft keeps its operations in one table by path and method; a document keeps a path item for each
path with a slot for each method. Going from one to the other could lose an operation where two of
them meet in a slot. They do not, because every method has its own slot and no path and method repeat
in an assembled draft. So a document has exactly the operations that were accepted.
-/

namespace ApiDirectives

/-! ## Slots of a path item -/

theorem Method.mem_all (m : Method) : m ∈ Method.all := by
  cases m <;> decide

theorem Method.nodup_all : Method.all.Nodup := by decide

namespace PathItem

theorem operation?_withOperation (p : PathItem) (o : Operation) (m m' : Method) :
    (p.withOperation o m).operation? m' = if m = m' then some o else p.operation? m' := by
  cases m <;> cases m' <;> rfl

theorem operation?_empty (m : Method) : operation? {} m = none := by
  cases m <;> rfl

theorem operations_withOperation_empty (o : Operation) (m : Method) :
    (withOperation {} o m).operations = [(m, o)] := by
  cases m <;> rfl

theorem mem_operations {p : PathItem} {m : Method} {o : Operation} :
    (m, o) ∈ p.operations ↔ p.operation? m = some o := by
  simp only [operations, List.mem_filterMap, Option.map_eq_some_iff, Prod.mk.injEq]
  constructor
  · rintro ⟨m', _, o', ho', rfl, rfl⟩
    exact ho'
  · intro ho
    exact ⟨m, Method.mem_all m, o, ho, rfl, rfl⟩

/-- Filling an empty slot adds one operation. -/
theorem operations_withOperation_perm {p : PathItem} {m : Method} (h : p.operation? m = none)
    (o : Operation) : (p.withOperation o m).operations.Perm ((m, o) :: p.operations) := by
  obtain ⟨before, after, hall⟩ := List.append_of_mem (Method.mem_all m)
  have hnodup : (before ++ m :: after).Nodup := hall ▸ Method.nodup_all
  -- The slots before and after the one that is filled read as they did.
  have hother : ∀ l : List Method, m ∉ l →
      (l.filterMap fun m' => ((p.withOperation o m).operation? m').map fun o => (m', o)) =
        l.filterMap fun m' => (p.operation? m').map fun o => (m', o) := by
    intro l hl
    apply List.filterMap_congr
    intro m' hm'
    rw [operation?_withOperation, if_neg]
    rintro rfl
    exact hl hm'
  have hbefore : m ∉ before := fun hm =>
    (List.nodup_append.mp hnodup).2.2 m hm m List.mem_cons_self rfl
  have hafter : m ∉ after := (List.nodup_cons.mp (List.nodup_append.mp hnodup).2.1).1
  simp only [operations, hall, List.filterMap_append, List.filterMap_cons,
    operation?_withOperation, if_true, h, Option.map_some, Option.map_none]
  rw [← hother before hbefore, ← hother after hafter]
  simpa only [operation?_withOperation] using List.perm_middle

end PathItem

/-! ## Grouping by path -/

/-- The operations of a table of path items, in order. -/
def pathOperations (paths : Table String PathItem) : List (String × Method × Operation) :=
  paths.flatMap fun (path, item) => item.operations.map fun (m, o) => (path, m, o)

/-- A path's slot for a method is empty in a table. -/
def SlotFree (paths : Table String PathItem) (path : String) (m : Method) : Prop :=
  ∀ o, (path, m, o) ∉ pathOperations paths

theorem slotFree_cons {p : String} {item : PathItem} {paths : Table String PathItem} {path : String}
    {m : Method} :
    SlotFree ((p, item) :: paths) path m ↔
      (p = path → item.operation? m = none) ∧ SlotFree paths path m := by
  simp only [SlotFree, pathOperations, List.flatMap_cons, List.mem_append, not_or, List.mem_map,
    Prod.mk.injEq, Prod.exists]
  constructor
  · intro h
    refine ⟨?_, fun o => (h o).2⟩
    rintro rfl
    by_contra hsome
    obtain ⟨o, ho⟩ := Option.ne_none_iff_exists'.mp hsome
    exact (h o).1 ⟨m, o, PathItem.mem_operations.mpr ho, rfl, rfl, rfl⟩
  · rintro ⟨hitem, hrest⟩ o
    refine ⟨?_, hrest o⟩
    rintro ⟨m', o', hmem, rfl, rfl, rfl⟩
    rw [PathItem.mem_operations, hitem rfl] at hmem
    cases hmem

/-- Putting an operation into an empty slot adds it and moves no other. -/
theorem pathOperations_addOperation_perm {paths : Table String PathItem} {path : String} {m : Method}
    (h : SlotFree paths path m) (o : Operation) :
    (pathOperations (addOperation paths path m o)).Perm ((path, m, o) :: pathOperations paths) := by
  induction paths with
  | nil =>
    have hone := PathItem.operations_withOperation_perm (PathItem.operation?_empty m) o
    simp only [addOperation, Table.get?_nil, Option.getD_none, Table.put_nil, pathOperations,
      List.flatMap_cons, List.flatMap_nil, List.append_nil]
    exact hone.map fun (m, o) => (path, m, o)
  | cons entry paths ih =>
    obtain ⟨p, item⟩ := entry
    obtain ⟨hitem, hrest⟩ := slotFree_cons.mp h
    by_cases hp : p = path
    · subst hp
      have hone := PathItem.operations_withOperation_perm (hitem rfl) o
      simp only [addOperation, Table.get?_cons, if_true, Option.getD_some, Table.put_cons,
        pathOperations, List.flatMap_cons]
      exact (hone.map fun (m, o) => (p, m, o)).append_right _
    · have hput : addOperation ((p, item) :: paths) path m o =
          (p, item) :: addOperation paths path m o := by
        simp only [addOperation, Table.get?_cons, if_neg hp, Table.put_cons]
      rw [hput]
      simp only [pathOperations, List.flatMap_cons] at ih ⊢
      exact ((ih hrest).append_left _).trans List.perm_middle

/-- The path and the method of an operation. -/
abbrev slotOf (entry : String × Method × Operation) : String × Method :=
  (entry.1, entry.2.1)

/-- Grouping by path keeps every operation if no path and method repeat. -/
theorem pathOperations_groupPaths_perm {operations : List (String × Method × Operation)}
    (h : (operations.map slotOf).Nodup) :
    (pathOperations (groupPaths operations)).Perm operations := by
  -- The fold is followed from any table: what it holds and what is still to come share no slot.
  have fold : ∀ (operations : List (String × Method × Operation)) (paths : Table String PathItem),
      ((pathOperations paths ++ operations).map slotOf).Nodup →
      (pathOperations (operations.foldl
        (fun paths entry => addOperation paths entry.1 entry.2.1 entry.2.2) paths)).Perm
        (pathOperations paths ++ operations) := by
    intro operations
    induction operations with
    | nil => intro paths _; simp
    | cons entry operations ih =>
      intro paths hnodup
      obtain ⟨path, m, o⟩ := entry
      have hfree : SlotFree paths path m := by
        intro o' ho'
        rw [List.map_append] at hnodup
        exact (List.nodup_append.mp hnodup).2.2 (path, m) (List.mem_map.mpr ⟨_, ho', rfl⟩)
          (path, m) List.mem_cons_self rfl
      have hadd := pathOperations_addOperation_perm hfree o
      have hmove : (pathOperations (addOperation paths path m o) ++ operations).Perm
          (pathOperations paths ++ (path, m, o) :: operations) :=
        (hadd.append_right operations).trans List.perm_middle.symm
      exact (ih _ ((hmove.map slotOf).nodup_iff.mpr hnodup)).trans hmove
  exact fold operations [] h

/-! ## From the draft to the document -/

theorem OperationDraft.resolve_operationId (d : Dialect) (h : Header) (o : OperationDraft) :
    (o.resolve d h).Yields fun resolved _ => resolved.operationId = o.operationId := by
  unfold OperationDraft.resolve
  refine Resolution.yields_bind (Resolution.yields_true _) fun parameters _ _ => ?_
  refine Resolution.yields_bind (Resolution.yields_true _) fun requestBody _ _ => ?_
  refine Resolution.yields_bind (Resolution.yields_true _) fun responses _ _ => ?_
  refine Resolution.yields_bind (Resolution.yields_true _) fun security _ _ => ?_
  exact Resolution.yields_pure rfl

/-- Resolving operations keeps their paths and methods, in order, and whatever else is kept for each
operation. -/
theorem resolveOperations_keeps {γ : Type} {d : Dialect} {h : Header} {f : OperationDraft → γ}
    {g : Operation → γ}
    (hkeeps : ∀ o : OperationDraft, (o.resolve d h).Yields fun resolved _ => g resolved = f o)
    (operations : Operations) :
    (resolveOperations d h operations).Yields fun resolved _ =>
      (resolved.map fun (path, m, o) => (path, m, g o)) =
        operations.map fun ((path, m), o) => (path, m, f o) := by
  let Kept (entry : (String × Method) × OperationDraft) (resolved : String × Method × Operation)
      (_ : List Notice) : Prop :=
    (resolved.1, resolved.2.1, g resolved.2.2) = (entry.1.1, entry.1.2, f entry.2)
  have hone : ∀ entry ∈ operations,
      Resolution.Yields
        (do let operation ← OperationDraft.resolve d h entry.2
            return (entry.1.1, entry.1.2, operation)) (Kept entry) := by
    intro entry _
    refine Resolution.yields_bind (hkeeps entry.2) ?_
    intro o _ ho
    refine Resolution.yields_pure ?_
    simp only [Kept, ho]
  refine (Resolution.yields_each operations hone).mono ?_
  intro resolved ns heach
  exact heach.map_eq fun _ _ _ hkept => hkept

/-- Resolving operations keeps their paths, methods and identifiers, in order. -/
theorem resolveOperations_yields (d : Dialect) (h : Header) (operations : Operations) :
    (resolveOperations d h operations).Yields fun resolved _ =>
      (resolved.map fun (path, m, o) => (path, m, o.operationId)) =
        operations.map fun ((path, m), o) => (path, m, o.operationId) :=
  resolveOperations_keeps (OperationDraft.resolve_operationId d h) operations

/-- Grouping loses nothing where the operations come from a well-formed draft. -/
theorem Operations.WellFormed.groupPaths_perm {operations : Operations} (h : operations.WellFormed)
    {resolved : List (String × Method × Operation)}
    (hresolved : (resolved.map fun (path, m, o) => (path, m, o.operationId)) =
      operations.map fun ((path, m), o) => (path, m, o.operationId)) :
    (pathOperations (groupPaths resolved)).Perm resolved := by
  have hslots : resolved.map slotOf = operations.keys := by
    have hpairs := congrArg (List.map fun t : String × Method × String => (t.1, t.2.1)) hresolved
    simpa [Table.keys, Function.comp_def] using hpairs
  exact pathOperations_groupPaths_perm (hslots ▸ h.keys_nodup)

/-- A document has the operations of a well-formed draft and no others, with whatever is kept for each
of them. -/
theorem Draft.resolution_operations_keep {γ : Type} {draft : Draft}
    (h : draft.operations.WellFormed) {fallback : String} {f : OperationDraft → γ}
    {g : Operation → γ}
    (hkeeps : ∀ o : OperationDraft,
      (o.resolve (Dialect.of (draft.version fallback)) draft.header).Yields fun resolved _ =>
        g resolved = f o) :
    (draft.resolution fallback).Yields fun document _ =>
      (document.operations.map fun (path, m, o) => (path, m, g o)).Perm
        (draft.operations.map fun ((path, m), o) => (path, m, f o)) := by
  unfold Draft.resolution
  refine Resolution.yields_bind (Resolution.yields_true _) fun securitySchemes _ _ => ?_
  refine Resolution.yields_bind
    ((resolveOperations_yields _ _ _).and (resolveOperations_keeps hkeeps _)) ?_
  rintro resolved _ ⟨hids, hkept⟩
  refine Resolution.yields_bind (Resolution.yields_true _) fun webhooks _ _ => ?_
  refine Resolution.yields_bind (Resolution.yields_true _) fun schemas _ _ => ?_
  refine Resolution.yields_pure ?_
  rw [← hkept]
  exact (h.groupPaths_perm hids).map _

theorem Draft.resolution_operations_perm {draft : Draft} (h : draft.operations.WellFormed)
    (fallback : String) :
    (draft.resolution fallback).Yields fun document _ =>
      (document.operations.map fun (path, m, o) => (path, m, o.operationId)).Perm
        (draft.operations.map fun ((path, m), o) => (path, m, o.operationId)) :=
  Draft.resolution_operations_keep h (OperationDraft.resolve_operationId _ _)

end ApiDirectives
