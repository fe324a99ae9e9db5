import ApiDirectives.Proofs.Assembly.Models
import ApiDirectives.Proofs.Assembly.Operations

/-!
# The order of files

Whether an operation is accepted depends on those accepted before it, so the order of files matters as
soon as there is a conflict. Without one it does not, because freedom from conflicts can be told from
the blocks as a set: the operations that they declare (`Operations.offered`) are distinct, and each
model name belongs to one class. A run without conflicts accepts exactly what is declared, so runs over
the same blocks in another order of files end in the same operations and models.
-/

namespace ApiDirectives

/-! ## Operations that blocks declare -/

namespace Operations

/-- The operation that a block declares, with its key: that of its first route. -/
def offer? (block : Block) : Option ((String × Method) × OperationDraft) :=
  if block.role = .operation then
    (routes block.remarks).head?.map fun (route, _) =>
      ((route.path, route.method), build route block.location block.kept)
  else none

/-- The operations that blocks declare, in order. -/
def offered (blocks : List Block) : Operations :=
  blocks.filterMap offer?

/-- No path and method, and no identifier, stands for two operations. -/
def Distinct (operations : Operations) : Prop :=
  operations.keys.Nodup ∧ operations.ids.Nodup

theorem offered_append_singleton (blocks : List Block) (block : Block) :
    offered (blocks ++ [block]) = offered blocks ++ (offer? block).toList := by
  simp only [offered, List.filterMap_append]
  cases h : offer? block <;> simp [h]

theorem Distinct.of_append {operations more : Operations} (h : (operations ++ more).Distinct) :
    operations.Distinct := by
  have hsub : operations.Sublist (operations ++ more) := List.sublist_append_left ..
  exact ⟨h.1.sublist (hsub.map _), h.2.sublist ((hsub.map _).map _)⟩

theorem distinct_append_singleton {operations : Operations} (h : operations.Distinct)
    (entry : (String × Method) × OperationDraft) :
    Distinct (operations ++ [entry]) ↔
      entry.1 ∉ operations.keys ∧ entry.2.operationId ∉ operations.ids := by
  have hkeys : Table.keys (operations ++ [entry]) = operations.keys ++ [entry.1] := by
    simp [Table.keys]
  have hids : ids (operations ++ [entry]) = operations.ids ++ [entry.2.operationId] := by
    simp [ids, Table.values]
  unfold Distinct
  rw [hkeys, hids, ← List.concat_eq_append, ← List.concat_eq_append, List.nodup_concat,
    List.nodup_concat]
  constructor
  · rintro ⟨hkey, hid⟩
    exact ⟨hkey.1, hid.1⟩
  · rintro ⟨hkey, hid⟩
    exact ⟨⟨hkey, h.1⟩, hid, h.2⟩

theorem Distinct.perm {operations other : Operations} (h : operations.Distinct)
    (hperm : operations.Perm other) : other.Distinct :=
  ⟨(hperm.map _).nodup_iff.mp h.1, ((hperm.map _).map _).nodup_iff.mp h.2⟩

end Operations

namespace Assembly

variable {a : Assembly} {block : Block}

/-- A block that declares no operation adds none and clashes with none. -/
theorem step_of_offer?_eq_none (h : Operations.offer? block = none) :
    (a.step block).draft.operations = a.draft.operations ∧
      findings Cause.clashes (a.step block).diagnostics =
        findings Cause.clashes a.diagnostics := by
  by_cases hrole : block.role = .operation
  · have hroutes : Operations.routes block.remarks = [] := by
      simpa [Operations.offer?, hrole] using h
    rw [step_operation hrole]
    unfold Operations.merge
    rw [Operations.routes_kept hrole, hroutes, findings_append, findings_append,
      findings_mixed fun _ _ _ => rfl]
    exact ⟨rfl, by simp [findings, Cause.clashes]⟩
  · obtain ⟨found, hfound, hwithin⟩ := step_diagnostics_scope a block
    refine ⟨(step_of_role_ne_operation hrole).1, ?_⟩
    rw [hfound, findings_append,
      findings_eq_nil_of_within Cause.scope_of_clashes hwithin hrole, List.append_nil]

/-- A block that declares an operation adds it if it clashes with none before, and otherwise reports
that it does. -/
theorem step_of_offer?_eq_some {entry : (String × Method) × OperationDraft}
    (h : Operations.offer? block = some entry) :
    let fits := entry.1 ∉ a.draft.operations.keys ∧
      entry.2.operationId ∉ a.draft.operations.ids
    (fits ∧ (a.step block).draft.operations = a.draft.operations ++ [entry] ∧
      findings Cause.clashes (a.step block).diagnostics = findings Cause.clashes a.diagnostics) ∨
    (¬ fits ∧ findings Cause.clashes (a.step block).diagnostics ≠ []) := by
  obtain ⟨hrole, route, raw, hhead, rfl⟩ : block.role = .operation ∧
      ∃ route raw, (Operations.routes block.remarks).head? = some (route, raw) ∧
        ((route.path, route.method), Operations.build route block.location block.kept) =
          entry := by
    by_cases hrole : block.role = .operation
    · simpa [Operations.offer?, hrole] using h
    · simp [Operations.offer?, hrole] at h
  obtain ⟨more, hroutes⟩ := List.head?_eq_some_iff.mp hhead
  have hid := (Operations.build_identity route block.location block.kept).2.2
  rw [step_operation hrole]
  unfold Operations.merge
  rw [Operations.routes_kept hrole, hroutes, hid]
  -- That the route is free, and nothing but that, decides between the two outcomes.
  dsimp only
  cases hconflict : Operations.conflict? a.draft.operations route block.location with
  | none =>
    refine .inl ⟨Operations.conflict?_eq_none_iff.mp hconflict, rfl, ?_⟩
    rw [findings_append, findings_append, findings_mixed fun _ _ _ => rfl,
      findings_map fun _ => rfl]
    simp
  | some cause =>
    refine .inr ⟨?_, ?_⟩
    · intro hfits
      rw [Operations.conflict?_eq_none_iff.mpr hfits] at hconflict
      cases hconflict
    · simp [findings, Operations.clashes_of_conflict? hconflict]

end Assembly

/-- A run without clashes has accepted the operations that its blocks declare, and these are distinct.
The blocks of a run with clashes declare operations that are not. -/
theorem assemble_offered (blocks : List Block) :
    (findings Cause.clashes (assemble blocks).diagnostics = [] ∧
      (assemble blocks).draft.operations = Operations.offered blocks ∧
      (Operations.offered blocks).Distinct) ∨
    (findings Cause.clashes (assemble blocks).diagnostics ≠ [] ∧
      ¬ (Operations.offered blocks).Distinct) := by
  induction blocks using assemble_induction with
  | nil => exact .inl ⟨rfl, rfl, List.nodup_nil, List.nodup_nil⟩
  | step blocks block ih =>
    rw [Operations.offered_append_singleton]
    rcases ih with ⟨hfound, hoperations, hdistinct⟩ | ⟨hfound, hdistinct⟩
    · cases hoffer : Operations.offer? block with
      | none =>
        obtain ⟨hsame, hnone⟩ := Assembly.step_of_offer?_eq_none (a := assemble blocks) hoffer
        rw [hsame, hnone, Option.toList_none, List.append_nil]
        exact .inl ⟨hfound, hoperations, hdistinct⟩
      | some entry =>
        have hstep := Assembly.step_of_offer?_eq_some (a := assemble blocks) hoffer
        rw [hoperations] at hstep
        rw [Option.toList_some, Operations.distinct_append_singleton hdistinct]
        rcases hstep with ⟨hfits, hadded, hnone⟩ | ⟨hfits, hsome⟩
        · exact .inl ⟨hnone.trans hfound, hadded, hfits⟩
        · exact .inr ⟨hsome, hfits⟩
    · -- Findings stay, and so does the pair of operations that are not distinct.
      refine .inr ⟨?_, mt Operations.Distinct.of_append hdistinct⟩
      obtain ⟨found, hadded, _⟩ := Assembly.step_diagnostics_scope (assemble blocks) block
      rw [hadded, findings_append]
      exact List.append_ne_nil_of_left_ne_nil hfound _

/-! ## Classes of a name -/

theorem Block.modelLocation_file (b : Block) : b.modelLocation.file = b.location.file := by
  unfold modelLocation
  split <;> rfl

theorem Block.describes_of_describesAt {b : Block} {name : String} {place : Location}
    (h : b.describesAt name place = true) : b.describes name = true ∧ b.modelLocation = place := by
  simpa [describesAt] using h

/-- All blocks about models of a name belong to the class at a place. -/
def SoleClass (name : String) (place : Location) (blocks : List Block) : Prop :=
  ∀ b ∈ blocks, b.describes name = true → b.modelLocation = place

theorem rivals_eq_empty_iff {name : String} {place : Location} {blocks : List Block} :
    rivals name place blocks = ∅ ↔ SoleClass name place blocks := by
  rw [Finset.eq_empty_iff_forall_notMem]
  constructor
  · intro h b hb hdescribes
    by_contra hplace
    exact h b.modelLocation (mem_rivals.mpr ⟨hplace, b, hb, hdescribes, rfl⟩)
  · intro h l hl
    obtain ⟨hne, b, hb, hdescribes, rfl⟩ := mem_rivals.mp hl
    exact hne (h b hb hdescribes)

theorem SoleClass.owned {name : String} {place : Location} {blocks : List Block}
    (h : SoleClass name place blocks) (hplaces : PlacesTellNames blocks) :
    (assemble blocks).Owned name place blocks := by
  apply assemble_owned name place blocks hplaces
  intro b hb
  have hdescribes := List.find?_some hb
  exact h b (List.mem_of_find?_eq_some hb) hdescribes

/-- No duplicate of a name is reported exactly where one class has it. -/
theorem duplicates_eq_nil_iff {blocks : List Block} (hplaces : PlacesTellNames blocks)
    (name : String) :
    findings (Cause.duplicates name) (assemble blocks).diagnostics = [] ↔
      ∃ place, SoleClass name place blocks := by
  constructor
  · intro hfound
    cases hfirst : blocks.find? (·.describes name) with
    | none =>
      refine ⟨default, ?_⟩
      intro b hb hdescribes
      exact absurd hdescribes (List.find?_eq_none.mp hfirst b hb)
    | some first =>
      have howned : (assemble blocks).Owned name first.modelLocation blocks := by
        apply assemble_owned name _ blocks hplaces
        intro b hb
        rw [hfirst] at hb
        rw [Option.some.inj hb]
      have hcard := howned.duplicates
      rw [hfound, List.length_nil] at hcard
      exact ⟨_, rivals_eq_empty_iff.mp (Finset.card_eq_zero.mp hcard.symm)⟩
  · rintro ⟨place, hsole⟩
    have hcard := (hsole.owned hplaces).duplicates
    rw [rivals_eq_empty_iff.mpr hsole, Finset.card_empty] at hcard
    exact List.length_eq_zero_iff.mp hcard

/-! ## Another order of files -/

/-- The causes that tell of a second declaration: of a path and method, of an identifier, or of a
model. -/
def Cause.conflicts : Cause → Bool
  | .duplicateOperation .. | .duplicateOperationId .. | .duplicateModel .. => true
  | _ => false

theorem Cause.conflicts_iff (c : Cause) :
    c.conflicts = true ↔ c.clashes = true ∨ ∃ name, c.duplicates name = true := by
  cases c <;> simp [conflicts, clashes, duplicates]

theorem conflicts_eq_nil_iff (found : List Diagnostic) :
    findings Cause.conflicts found = [] ↔
      findings Cause.clashes found = [] ∧
        ∀ name, findings (Cause.duplicates name) found = [] := by
  simp only [findings, List.filter_eq_nil_iff]
  constructor
  · intro h
    refine ⟨?_, ?_⟩
    · intro d hd hclashes
      exact h d hd (d.cause.conflicts_iff.mpr (.inl hclashes))
    · intro name d hd hduplicates
      exact h d hd (d.cause.conflicts_iff.mpr (.inr ⟨name, hduplicates⟩))
  · rintro ⟨hclashes, hduplicates⟩ d hd hconflicts
    rcases d.cause.conflicts_iff.mp hconflicts with hclash | ⟨name, hduplicate⟩
    · exact hclashes d hd hclash
    · exact hduplicates name d hd hduplicate

/-- The blocks of a class are of one file, so they keep their order when files are reordered. -/
theorem filter_describesAt_eq {xs ys : List Block}
    (hfiles : ∀ file, xs.filter (·.location.file = file) = ys.filter (·.location.file = file))
    (name : String) (place : Location) :
    xs.filter (·.describesAt name place) = ys.filter (·.describesAt name place) := by
  have hfile : ∀ blocks : List Block,
      blocks.filter (·.describesAt name place) =
        (blocks.filter (·.location.file = place.file)).filter (·.describesAt name place) := by
    intro blocks
    rw [List.filter_filter]
    apply List.filter_congr
    intro b _
    cases hat : b.describesAt name place with
    | false => simp
    | true =>
      have hplace := (Block.describes_of_describesAt hat).2
      simp [← hplace, Block.modelLocation_file]
  rw [hfile xs, hfile ys, hfiles]

/-- Where a place tells the name of its class, a run without conflicts stays one when its files are
taken in another order, and ends with the same operations and the same models. -/
theorem conflict_free_reordering {xs ys : List Block} (hplaces : PlacesTellNames xs)
    (hperm : xs.Perm ys)
    (hfiles : ∀ file, xs.filter (·.location.file = file) = ys.filter (·.location.file = file))
    (hfree : findings Cause.conflicts (assemble xs).diagnostics = []) :
    findings Cause.conflicts (assemble ys).diagnostics = [] ∧
      (∀ key, (assemble xs).draft.operations.get? key =
        (assemble ys).draft.operations.get? key) ∧
      ∀ name, (assemble xs).draft.models.get? name = (assemble ys).draft.models.get? name := by
  obtain ⟨hclashes, hduplicates⟩ := (conflicts_eq_nil_iff _).mp hfree
  obtain ⟨hxs, hdistinct⟩ :
      (assemble xs).draft.operations = Operations.offered xs ∧
        (Operations.offered xs).Distinct := by
    rcases assemble_offered xs with ⟨_, haccepted⟩ | ⟨hsome, _⟩
    · exact haccepted
    · exact absurd hclashes hsome
  have hoffered : (Operations.offered xs).Perm (Operations.offered ys) := hperm.filterMap _
  obtain ⟨hnone, hys⟩ :
      findings Cause.clashes (assemble ys).diagnostics = [] ∧
        (assemble ys).draft.operations = Operations.offered ys := by
    rcases assemble_offered ys with ⟨hnone, haccepted, _⟩ | ⟨_, hnot⟩
    · exact ⟨hnone, haccepted⟩
    · exact absurd (hdistinct.perm hoffered) hnot
  have hplaces' : PlacesTellNames ys := hplaces.of_subset hperm.symm.subset
  -- Without duplicates a name has one class, and whose it is does not depend on the order.
  have hsole : ∀ name, ∃ place, SoleClass name place xs ∧ SoleClass name place ys := by
    intro name
    obtain ⟨place, hplace⟩ := (duplicates_eq_nil_iff hplaces name).mp (hduplicates name)
    exact ⟨place, hplace, fun b hb => hplace b (hperm.symm.subset hb)⟩
  refine ⟨(conflicts_eq_nil_iff _).mpr ⟨hnone, ?_⟩, ?_, ?_⟩
  · intro name
    obtain ⟨place, _, hplace⟩ := hsole name
    exact (duplicates_eq_nil_iff hplaces' name).mpr ⟨place, hplace⟩
  · intro key
    rw [hxs, hys]
    exact Table.get?_eq_of_perm hoffered hdistinct.1 key
  · intro name
    obtain ⟨place, hclass, hclass'⟩ := hsole name
    rw [(hclass.owned hplaces).model, (hclass'.owned hplaces').model,
      filter_describesAt_eq hfiles]

/-- Two files taken in turn: operations and a model of one file, an operation and a model of the
other. The operations are then found in another order. -/
theorem conflict_free_reordering_of_two_files :
    let pets := Block.ofComment "!GET /pets -> pets" "pets" .function ⟨"a.py", 3⟩
    let pet := Block.ofComment "!model A pet" "Pet" .classBody ⟨"a.py", 9⟩
    let age := Block.ofComment "!field age:int" "age" .field ⟨"a.py", 11⟩ (some ⟨"Pet", 9⟩)
    let owners := Block.ofComment "!PUT /pets -> owners" "owners" .function ⟨"b.py", 3⟩
    let owner := Block.ofComment "!model" "Owner" .classBody ⟨"b.py", 9⟩
    let xs := [pets, pet, age, owners, owner]
    let ys := [owners, pets, pet, owner, age]
    PlacesTellNames xs ∧ xs.Perm ys ∧
      findings Cause.conflicts (assemble xs).diagnostics = [] ∧
      findings Cause.conflicts (assemble ys).diagnostics = [] ∧
      (assemble xs).draft.operations ≠ (assemble ys).draft.operations ∧
      (∀ key, (assemble xs).draft.operations.get? key =
        (assemble ys).draft.operations.get? key) ∧
      ∀ name, (assemble xs).draft.models.get? name = (assemble ys).draft.models.get? name := by
  intro pets pet age owners owner xs ys
  obtain ⟨hfiles, hplaces, hperm, hfree, horder⟩ :
      (∀ file, xs.filter (·.location.file = file) = ys.filter (·.location.file = file)) ∧
      PlacesTellNames xs ∧ xs.Perm ys ∧
      findings Cause.conflicts (assemble xs).diagnostics = [] ∧
      (assemble xs).draft.operations ≠ (assemble ys).draft.operations := by
    dsimp only [xs, ys, pets, pet, age, owners, owner]
    iterate 5 rw [Block.ofComment_ofList]
    refine ⟨fun file => ?_, by decide, by decide, by decide,
      by decide⟩
    by_cases ha : "a.py" = file
    · subst ha
      decide
    · by_cases hb : "b.py" = file
      · subst hb
        decide
      · simp [ha, hb]
  obtain ⟨hfree', hoperations, hmodels⟩ := conflict_free_reordering hplaces hperm hfiles hfree
  exact ⟨hplaces, hperm, hfree, hfree', horder, hoperations, hmodels⟩

end ApiDirectives
