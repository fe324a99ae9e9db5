import ApiDirectives.Proofs.Assembly.Fields
import ApiDirectives.Proofs.Assembly.Operations
import ApiDirectives.Proofs.Directive.Bare
import Mathlib.Data.Bool.AllAny

/-!
# Parameters and fields of an assembled draft

An operation that is accepted has the parameters of its block, in order, and later blocks leave it alone.
A field directive of a block that builds on its model is accepted in its turn, and its field stays as long
as no other field of the name is accepted behind it. So what a line says about a parameter or a field is
what the draft says: for bare constraints, the constraints that were written and no others
(`bare_constraints_kept`).
-/

namespace ApiDirectives

/-! ## Parameters -/

/-- The parameter that a directive declares, if it declares one. -/
def ParameterDraft.of? : Directive → Option ParameterDraft
  | .parameter place slot => some ⟨place, slot⟩
  | _ => none

/-- The parameters that the directives of a block declare, in order. -/
def parameterDrafts (remarks : List Remark) : List ParameterDraft :=
  remarks.filterMap fun r => ParameterDraft.of? r.directive

theorem parameterDrafts_kept {block : Block} (h : block.role = .operation) :
    parameterDrafts block.kept = parameterDrafts block.remarks := by
  refine Block.filterMap_kept fun r hr => ?_
  obtain ⟨raw, d⟩ := r
  cases d with
  | parameter place slot => rw [h]; cases place <;> rfl
  | _ => cases hr

namespace Operations

theorem addPart_parameters (o : OperationDraft) (d : Directive) :
    (addPart o d).parameters = o.parameters ++ (ParameterDraft.of? d).toList := by
  cases d with
  | parameter place slot => rfl
  | _ => exact (List.append_nil _).symm

/-- An operation has the parameters that its directives declare. -/
theorem build_parameters (route : Route) (location : Location) (remarks : List Remark) :
    (build route location remarks).parameters = parameterDrafts remarks := by
  have fold : ∀ (rs : List Remark) (o : OperationDraft),
      ((rs.map (·.directive)).foldl addPart o).parameters = o.parameters ++ parameterDrafts rs := by
    intro rs
    induction rs with
    | nil => intro o; exact (List.append_nil _).symm
    | cons r rs ih =>
      intro o
      rw [List.map_cons, List.foldl_cons, ih, addPart_parameters, List.append_assoc]
      congr 1
      cases hr : ParameterDraft.of? r.directive <;> simp [parameterDrafts, hr]
  exact fold remarks _

end Operations

/-- A block adds an operation with a route: it is a block of operation directives, the route is its first
one, and nothing stands in the way of it. -/
def Assembly.Accepts (a : Assembly) (block : Block) (route : Operations.Route) : Prop :=
  block.role = .operation ∧ (∃ raw more, Operations.routes block.remarks = (route, raw) :: more) ∧
    a.draft.operations.Free route

/-- The operation of a block that is accepted is in the draft of every run through the block. -/
theorem assemble_get?_of_accepts {before : List Block} {block : Block} {route : Operations.Route}
    (h : (assemble before).Accepts block route) (after : List Block) :
    (assemble (before ++ block :: after)).draft.operations.get? (route.path, route.method) =
      some (Operations.build route block.location block.kept) := by
  obtain ⟨hrole, ⟨raw, more, hroutes⟩, hfree⟩ := h
  have hsettled := Assembly.step_settled (a := assemble before) hrole
  rw [← assemble_append_singleton] at hsettled
  have hmem : ((route.path, route.method), Operations.build route block.location block.kept) ∈
      (assemble (before ++ [block])).draft.operations := by
    generalize assemble (before ++ [block]) = a at hsettled ⊢
    cases hsettled with
    | accepted hroutes' _ _ =>
      rw [hroutes] at hroutes'
      cases hroutes'
      exact List.mem_append_right _ List.mem_cons_self
    | refused htaken _ => exact absurd hfree (htaken route raw more hroutes)
  have hkept := assemble_operations_prefix (before ++ [block]) after
  rw [List.append_assoc, List.singleton_append] at hkept
  exact Table.get?_of_mem (assemble_operations_wellFormed _).keys_nodup (hkept.mem hmem)

/-! ## Fields -/

theorem Models.fieldSlots_kept {block : Block} (h : block.role = .schema) :
    fieldSlots block.kept = fieldSlots block.remarks := by
  refine Block.filterMap_kept fun r hr => ?_
  obtain ⟨raw, d⟩ := r
  cases d with
  | field slot => rw [h]; rfl
  | _ => cases hr

/-- What is added in turn is added to what the members before add. -/
theorem inTurn_prefix {α β : Type} (add : List α → α → List β) (xs ys : List α) :
    inTurn add xs <+: inTurn add (xs ++ ys) := by
  induction ys using List.reverseRecOn with
  | nil => rw [List.append_nil]
  | append_singleton ys y ih =>
    rw [← List.append_assoc, inTurn_concat]
    exact ih.trans (List.prefix_append _ _)

/-- The field directives of a block that builds on its model are accepted behind those before it. -/
theorem acceptedFields_of_admits {before : List Block} {block : Block}
    (h : (assemble before).admits block = true) (after : List Block) :
    ∃ later, acceptedFields block.modelName (before ++ block :: after) =
      acceptedFields block.modelName before ++
        ((Models.fieldSlots block.remarks).map (block.location, ·) ++ later) := by
  have hblock : acceptedFields block.modelName (before ++ [block]) =
      acceptedFields block.modelName before ++
        (Models.fieldSlots block.remarks).map (block.location, ·) := by
    rw [acceptedFields, inTurn_concat, if_pos ⟨h, rfl⟩,
      Models.fieldSlots_kept (Assembly.admits_role h)]
    rfl
  obtain ⟨later, hlater⟩ : acceptedFields block.modelName (before ++ [block]) <+:
      acceptedFields block.modelName (before ++ [block] ++ after) := inTurn_prefix _ _ _
  refine ⟨later, ?_⟩
  rw [← List.append_assoc, ← hblock, hlater, List.append_assoc, List.singleton_append]

/-- A name with an accepted field has a model. -/
theorem exists_model_of_acceptedFields {name : String} {blocks : List Block} {entry : Location × Slot}
    (h : entry ∈ acceptedFields name blocks) :
    ∃ m, (assemble blocks).draft.models.get? name = some m ∧
      m.Declared name (acceptedFields name blocks) := by
  have hdeclared := assemble_declared name entry.1 blocks
  cases hm : (assemble blocks).draft.models.get? name with
  | some m =>
    rw [hm] at hdeclared
    exact ⟨m, rfl, hdeclared⟩
  | none =>
    -- The empty model has no field, so none was accepted.
    rw [hm] at hdeclared
    have hfield := hdeclared.get?_fields entry.2.name
    rw [eq_comm, show Table.get? _ entry.2.name = none from rfl, Option.map_eq_none_iff,
      List.getLast?_eq_none_iff, List.filter_eq_nil_iff] at hfield
    exact absurd (hfield entry h) (by simp)

/-- The field of a name is the last one that is accepted. -/
theorem ModelDraft.Declared.get?_last {name : String} {m : ModelDraft} {earlier later : List (Location × Slot)}
    {location : Location} {slot : Slot} (h : m.Declared name (earlier ++ (location, slot) :: later))
    (hlast : ∀ entry ∈ later, entry.2.name ≠ slot.name) :
    m.fields.get? slot.name = some (slot.fieldAt location) := by
  have hnone : later.filter (·.2.name = slot.name) = [] := by simpa using hlast
  rw [h.get?_fields, List.filter_append, List.filter_cons_of_pos (by simp), hnone,
    List.getLast?_append_of_ne_nil _ (List.cons_ne_nil _ _)]
  rfl

/-! ## Bare constraints -/

/-- A line with bare constraints is accepted, whatever its description says, and the constraints that are
read are those that were written, each with its value; looking them up by key gives the same. If its block
is accepted, the operation has the parameter at its place, with these constraints; and so has the model the
field, if no field of the name is accepted behind it. -/
theorem bare_constraints_kept (l : BareLine) :
    ∃ slot, Remark.ofLine? l.text = some ⟨l.text, .ofSlot l.place slot⟩ ∧
      slot.name = l.name ∧ slot.type = l.type ∧ slot.constraints.Perm l.entries ∧
      (Remark.listed ⟨l.text, .ofSlot l.place slot⟩).constraints.Perm l.entries ∧
      ∀ (before after : List Block) (block : Block) (front back : List Remark),
        block.remarks = front ++ ⟨l.text, .ofSlot l.place slot⟩ :: back →
        (∀ place route, l.place = some place → (assemble before).Accepts block route →
          ∃ o, (assemble (before ++ block :: after)).draft.operations.get? (route.path, route.method) =
              some o ∧
            o.parameters = parameterDrafts front ++ ⟨place, slot⟩ :: parameterDrafts back) ∧
        (l.place = none → (assemble before).admits block = true →
          ∃ m later, (assemble (before ++ block :: after)).draft.models.get? block.modelName = some m ∧
            acceptedFields block.modelName (before ++ block :: after) =
              acceptedFields block.modelName before ++
                ((Models.fieldSlots front).map (block.location, ·) ++ (block.location, slot) :: later) ∧
            ((∀ entry ∈ later, entry.2.name ≠ l.name) →
              m.fields.get? l.name = some (slot.fieldAt block.location))) := by
  refine ⟨l.slot, l.ofLine?_text, rfl, rfl, l.constraints_slot_perm, ?_, ?_⟩
  · have hconstraints : (Remark.listed ⟨l.text, .ofSlot l.place l.slot⟩).constraints = l.slot.constraints := by
      rw [Listing.constraints, Remark.listed]
      simp only [Directive.lookup_key_ofSlot, BareLine.slot, lookup_chosen]
    rw [hconstraints]
    exact l.constraints_slot_perm
  intro before after block front back hremarks
  constructor
  · intro place route hplace haccepts
    refine ⟨_, assemble_get?_of_accepts haccepts after, ?_⟩
    rw [Operations.build_parameters, parameterDrafts_kept haccepts.1, hremarks, hplace]
    simp [parameterDrafts, ParameterDraft.of?, Directive.ofSlot]
  · intro hplace hadmits
    obtain ⟨later, haccepted⟩ := acceptedFields_of_admits hadmits after
    have hslots : Models.fieldSlots block.remarks =
        Models.fieldSlots front ++ l.slot :: Models.fieldSlots back := by
      rw [hremarks, hplace]
      simp [Models.fieldSlots, Directive.ofSlot]
    -- The slot of the line stands among the accepted ones, with what its block has behind it.
    rw [hslots, List.map_append, List.map_cons, List.append_assoc, List.cons_append] at haccepted
    have hmem : (block.location, l.slot) ∈ acceptedFields block.modelName (before ++ block :: after) := by
      simp [haccepted]
    obtain ⟨m, hm, hdeclared⟩ := exists_model_of_acceptedFields hmem
    refine ⟨m, _, hm, haccepted, fun hlast => ?_⟩
    rw [haccepted, ← List.append_assoc] at hdeclared
    exact hdeclared.get?_last hlast

/-- A parameter whose description and values look like constraints, with a bound and a length that share
the beginning of their keys. -/
def likeConstraints : BareLine where
  place := some .query
  name := "q"
  type := "int64[]|null"
  nullable := true
  description := some "min=1 default=5"
  entries := [(.minLength, "2"), (.min, "max=9"), (.default, "=,#")]
  name_ne := by decide
  isNameChar_name := List.all_iff_forall_prop.mp (by decide)
  isGrammarType_type := Line.isType_iff.mp (by decide)
  unquoted_description := by decide
  nodup_entries := by decide
  value_ne := by decide
  bare_entries := by
    have hall : [(Constraint.minLength, "2"), (.min, "max=9"), (.default, "=,#")].all (fun entry =>
        entry.2.toList.all fun c => Text.isBlank c = false ∧ Line.isQuote c = false) = true := by decide
    exact fun entry hentry => List.all_iff_forall_prop.mp (List.all_eq_true.mp hall entry hentry)

/-- The parameter of such a line, and the field of one, are in the drafts of their blocks. -/
theorem bare_constraints_kept_in_blocks :
    let route : Remark := ⟨"!GET /a -> x", .route .get "/a" "x" "" []⟩
    let place : Location := ⟨"api.py", 2⟩
    let onField : BareLine := { likeConstraints with place := none }
    likeConstraints.text =
        "!query q:int64[]|null? \"min=1 default=5\" minLength=2 min=max=9 default==,#" ∧
      (∃ slot o, slot.constraints.Perm [(.minLength, "2"), (.min, "max=9"), (.default, "=,#")] ∧
        (assemble [⟨[route, ⟨likeConstraints.text, .parameter .query slot⟩], "f", .function, place,
          none⟩]).draft.operations.get? ("/a", .get) = some o ∧
        o.parameters = [⟨.query, slot⟩]) ∧
      ∃ slot m, slot.constraints.Perm [(.minLength, "2"), (.min, "max=9"), (.default, "=,#")] ∧
        (assemble [⟨[⟨onField.text, .field slot⟩], "M", .classBody, place, none⟩]).draft.models.get? "M" =
          some m ∧
        m.fields.get? "q" = some (slot.fieldAt place) := by
  intro route place onField
  refine ⟨by decide, ?_, ?_⟩
  · obtain ⟨slot, -, -, -, hperm, -, hkept⟩ := bare_constraints_kept likeConstraints
    have haccepts : (assemble []).Accepts
        ⟨[route, ⟨likeConstraints.text, .parameter .query slot⟩], "f", .function, place, none⟩
        ⟨.get, "/a", "x", "", []⟩ :=
      ⟨rfl, ⟨_, [], rfl⟩, by simp [Operations.Free, Operations.ids, Table.keys, Table.values]⟩
    obtain ⟨o, ho, hparameters⟩ := (hkept [] [] _ [route] [] rfl).1 .query _ rfl haccepts
    exact ⟨slot, o, hperm, ho, hparameters⟩
  · obtain ⟨slot, -, -, -, hperm, -, hkept⟩ := bare_constraints_kept onField
    obtain ⟨m, later, hm, haccepted, hfield⟩ :=
      (hkept [] [] ⟨[⟨onField.text, .field slot⟩], "M", .classBody, place, none⟩ [] [] rfl).2 rfl rfl
    have hlater : [(place, slot)] = (place, slot) :: later := haccepted
    have hnil : later = [] := (List.cons.inj hlater).2.symm
    exact ⟨slot, m, hperm, hm, hfield (by simp [hnil])⟩

end ApiDirectives
