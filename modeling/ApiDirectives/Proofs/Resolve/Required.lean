import ApiDirectives.Proofs.Assembly.Fields
import ApiDirectives.Proofs.Resolve.References
import ApiDirectives.Proofs.Resolve.Types

/-!
# Required names of a document

The schema of a model has one node with properties of its own, the schema itself or the last of what it
is combined from: `ModelDraft.ResolvesTo`. This node takes its required names over from the model and
has a property for each field, and no other node at the top of a schema has required names. So what
every assembled model says about its required names, its schema says too.
-/

namespace ApiDirectives

open Resolution

/-! ## One model -/

/-- The required names of a node are names of its properties, none of them twice. -/
structure Schema.RequiresKnown (s : Schema) : Prop where
  nodup : s.required.Nodup
  known : ∀ n ∈ s.required, n ∈ Table.keys s.properties

theorem Schema.requiresKnown_of_required_eq_nil {s : Schema} (h : s.required = []) :
    s.RequiresKnown := by
  constructor <;> simp [h]

/-- How a model is resolved: to an object with a property for each field, to its parents with such an
object behind them, or, if it has no members of its own, to its parents. -/
inductive ModelDraft.ResolvesTo (m : ModelDraft) : Schema → Prop
  | object {properties : Table String Schema} : m.parents = [] → properties.keys = m.fields.keys →
      ResolvesTo m
        { type := ["object"], properties, required := m.required, description := m.description }
  | extended {parents : List Schema} {properties : Table String Schema} :
      m.parents ≠ [] → (∀ s ∈ parents, s.required = []) → properties.keys = m.fields.keys →
      ResolvesTo m
        { allOf := parents ++ [{ type := ["object"], properties, required := m.required }]
          description := m.description }
  | inherited {parents : List Schema} :
      m.parents ≠ [] → (∀ s ∈ parents, s.required = []) → m.fields = [] → m.required = [] →
      ResolvesTo m { allOf := parents, description := m.description }

/-- The schema of a type requires nothing. -/
theorem resolveType_required (d : Dialect) (token : String) (location : Option Location) :
    (resolveType d token location).Yields fun s _ => s.required = [] := by
  unfold resolveType
  cases TypeExpr.ofString token with
  | name n =>
    unfold TypeExpr.schema
    split
    · rename_i s hs
      obtain ⟨type, format, rfl⟩ := builtinSchema?_shape hs
      exact yields_pure rfl
    · exact yields_bind (yields_true _) fun _ _ _ => yields_pure rfl
  | array items =>
    unfold TypeExpr.schema
    exact yields_bind (yields_true _) fun _ _ _ => yields_pure rfl
  | union members =>
    unfold TypeExpr.schema
    refine yields_bind (yields_true _) fun ss _ _ => ?_
    unfold unionSchema
    split
    · refine yields_typeSets_bind fun typeSets => yields_pure ?_
      unfold primitiveUnion
      dsimp only
      split <;> rfl
    · exact yields_pure rfl

theorem ModelDraft.resolve_resolvesTo (d : Dialect) (m : ModelDraft) :
    (m.resolve d).Yields fun s _ => m.ResolvesTo s := by
  unfold ModelDraft.resolve
  refine yields_bind (Q := fun properties _ => Table.keys properties = m.fields.keys) ?_ ?_
  · refine (yields_each (R := fun field property _ => property.1 = field.1) m.fields ?_).mono ?_
    · intro field _
      exact yields_bind (yields_true _) fun s _ _ => yields_pure rfl
    · intro properties _ heach
      exact heach.map_eq fun _ _ _ h => h
  · intro properties _ hkeys
    dsimp only
    split
    · rename_i hnone
      exact yields_pure (.object (List.isEmpty_iff.mp hnone) hkeys)
    · rename_i hparents
      have hsome : m.parents ≠ [] := mt List.isEmpty_iff.mpr hparents
      refine yields_bind (Q := fun parents _ => ∀ s ∈ parents, s.required = []) ?_ ?_
      · refine (yields_each (R := fun _ s _ => s.required = []) m.parents fun name _ =>
          resolveType_required d name (some m.location)).mono ?_
        intro parents _ heach s hs
        obtain ⟨_, _, _, hrequired⟩ := heach.exists_of_mem hs
        exact hrequired
      · intro parents _ hrequired
        refine yields_pure ?_
        -- A part of its own is added to the parents only if the model has something of its own.
        split
        · exact .extended hsome hrequired hkeys
        · rename_i hown
          obtain ⟨hproperties, hnames⟩ : properties = [] ∧ m.required = [] := by simpa using hown
          have hfields : m.fields = [] := by
            rw [hproperties] at hkeys
            exact List.map_eq_nil_iff.mp hkeys.symm
          exact .inherited hsome hrequired hfields hnames

/-- The schema of a well-formed model has well-formed required names, and so have the parts that it is
combined from. -/
theorem ModelDraft.ResolvesTo.requiresKnown {name : String} {m : ModelDraft} {s : Schema}
    (h : m.ResolvesTo s) (hm : m.WellFormed name) : ∀ t ∈ s :: s.allOf, t.RequiresKnown := by
  have hown : ∀ (properties : Table String Schema) (description : String),
      properties.keys = m.fields.keys → Schema.RequiresKnown
        { type := ["object"], properties, required := m.required, description } := by
    intro properties description hkeys
    exact ⟨hm.required_nodup, fun n hn => hkeys ▸ hm.required_known n hn⟩
  -- The node above the parts of a combination has no required names.
  have hcombined : ∀ parts : List Schema, (∀ t ∈ parts, t.RequiresKnown) →
      ∀ t ∈ ({ allOf := parts, description := m.description } : Schema) :: parts,
        t.RequiresKnown := fun parts hparts =>
    List.forall_mem_cons.mpr ⟨Schema.requiresKnown_of_required_eq_nil rfl, hparts⟩
  cases h with
  | object _ hkeys => exact List.forall_mem_singleton.mpr (hown _ _ hkeys)
  | extended _ hparents hkeys =>
    refine hcombined _ (List.forall_mem_append.mpr ⟨?_, List.forall_mem_singleton.mpr ?_⟩)
    · exact fun t ht => Schema.requiresKnown_of_required_eq_nil (hparents t ht)
    · exact hown _ _ hkeys
  | inherited _ hparents _ _ =>
    exact hcombined _ fun t ht => Schema.requiresKnown_of_required_eq_nil (hparents t ht)

/-! ## The document -/

theorem Draft.resolution_resolvesTo (draft : Draft) (fallback : String) :
    (draft.resolution fallback).Yields fun document _ =>
      ∀ entry ∈ document.components.schemas, ∃ m, (entry.1, m) ∈ draft.models ∧
        m.ResolvesTo entry.2 := by
  have hmodels : ∀ d, (resolveModels d draft.models).Yields fun schemas _ =>
      ∀ entry ∈ schemas, ∃ m, (entry.1, m) ∈ draft.models ∧ m.ResolvesTo entry.2 := by
    intro d
    refine (yields_each (R := fun model resolved _ =>
      resolved.1 = model.1 ∧ model.2.ResolvesTo resolved.2) draft.models ?_).mono ?_
    · rintro ⟨name, m⟩ _
      exact yields_bind (m.resolve_resolvesTo d) fun s _ hs => yields_pure ⟨rfl, hs⟩
    · intro schemas _ heach entry hentry
      obtain ⟨⟨name, m⟩, hm, _, hname, hresolves⟩ := heach.exists_of_mem hentry
      exact ⟨m, hname ▸ hm, hresolves⟩
  unfold Draft.resolution
  refine yields_bind (yields_true _) fun securitySchemes _ _ => ?_
  refine yields_bind (yields_true _) fun operations _ _ => ?_
  refine yields_bind (yields_true _) fun webhooks _ _ => ?_
  exact yields_bind (hmodels _) fun schemas _ hschemas => yields_pure hschemas

/-- Every model of a run stands under its own name, with its fields under theirs, and its required names
are names of fields, none of them twice. A document has a schema for each model and takes the required
names over, so they are names of properties there, none of them twice. -/
theorem required_names_known (blocks : List Block) :
    (∀ entry ∈ (assemble blocks).draft.models, entry.2.name = entry.1 ∧
      (∀ field ∈ entry.2.fields, field.2.name = field.1) ∧ entry.2.required.Nodup ∧
      ∀ n ∈ entry.2.required, n ∈ entry.2.fields.keys) ∧
    ∀ fallback document warnings,
      (assemble blocks).draft.resolve fallback = .ok (document, warnings) →
      document.components.schemas.keys = (assemble blocks).draft.models.keys ∧
      ∀ entry ∈ document.components.schemas,
        (∃ m, (entry.1, m) ∈ (assemble blocks).draft.models ∧ m.ResolvesTo entry.2) ∧
        ∀ s ∈ entry.2 :: entry.2.allOf,
          s.required.Nodup ∧ ∀ n ∈ s.required, n ∈ Table.keys s.properties := by
  have hmodels := assemble_models_wellFormed blocks
  refine ⟨?_, ?_⟩
  · intro entry hentry
    obtain ⟨hnamed, hkeyed, hnodup, hknown⟩ := hmodels entry hentry
    exact ⟨hnamed, hkeyed, hnodup, hknown⟩
  · intro fallback document warnings h
    obtain ⟨notices, hresolution, _⟩ := Draft.resolve_eq_ok h
    refine ⟨Draft.resolution_declares _ _ _ _ hresolution, ?_⟩
    intro entry hentry
    obtain ⟨m, hm, hresolves⟩ := Draft.resolution_resolvesTo _ _ _ _ hresolution entry hentry
    refine ⟨⟨m, hm, hresolves⟩, ?_⟩
    intro s hs
    obtain ⟨hnodup, hknown⟩ := hresolves.requiresKnown (hmodels _ hm) s hs
    exact ⟨hnodup, hknown⟩

/-- A model that is required to have a field twice over, and a child of it with a field of its own. -/
theorem required_names_known_at_child :
    let blocks :=
      [Block.ofComment "!model\n!field id:int required\n!field tag:str\n!field id:str required" "Pet"
        .classBody ⟨"api.py", 3⟩,
      Block.ofComment "!model extends=Pet\n!field bark:str required" "Dog" .classBody ⟨"api.py", 9⟩]
    ∃ document warnings, (assemble blocks).draft.resolve "3.0.3" = .ok (document, warnings) ∧
      document.components.schemas.map (fun entry =>
        (entry.1, (entry.2 :: entry.2.allOf).map fun s => (Table.keys s.properties, s.required))) =
        [("Pet", [(["id", "tag"], ["id"])]), ("Dog", [([], []), ([], []), (["bark"], ["bark"])])] ∧
      ∀ entry ∈ document.components.schemas, ∀ s ∈ entry.2 :: entry.2.allOf,
        s.required.Nodup ∧ ∀ n ∈ s.required, n ∈ Table.keys s.properties := by
  intro blocks
  have hlook : ((assemble blocks).draft.resolve "3.0.3").toOption.map (fun resolved =>
      resolved.1.components.schemas.map fun entry =>
        (entry.1, (entry.2 :: entry.2.allOf).map fun s => (Table.keys s.properties, s.required))) =
      some [("Pet", [(["id", "tag"], ["id"])]),
        ("Dog", [([], []), ([], []), (["bark"], ["bark"])])] := by
    dsimp only [blocks]
    rw [Block.ofComment_ofList, Block.ofComment_ofList]
    decide +kernel
  obtain ⟨document, warnings, hresolve, hschemas⟩ := Draft.exists_resolved hlook
  refine ⟨document, warnings, hresolve, hschemas, ?_⟩
  intro entry hentry
  exact (((required_names_known blocks).2 _ _ _ hresolve).2 entry hentry).2

end ApiDirectives
