import ApiDirectives.Proofs.Document.Nodes
import ApiDirectives.Proofs.Document.Operations
import ApiDirectives.Proofs.Resolve.Findings

/-!
# References are recorded

Every reference that gets into a document is noticed when it is made, and nothing else is noticed as a
reference. So the notices of a resolution, as far as they are references, are the references of its
result, each as often as it stands there: `Records`. This is shown for each function of the resolver
in turn, from types up to the document. What `settle` then reports is each name once that is
referred to and not declared.
-/

namespace ApiDirectives

open Resolution

/-! ## Names in notices and in findings -/

/-- The name that a notice refers to. -/
def Notice.name? : Notice → Option String
  | .reference name _ => some name
  | .finding _ => none

/-- The names that notices refer to, in order. -/
def referenced (ns : List Notice) : List String :=
  ns.filterMap Notice.name?

/-- The name that a finding reports as undeclared. -/
def Diagnostic.undeclared? (d : Diagnostic) : Option String :=
  match d.cause with
  | .undeclaredSchema name => some name
  | _ => none

/-- The names that findings report as undeclared, in order. -/
def undeclaredNames (ds : List Diagnostic) : List String :=
  ds.filterMap Diagnostic.undeclared?

/-- A finding that is not about an undeclared schema. -/
def Notice.Aside (n : Notice) : Prop :=
  ∃ d, n = .finding d ∧ d.undeclared? = none

theorem Notice.FoundAt.aside {kind : Cause → Prop} {location : Option Location} {n : Notice}
    (h : n.FoundAt kind location) (hkind : ∀ name, ¬ kind (.undeclaredSchema name)) : n.Aside := by
  obtain ⟨cause, hcause, rfl⟩ := h
  refine ⟨_, rfl, ?_⟩
  cases cause with
  | undeclaredSchema name => exact absurd hcause (hkind name)
  | _ => rfl

/-- The references among notices are the given names, and no finding reports a name by itself. -/
structure Records (ns : List Notice) (names : List String) : Prop where
  perm : (referenced ns).Perm names
  unreported : ∀ d, .finding d ∈ ns → d.undeclared? = none

namespace Records

theorem nil : Records [] [] :=
  ⟨.refl _, by simp⟩

theorem reference (name : String) (location : Option Location) :
    Records [.reference name location] [name] :=
  ⟨.refl _, by simp⟩

theorem append {ns ms : List Notice} {xs ys : List String} (h : Records ns xs) (h' : Records ms ys) :
    Records (ns ++ ms) (xs ++ ys) := by
  refine ⟨?_, ?_⟩
  · simp only [referenced, List.filterMap_append]
    exact h.perm.append h'.perm
  · intro d hd
    rcases List.mem_append.mp hd with hd | hd
    · exact h.unreported d hd
    · exact h'.unreported d hd

theorem of_perm {ns : List Notice} {xs ys : List String} (h : Records ns xs) (hperm : xs.Perm ys) :
    Records ns ys :=
  ⟨h.perm.trans hperm, h.unreported⟩

theorem append_nothing {ns ms : List Notice} {xs : List String} (h : Records ns xs)
    (h' : Records ms []) : Records (ns ++ ms) xs := by
  simpa using h.append h'

/-- Notices aside record nothing. -/
theorem of_aside {ns : List Notice} (h : ∀ n ∈ ns, n.Aside) : Records ns [] := by
  refine ⟨?_, ?_⟩
  · have hnone : referenced ns = [] := by
      apply List.filterMap_eq_nil_iff.mpr
      intro n hn
      obtain ⟨d, rfl, _⟩ := h n hn
      rfl
    rw [hnone]
  · intro d hd
    obtain ⟨d', hd', hnone⟩ := h _ hd
    cases hd'
    exact hnone

/-- A pass over a list records what its results refer to. -/
theorem of_each {α β : Type} {names : β → List String} {R : α → β → List Notice → Prop}
    {as : List α} {bs : List β} {ns : List Notice} (h : Each R as bs ns)
    (hR : ∀ a b ns, R a b ns → Records ns (names b)) : Records ns (bs.flatMap names) := by
  induction h with
  | nil => exact nil
  | cons hab _ ih => exact (hR _ _ _ hab).append ih

end Records

/-- The notices of a resolution record what its result refers to. -/
def Resolution.Refers {α : Type} (names : α → List String) (x : Resolution α) : Prop :=
  x.Yields fun a ns => Records ns (names a)

theorem Resolution.refers_each {α β : Type} {names : β → List String} {f : α → Resolution β}
    (xs : List α) (hf : ∀ a ∈ xs, (f a).Refers names) :
    (each f xs).Refers fun bs => bs.flatMap names := by
  refine (yields_each xs hf).mono ?_
  intro bs ns heach
  exact Records.of_each heach fun _ _ _ hns => hns

/-- A key beside a result changes nothing. -/
theorem Resolution.refers_entry {κ β : Type} {names : β → List String} {x : Resolution β} (k : κ)
    (h : x.Refers names) :
    (do let b ← x; return (k, b) : Resolution (κ × β)).Refers fun entry => names entry.2 := by
  refine yields_bind h ?_
  intro b ns hb
  refine yields_pure ?_
  rwa [List.append_nil]

/-! ## Types -/

theorem refNames_builtinSchema? {name : String} {s : Schema} (h : builtinSchema? name = some s) :
    s.refNames = [] := by
  unfold builtinSchema? at h
  split at h
  · cases h
    exact Schema.refNames_of_ref_eq_empty rfl
  · split at h
    · cases h
      exact Schema.refNames_of_ref_eq_empty rfl
    · cases h

theorem refNames_arrayOf (s : Schema) : (Schema.arrayOf s).refNames = s.refNames := by
  rw [Schema.refNames_of_ref_eq_empty rfl]
  simp [Schema.children, Schema.arrayOf]

theorem refNames_primitiveUnion (typeSets : Bool) (members : List Schema) :
    (primitiveUnion typeSets members).refNames = [] := by
  unfold primitiveUnion
  dsimp only
  split <;> exact Schema.refNames_of_ref_eq_empty rfl

theorem refNames_oneOf (members : List Schema) :
    ({ oneOf := members } : Schema).refNames = members.flatMap Schema.refNames := by
  rw [Schema.refNames_of_ref_eq_empty rfl]
  simp [Schema.children]

/-- The schema of a type records its references, and refers to nothing if it is a plain primitive: so
a union of primitives may forget its members. -/
def Recorded (s : Schema) (ns : List Notice) : Prop :=
  Records ns s.refNames ∧ (s.isPlainPrimitive = true → s.refNames = [])

theorem unionSchema_yields (d : Dialect) {members : List Schema}
    (hplain : ∀ s ∈ members, s.isPlainPrimitive = true → s.refNames = []) :
    (unionSchema d members).Yields fun s ns =>
      ns = [] ∧ s.refNames = members.flatMap Schema.refNames ∧
        (s.isPlainPrimitive = true → s.refNames = []) := by
  unfold unionSchema
  split
  · rename_i hall
    have hmembers : members.flatMap Schema.refNames = [] := by
      apply List.flatMap_eq_nil_iff.mpr
      intro s hs
      exact hplain s hs (List.all_eq_true.mp hall s hs)
    refine yields_typeSets_bind fun typeSets => ?_
    refine yields_pure ⟨rfl, ?_, fun _ => refNames_primitiveUnion typeSets members⟩
    rw [refNames_primitiveUnion, hmembers]
  · exact yields_pure ⟨rfl, refNames_oneOf members, fun h => by cases h⟩

mutual

theorem TypeExpr.schema_recorded (d : Dialect) (location : Option Location) :
    (t : TypeExpr) → (t.schema d location).Yields Recorded
  | .name n => by
    unfold TypeExpr.schema
    split
    · rename_i s hs
      have hnone := refNames_builtinSchema? hs
      exact yields_pure ⟨by rw [hnone]; exact .nil, fun _ => hnone⟩
    · refine yields_bind (Q := fun _ ns => Records ns [n]) (yields_notice (.reference n location)) ?_
      intro _ ns hns
      refine yields_pure ⟨?_, fun h => by cases h⟩
      rwa [List.append_nil, Schema.refNames_reference]
  | .array items => by
    unfold TypeExpr.schema
    refine yields_bind (TypeExpr.schema_recorded d location items) ?_
    intro s ns hs
    refine yields_pure ⟨?_, fun h => by cases h⟩
    rw [List.append_nil, refNames_arrayOf]
    exact hs.1
  | .union members => by
    unfold TypeExpr.schema
    refine yields_bind (TypeExpr.schemas_recorded d location members) ?_
    rintro ss ns ⟨hss, hplain⟩
    refine (unionSchema_yields d hplain).mono ?_
    rintro s _ ⟨rfl, hrefs, hprimitive⟩
    refine ⟨?_, hprimitive⟩
    rwa [List.append_nil, hrefs]

theorem TypeExpr.schemas_recorded (d : Dialect) (location : Option Location) :
    (ts : List TypeExpr) → (TypeExpr.schemas d location ts).Yields fun ss ns =>
      Records ns (ss.flatMap Schema.refNames) ∧
        ∀ s ∈ ss, s.isPlainPrimitive = true → s.refNames = []
  | [] => yields_pure ⟨.nil, by simp⟩
  | t :: r => by
    unfold TypeExpr.schemas
    refine yields_bind (TypeExpr.schema_recorded d location t) ?_
    intro s ns hs
    refine yields_bind (TypeExpr.schemas_recorded d location r) ?_
    intro ss ms hss
    refine yields_pure ⟨?_, List.forall_mem_cons.mpr ⟨hs.2, hss.2⟩⟩
    rw [List.append_nil]
    exact hs.1.append hss.1

end

/-- The schema of a written type records its references. -/
theorem resolveType_refers (d : Dialect) (token : String) (location : Option Location) :
    (resolveType d token location).Refers Schema.refNames :=
  (TypeExpr.schema_recorded d location _).mono fun _ _ h => h.1

/-! ## Constraints and null -/

/-- Members put beside a node leave its reference and its children. -/
theorem refNames_overlay (s : Schema) (u : Siblings) : (s.overlay u).refNames = s.refNames :=
  Schema.refNames_congr rfl rfl

theorem refNames_allOf_singleton (s : Schema) :
    ({ allOf := [s] } : Schema).refNames = s.refNames := by
  rw [Schema.refNames_of_ref_eq_empty rfl]
  simp [Schema.children]

theorem withSiblings_yields (d : Dialect) (s : Schema) (u : Siblings) :
    (s.withSiblings d u).Yields fun t ns => ns = [] ∧ t.refNames = s.refNames := by
  unfold Schema.withSiblings
  split
  · exact yields_pure ⟨rfl, rfl⟩
  · split
    · exact yields_pure ⟨rfl, refNames_overlay s u⟩
    · refine yields_typeSets_bind fun typeSets => ?_
      refine yields_pure ⟨rfl, ?_⟩
      split
      · exact refNames_overlay s u
      · rw [refNames_overlay, refNames_allOf_singleton]

theorem makeNullable_yields (d : Dialect) (s : Schema) :
    (s.makeNullable d).Yields fun t ns => ns = [] ∧ t.refNames = s.refNames := by
  unfold Schema.makeNullable
  refine yields_typeSets_bind fun typeSets => ?_
  split
  · exact withSiblings_yields d s _
  · split
    · refine yields_pure ⟨rfl, ?_⟩
      have hnull : ({ type := ["null"] } : Schema).refNames = [] :=
        Schema.refNames_of_ref_eq_empty rfl
      rw [refNames_oneOf]
      simp [hnull]
    · split
      · exact yields_pure ⟨rfl, rfl⟩
      · exact yields_pure ⟨rfl, Schema.refNames_congr rfl rfl⟩

/-- Constraints make no reference and lose none. -/
theorem constrain_yields (d : Dialect) (s : Schema) (constraints : List (Constraint × String))
    (location : Option Location) (description : String) :
    (s.constrain d constraints location description).Yields fun t ns =>
      Records ns [] ∧ t.refNames = s.refNames := by
  unfold Schema.constrain
  refine yields_bind (siblings_only s constraints location description) ?_
  intro u ns hns
  refine (withSiblings_yields d s u).mono ?_
  rintro t _ ⟨rfl, ht⟩
  rw [List.append_nil]
  exact ⟨.of_aside fun n hn => (hns n hn).aside fun _ h => h, ht⟩

/-- The schema of a field records its references. -/
theorem FieldDraft.resolve_refers (d : Dialect) (f : FieldDraft) :
    (f.resolve d).Refers Schema.refNames := by
  unfold FieldDraft.resolve
  refine yields_bind (resolveType_refers d f.type (some f.location)) ?_
  intro s ns hs
  refine yields_bind (constrain_yields d s f.constraints (some f.location) f.description) ?_
  rintro t ms ⟨hms, ht⟩
  have hrecords : Records (ns ++ ms) t.refNames := by
    rw [ht]
    exact hs.append_nothing hms
  split
  · refine (makeNullable_yields d t).mono ?_
    rintro t' _ ⟨rfl, ht'⟩
    rwa [List.append_nil, ht']
  · refine yields_pure ?_
    rwa [List.append_nil]

/-! ## Operations -/

/-- The names that an operation refers to. -/
def Operation.refNames (o : Operation) : List String :=
  o.schemas.flatMap Schema.refNames

/-- The names that a parameter refers to. -/
def Parameter.refNames (p : Parameter) : List String :=
  p.schema.toList.flatMap Schema.refNames

/-- The names that a body refers to. -/
def contentNames (content : Table String MediaType) : List String :=
  (contentSchemas content).flatMap Schema.refNames

theorem Operation.refNames_eq (o : Operation) :
    o.refNames = o.parameters.flatMap Parameter.refNames
      ++ (o.requestBody.toList.flatMap (contentNames ·.content)
        ++ o.responses.flatMap (contentNames ·.2.content)) := by
  simp only [refNames, schemas, List.flatMap_append, List.flatMap_assoc, Table.values,
    List.flatMap_map, contentNames]
  rfl

theorem contentNames_json (s : Schema) :
    contentNames [(jsonMedia, { schema := some s })] = s.refNames := by
  simp [contentNames, contentSchemas, Table.values]

theorem ParameterDraft.resolve_refers (d : Dialect) (location : Location) (p : ParameterDraft) :
    (p.resolve d location).Refers Parameter.refNames := by
  unfold ParameterDraft.resolve
  refine yields_bind (resolveType_refers d p.slot.type (some location)) ?_
  intro s ns hs
  refine yields_bind (constrain_yields d s p.slot.constraints (some location) "") ?_
  rintro t ms ⟨hms, ht⟩
  have hrecords : Records (ns ++ ms) t.refNames := by
    rw [ht]
    exact hs.append_nothing hms
  dsimp only
  split
  · refine yields_bind (makeNullable_yields d t) ?_
    rintro t' _ ⟨rfl, ht'⟩
    refine yields_pure ?_
    simpa [Parameter.refNames, ht'] using hrecords
  · refine yields_bind (Q := fun t' ns => ns = [] ∧ t' = t) (yields_pure ⟨rfl, rfl⟩) ?_
    rintro t' _ ⟨rfl, rfl⟩
    refine yields_pure ?_
    simpa [Parameter.refNames] using hrecords

theorem resolveBody_refers (d : Dialect) (location : Location) (body : Option Payload) :
    (resolveBody d location body).Refers fun b => b.toList.flatMap (contentNames ·.content) := by
  cases body with
  | none => exact yields_pure .nil
  | some p =>
    unfold resolveBody Payload.resolve
    refine yields_bind (Q := fun b ns => Records ns (contentNames b.content)) ?_ ?_
    · refine yields_bind (resolveType_refers d p.schema (some location)) ?_
      intro s ns hs
      refine yields_pure ?_
      rwa [List.append_nil, contentNames_json]
    · intro b ns hb
      refine yields_pure ?_
      simpa using hb

theorem Reply.resolve_refers (d : Dialect) (location : Location) (r : Reply) :
    (r.resolve d location).Refers fun response => contentNames response.content := by
  unfold Reply.resolve
  dsimp only
  split
  · exact yields_pure .nil
  · refine yields_bind (resolveType_refers d r.schema (some location)) ?_
    intro s ns hs
    refine yields_pure ?_
    simpa only [List.append_nil, contentNames_json] using hs

theorem resolveReplies_refers (d : Dialect) (location : Location) (replies : Table String Reply) :
    (resolveReplies d location replies).Refers fun responses =>
      responses.flatMap (contentNames ·.2.content) := by
  refine refers_each replies ?_
  rintro ⟨status, r⟩ _
  exact refers_entry status (r.resolve_refers d location)

/-- An operation records the references of its parameters, its body and its responses. -/
theorem OperationDraft.resolve_refers (d : Dialect) (h : Header) (o : OperationDraft) :
    (o.resolve d h).Refers Operation.refNames := by
  unfold OperationDraft.resolve
  refine yields_bind (refers_each o.parameters fun p _ => p.resolve_refers d o.location) ?_
  intro parameters ns₁ h₁
  refine yields_bind (resolveBody_refers d o.location o.body) ?_
  intro requestBody ns₂ h₂
  refine yields_bind (resolveReplies_refers d o.location o.responses) ?_
  intro responses ns₃ h₃
  refine yields_bind
    (only_each o.security fun name _ => resolveRequirement_only h o.location name) ?_
  intro security ns₄ h₄
  have hsecurity : Records ns₄ [] := .of_aside fun n hn => (h₄ n hn).aside fun _ h => h
  refine yields_pure ?_
  rw [Operation.refNames_eq]
  simpa using h₁.append (h₂.append (h₃.append hsecurity))

/-- A webhook records the references of its body and its responses. -/
theorem WebhookDraft.resolve_refers (d : Dialect) (w : WebhookDraft) :
    (w.resolve d).Refers Operation.refNames := by
  unfold WebhookDraft.resolve
  refine yields_bind (resolveBody_refers d w.location w.body) ?_
  intro requestBody ns₁ h₁
  refine yields_bind (resolveReplies_refers d w.location w.responses) ?_
  intro responses ns₂ h₂
  refine yields_pure ?_
  rw [Operation.refNames_eq]
  simpa using h₁.append h₂

/-! ## Models -/

theorem refNames_object (properties : List (String × Schema)) (required : List String) :
    ({ type := ["object"], properties, required } : Schema).refNames =
      properties.flatMap (·.2.refNames) := by
  rw [Schema.refNames_of_ref_eq_empty rfl]
  simp [Schema.children, List.flatMap_map]

theorem refNames_allOf (parts : List Schema) (description : String) :
    ({ allOf := parts, description } : Schema).refNames = parts.flatMap Schema.refNames := by
  rw [Schema.refNames_of_ref_eq_empty rfl]
  simp [Schema.children]

/-- A model records the references of its fields and of its parents. -/
theorem ModelDraft.resolve_refers (d : Dialect) (m : ModelDraft) :
    (m.resolve d).Refers Schema.refNames := by
  unfold ModelDraft.resolve
  have hfields : ∀ entry ∈ m.fields,
      (do let s ← entry.2.resolve d; return (entry.1, s) : Resolution (String × Schema)).Refers
        fun entry => entry.2.refNames := by
    intro entry _
    exact refers_entry entry.1 (entry.2.resolve_refers d)
  refine yields_bind (refers_each m.fields hfields) ?_
  intro properties ns hproperties
  dsimp only
  split
  · refine yields_pure ?_
    rw [List.append_nil]
    exact (refNames_object properties m.required).symm ▸ hproperties
  · refine yields_bind
      (refers_each m.parents fun name _ => resolveType_refers d name (some m.location)) ?_
    intro parents ms hparents
    refine yields_pure ?_
    rw [refNames_allOf, List.append_nil]
    split
    · rw [List.flatMap_append, List.flatMap_singleton, refNames_object]
      exact (hproperties.append hparents).of_perm List.perm_append_comm
    · -- A model without members of its own is left out, and with it no reference.
      rename_i hown
      have hempty : properties = [] := by
        cases properties with
        | nil => rfl
        | cons entry rest => exact absurd rfl hown
      subst hempty
      exact hproperties.append hparents

theorem resolveModels_refers (d : Dialect) (models : Models) :
    (resolveModels d models).Refers fun schemas => schemas.values.flatMap Schema.refNames := by
  have h : (resolveModels d models).Refers fun schemas => schemas.flatMap (·.2.refNames) := by
    refine refers_each models ?_
    rintro ⟨name, m⟩ _
    exact refers_entry name (m.resolve_refers d)
  simpa only [Table.values, List.flatMap_map] using h

/-! ## The document -/

theorem pathSchemas_refNames (paths : Table String PathItem) :
    (pathSchemas paths).flatMap Schema.refNames =
      (pathOperations paths).flatMap (·.2.2.refNames) := by
  simp only [pathSchemas, pathOperations, Table.values, List.flatMap_map, List.flatMap_assoc]
  rfl

theorem resolveOperations_refers (d : Dialect) (h : Header) (operations : Operations) :
    (resolveOperations d h operations).Refers fun resolved => resolved.flatMap (·.2.2.refNames) := by
  refine refers_each operations ?_
  rintro ⟨⟨path, m⟩, o⟩ _
  refine yields_bind (o.resolve_refers d h) ?_
  intro operation ns hns
  refine yields_pure ?_
  rwa [List.append_nil]

theorem resolveWebhooks_refers (d : Dialect) (version : String)
    (webhooks : Table String WebhookDraft) :
    (resolveWebhooks d version webhooks).Refers fun items =>
      (pathSchemas items).flatMap Schema.refNames := by
  have hitems : (each (fun entry => do
      let o ← WebhookDraft.resolve d entry.2
      return (entry.1, PathItem.withOperation {} o entry.2.method)) webhooks).Refers fun items =>
        items.flatMap fun (entry : String × PathItem) =>
          entry.2.operations.flatMap (·.2.refNames) := by
    refine refers_each webhooks ?_
    rintro ⟨name, w⟩ _
    refine yields_bind (w.resolve_refers d) ?_
    intro o ns hns
    refine yields_pure ?_
    simpa [PathItem.operations_withOperation_empty] using hns
  -- The references of the items are those of their schemas, in the same order.
  have hpaths : ∀ items : Table String PathItem,
      (items.flatMap fun entry => entry.2.operations.flatMap (·.2.refNames)) =
        (pathSchemas items).flatMap Schema.refNames := by
    intro items
    rw [pathSchemas_refNames]
    simp [pathOperations, List.flatMap_assoc, List.flatMap_map]
  simp only [hpaths] at hitems
  unfold resolveWebhooks
  split
  · exact yields_pure .nil
  · refine yields_typeSets_bind fun typeSets => ?_
    dsimp only
    split
    · refine yields_bind (Q := fun _ ns => Records ns [])
        (yields_report (.of_aside (by simp [Notice.Aside, Diagnostic.undeclared?]))) ?_
      intro _ ns hns
      exact hitems.mono fun _ _ hms => hns.append hms
    · exact hitems

/-- The notices of a draft's resolution record the references of its document. -/
theorem Draft.resolution_refers {draft : Draft} (hdraft : draft.operations.WellFormed)
    (fallback : String) : (draft.resolution fallback).Refers Document.refNames := by
  unfold Draft.resolution
  refine yields_bind (resolveSchemes_only draft.header) ?_
  intro securitySchemes ns₁ h₁
  refine yields_bind ((resolveOperations_yields _ _ _).and (resolveOperations_refers _ _ _)) ?_
  rintro resolved ns₂ ⟨hkept, h₂⟩
  refine yields_bind (resolveWebhooks_refers _ _ _) ?_
  intro webhooks ns₃ h₃
  refine yields_bind (resolveModels_refers _ _) ?_
  intro schemas ns₄ h₄
  refine yields_pure ?_
  have hschemes : Records ns₁ [] := .of_aside fun n hn => by
    obtain ⟨_, _, hfound⟩ := h₁ n hn
    exact hfound.aside fun _ h => h
  -- Grouping by path changes the order of the operations, and loses none of them.
  have hpaths : Records ns₂ ((pathSchemas (groupPaths resolved)).flatMap Schema.refNames) := by
    rw [pathSchemas_refNames]
    exact h₂.of_perm ((hdraft.groupPaths_perm hkept).flatMap_right _).symm
  rw [Document.refNames_eq, Document.schemas, List.flatMap_append, List.flatMap_append]
  simpa using hschemes.append (hpaths.append (h₃.append h₄))

/-- A document declares the models of its draft. -/
theorem Draft.resolution_declares (draft : Draft) (fallback : String) :
    (draft.resolution fallback).Yields fun document _ =>
      document.components.schemas.keys = draft.models.keys := by
  have hmodels : ∀ d, (resolveModels d draft.models).Yields fun schemas _ =>
      schemas.keys = draft.models.keys := by
    intro d
    refine (yields_each (R := fun entry resolved _ => resolved.1 = entry.1) draft.models ?_).mono ?_
    · rintro ⟨name, m⟩ _
      exact yields_bind (yields_true _) fun s _ _ => yields_pure rfl
    · intro schemas _ heach
      exact heach.map_eq fun _ _ _ h => h
  unfold Draft.resolution
  refine yields_bind (yields_true _) fun securitySchemes _ _ => ?_
  refine yields_bind (yields_true _) fun operations _ _ => ?_
  refine yields_bind (yields_true _) fun webhooks _ _ => ?_
  refine yields_bind (hmodels _) fun schemas _ hschemas => ?_
  exact yields_pure hschemas

/-! ## What is reported -/

/-- Each name that is referred to, not declared and not reported before is reported once. -/
theorem undeclaredNames_settle (declared : List String) {ns : List Notice} (reported : List String)
    (h : ∀ d, .finding d ∈ ns → d.undeclared? = none) :
    (undeclaredNames (settle declared reported ns).1).Nodup ∧
      ∀ name, name ∈ undeclaredNames (settle declared reported ns).1 ↔
        name ∈ referenced ns ∧ name ∉ declared ∧ name ∉ reported := by
  induction ns generalizing reported with
  | nil => simp [settle, undeclaredNames, referenced]
  | cons n ns ih =>
    have htail : ∀ d, .finding d ∈ ns → d.undeclared? = none := fun d hd =>
      h d (List.mem_cons_of_mem _ hd)
    cases n with
    | finding d =>
      have hd : d.undeclared? = none := h d List.mem_cons_self
      simpa [settle, undeclaredNames, referenced, hd, Notice.name?] using ih reported htail
    | reference name location =>
      by_cases hknown : declared.contains name || reported.contains name
      · -- The name is excluded on both sides.
        obtain ⟨hnodup, hmem⟩ := ih reported htail
        have hskip : settle declared reported (.reference name location :: ns) =
            settle declared reported ns := by
          simp only [settle, hknown, if_true]
        rw [hskip]
        refine ⟨hnodup, ?_⟩
        intro other
        rw [hmem]
        simp only [Bool.or_eq_true, List.contains_iff_mem] at hknown
        simp only [referenced, List.filterMap_cons, Notice.name?, List.mem_cons]
        constructor
        · rintro ⟨hother, hdeclared, hreported⟩
          exact ⟨.inr hother, hdeclared, hreported⟩
        · rintro ⟨rfl | hother, hdeclared, hreported⟩
          · exact absurd hknown (not_or.mpr ⟨hdeclared, hreported⟩)
          · exact ⟨hother, hdeclared, hreported⟩
      · -- The name is reported here, and from here on it counts as reported.
        obtain ⟨hnodup, hmem⟩ := ih (name :: reported) htail
        have hreport : undeclaredNames
            (settle declared reported (.reference name location :: ns)).1 =
            name :: undeclaredNames (settle declared (name :: reported) ns).1 := by
          simp only [settle, hknown]
          rfl
        simp only [Bool.or_eq_true, List.contains_iff_mem, not_or] at hknown
        rw [hreport]
        refine ⟨List.nodup_cons.mpr ⟨?_, hnodup⟩, ?_⟩
        · intro hagain
          exact ((hmem name).mp hagain).2.2 List.mem_cons_self
        · intro other
          rw [List.mem_cons, hmem]
          simp only [referenced, List.filterMap_cons, Notice.name?, List.mem_cons]
          by_cases hother : other = name
          · subst hother
            simp [hknown]
          · simp [hother]

/-- Exactly the dangling references of a document are reported, each of them once. -/
theorem undeclaredNames_resolve {blocks : List Block} {version : String} {document : Document}
    {warnings : List Diagnostic}
    (h : (assemble blocks).draft.resolve version = .ok (document, warnings)) :
    (undeclaredNames warnings).Nodup ∧
      ∀ name, name ∈ undeclaredNames warnings ↔
        name ∈ document.refNames ∧ name ∉ document.components.schemas.keys := by
  obtain ⟨notices, hresolution, rfl⟩ := Draft.resolve_eq_ok h
  have hrecords := Draft.resolution_refers (assemble_operations_wellFormed blocks) version _ _
    hresolution
  have hdeclared := Draft.resolution_declares _ _ _ _ hresolution
  obtain ⟨hnodup, hmem⟩ := undeclaredNames_settle (assemble blocks).draft.models.keys []
    hrecords.unreported
  refine ⟨hnodup, ?_⟩
  intro name
  rw [hmem, hdeclared, hrecords.perm.mem_iff]
  simp

/-- A parameter, a field of union type and a parent dangle; the model itself and a second use of a
name are passed over. -/
theorem undeclaredNames_resolve_at_dangling :
    let blocks :=
      [Block.ofComment "!GET /pets -> list\n!query kind:Kind\n!ok 200 Pet[]" "list" .function
        ⟨"api.py", 3⟩,
      Block.ofComment "!model extends=Base" "Pet" .classBody ⟨"api.py", 9⟩,
      Block.ofComment "!field owner:Owner|Kind" "owner" .field ⟨"api.py", 10⟩ (some ⟨"Pet", 9⟩)]
    ∃ document warnings, (assemble blocks).draft.resolve "3.1.0" = .ok (document, warnings) ∧
      undeclaredNames warnings = ["Kind", "Owner", "Base"] ∧
      ∀ name, name ∈ undeclaredNames warnings ↔
        name ∈ document.refNames ∧ name ∉ document.components.schemas.keys := by
  intro blocks
  have hnames : ((assemble blocks).draft.resolve "3.1.0").toOption.map
      (fun resolved => undeclaredNames resolved.2) = some ["Kind", "Owner", "Base"] := by
    dsimp only [blocks]
    rw [Block.ofComment_ofList, Block.ofComment_ofList, Block.ofComment_ofList]
    decide +kernel
  obtain ⟨document, warnings, hresolve, hundeclared⟩ := Draft.exists_resolved hnames
  exact ⟨document, warnings, hresolve, hundeclared, (undeclaredNames_resolve hresolve).2⟩

end ApiDirectives
