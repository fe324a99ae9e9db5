import ApiDirectives.Proofs.Document.Nodes
import ApiDirectives.Proofs.Document.Operations
import ApiDirectives.Proofs.Resolve.Passes

/-!
# A draft is resolved part by part

A draft is a tree, but its resolution never uses the result of one part for another: every written
type, every slot of a parameter or a field and every requirement is resolved on its own, and the
results are only put together. `Draft.parts` lists the parts in the order in which they are resolved,
and `Draft.resolution_performs` says that resolving a draft is going through this list, where the
nodes of the document are those of the parts' schemas and the frames of models around them. So a
statement on whole documents, on what is noticed or on when a resolution stops is a statement on one
part.
-/

namespace ApiDirectives

open Resolution

/-! ## Parts -/

/-- A part of a draft that is resolved on its own. -/
inductive Part where
  /-- The security schemes. -/
  | schemes
  /-- The type of a parameter or a field, with what is written beside it. -/
  | slot (type : String) (constraints : List (Constraint × String)) (description : String)
      (nullable : Bool) (location : Location)
  /-- The type of a body or a response, or a parent of a model. -/
  | written (type : String) (location : Location)
  /-- A security scheme that an operation requires. -/
  | requirement (name : String) (location : Location)
  /-- The first of some webhooks, whose place is where a version that has none is reported. -/
  | webhooks (first : Location)

/-- What the parts of a draft have in common. -/
structure Setting where
  version : String
  header : Header

/-- The dialect of a setting. -/
def Setting.dialect (e : Setting) : Dialect := Dialect.of e.version

/-- Resolves a slot: its type, then what is written beside it, then its question mark. -/
def resolveSlot (d : Dialect) (type : String) (constraints : List (Constraint × String))
    (description : String) (nullable : Bool) (location : Location) : Resolution Schema := do
  let s ← resolveType d type (some location)
  let s ← s.constrain d constraints (some location) description
  if nullable then s.makeNullable d else return s

/-- Reports webhooks in a version that has none. -/
def checkWebhooks (e : Setting) (first : Location) : Resolution Unit := do
  let typeSets ← Resolution.typeSets e.dialect
  if !typeSets then
    Resolution.report (.webhooksTooNew e.version) (some first)

/-- Resolves a part: a slot and a written type give their schema, the others only notice things. -/
def Part.resolve (e : Setting) : Part → Resolution (List Schema)
  | .schemes => do
    let _ ← resolveSchemes e.header
    return []
  | .slot type constraints description nullable location => do
    let s ← resolveSlot e.dialect type constraints description nullable location
    return [s]
  | .written type location => do
    let s ← resolveType e.dialect type (some location)
    return [s]
  | .requirement name location => do
    let _ ← resolveRequirement e.header location name
    return []
  | .webhooks first => do
    let _ ← checkWebhooks e first
    return []

/-- What holds everywhere in the schemas of slots and of written types holds so of every part. -/
theorem Part.resolve_everywhere (e : Setting) {P : Schema → Prop}
    (hslot : ∀ type constraints description nullable location,
      (resolveSlot e.dialect type constraints description nullable location).Yields fun s _ =>
        s.Everywhere P)
    (hwritten : ∀ type (location : Location),
      (resolveType e.dialect type (some location)).Yields fun s _ => s.Everywhere P) (p : Part) :
    (p.resolve e).Yields fun ss _ => ∀ s ∈ ss, s.Everywhere P := by
  cases p with
  | schemes => exact yields_bind (yields_true _) fun _ _ _ => yields_pure (List.forall_mem_nil _)
  | slot type constraints description nullable location =>
    refine yields_bind (hslot type constraints description nullable location) fun s _ hs => ?_
    exact yields_pure (List.forall_mem_singleton.mpr hs)
  | written type location =>
    refine yields_bind (hwritten type location) fun s _ hs => ?_
    exact yields_pure (List.forall_mem_singleton.mpr hs)
  | requirement name location =>
    exact yields_bind (yields_true _) fun _ _ _ => yields_pure (List.forall_mem_nil _)
  | webhooks first =>
    exact yields_bind (yields_true _) fun _ _ _ => yields_pure (List.forall_mem_nil _)

/-- The parts of a parameter of an operation. -/
def ParameterDraft.part (location : Location) (p : ParameterDraft) : Part :=
  .slot p.slot.type p.slot.constraints "" p.slot.nullable location

/-- The part of a response, unless it has no schema. -/
def Reply.parts (location : Location) (r : Reply) : List Part :=
  if r.schema = "" then [] else [.written r.schema location]

/-- The parts of a body and of responses. -/
def contentParts (location : Location) (body : Option Payload) (responses : Table String Reply) :
    List Part :=
  body.toList.map (fun p => .written p.schema location)
    ++ responses.flatMap (·.2.parts location)

/-- The parts of an operation. -/
def OperationDraft.parts (o : OperationDraft) : List Part :=
  o.parameters.map (·.part o.location)
    ++ (contentParts o.location o.body o.responses ++ o.security.map (.requirement · o.location))

/-- The parts of webhooks. -/
def webhookParts : Table String WebhookDraft → List Part
  | [] => []
  | (name, first) :: r =>
    .webhooks first.location
      :: ((name, first) :: r).flatMap fun (_, w) => contentParts w.location w.body w.responses

/-- The part of a field. -/
def FieldDraft.part (f : FieldDraft) : Part :=
  .slot f.type f.constraints f.description f.nullable f.location

/-- The parts of a model. -/
def ModelDraft.parts (m : ModelDraft) : List Part :=
  m.fields.map (·.2.part) ++ m.parents.map (.written · m.location)

/-- The parts of a draft, in the order in which they are resolved. -/
def Draft.parts (draft : Draft) : List Part :=
  .schemes :: (draft.operations.flatMap (·.2.parts)
    ++ (webhookParts draft.header.webhooks ++ draft.models.flatMap (·.2.parts)))

/-- What the parts of a draft have in common, with a version for drafts that declare none. -/
def Draft.setting (draft : Draft) (fallback : String) : Setting :=
  ⟨draft.version fallback, draft.header⟩

/-! ## Operations -/

section Operations

variable (e : Setting) (location : Location)

theorem resolveType_performs (type : String) :
    (resolveType e.dialect type (some location)).Performs (Part.resolve e) [.written type location]
      fun s ss => ss = [s] :=
  performs_part rfl

theorem ParameterDraft.resolve_performs (p : ParameterDraft) :
    (p.resolve e.dialect location).Performs (Part.resolve e) [p.part location] fun parameter ss =>
      ss = parameter.schema.toList := by
  have hslot : p.resolve e.dialect location = do
      let s ← resolveSlot e.dialect p.slot.type p.slot.constraints "" p.slot.nullable location
      return {
        name := p.slot.name
        place := p.place.name
        description := p.slot.description
        required := p.slot.required || p.place = .path
        schema := some s } := by
    simp only [ParameterDraft.resolve, resolveSlot, bind_assoc]
    refine bind_congr fun s => bind_congr fun t => ?_
    split <;> rfl
  rw [hslot]
  exact performs_map (performs_part (v := fun s => [s]) rfl) fun s ss hss => hss

theorem resolveBody_performs (body : Option Payload) :
    (resolveBody e.dialect location body).Performs (Part.resolve e)
      (body.toList.map fun p => .written p.schema location) fun b ss =>
        ss = b.toList.flatMap (contentSchemas ·.content) := by
  cases body with
  | none => exact performs_pure rfl
  | some p =>
    have hpayload : (p.resolve e.dialect location).Performs (Part.resolve e)
        [.written p.schema location] fun b ss => ss = contentSchemas b.content :=
      performs_map (resolveType_performs e location p.schema) fun s ss hss => hss
    refine performs_map hpayload fun b ss hss => ?_
    simpa using hss

theorem Reply.resolve_performs (r : Reply) :
    (r.resolve e.dialect location).Performs (Part.resolve e) (r.parts location) fun response ss =>
      ss = contentSchemas response.content := by
  unfold Reply.resolve Reply.parts
  dsimp only
  split
  · exact performs_pure rfl
  · exact performs_map (resolveType_performs e location r.schema) fun s ss hss => hss

theorem resolveReplies_performs (replies : Table String Reply) :
    (resolveReplies e.dialect location replies).Performs (Part.resolve e)
      (replies.flatMap (·.2.parts location)) fun responses ss =>
        ss = responses.flatMap (contentSchemas ·.2.content) := by
  refine performs_flatMap replies ?_
  rintro ⟨status, r⟩ _
  exact performs_map (r.resolve_performs e location) fun response ss hss => hss

theorem resolveRequirement_performs (name : String) :
    (resolveRequirement e.header location name).Performs (Part.resolve e)
      [.requirement name location] fun _ ss => ss = [] :=
  performs_part rfl

/-- An operation goes through its parts. -/
theorem OperationDraft.resolve_performs (o : OperationDraft) :
    (o.resolve e.dialect e.header).Performs (Part.resolve e) o.parts fun operation ss =>
      ss = operation.schemas := by
  unfold OperationDraft.resolve OperationDraft.parts contentParts
  have hparameters := performs_flatMap o.parameters fun p _ => p.resolve_performs e o.location
  rw [← List.map_eq_flatMap] at hparameters
  refine performs_bind hparameters fun parameters ss₁ h₁ => ?_
  rw [List.append_assoc]
  refine performs_bind (resolveBody_performs e o.location o.body) fun requestBody ss₂ h₂ => ?_
  refine performs_bind (resolveReplies_performs e o.location o.responses) fun responses ss₃ h₃ => ?_
  have hsecurity := performs_flatMap o.security fun name _ =>
    resolveRequirement_performs e o.location name
  rw [← List.map_eq_flatMap] at hsecurity
  refine performs_map hsecurity fun security ss₄ h₄ => ?_
  subst h₁ h₂ h₃ h₄
  simp [Operation.schemas, Table.values, List.flatMap_map]

/-- A webhook goes through its parts. -/
theorem WebhookDraft.resolve_performs (w : WebhookDraft) :
    (w.resolve e.dialect).Performs (Part.resolve e) (contentParts w.location w.body w.responses)
      fun operation ss => ss = operation.schemas := by
  unfold WebhookDraft.resolve contentParts
  refine performs_bind (resolveBody_performs e w.location w.body) fun requestBody ss₁ h₁ => ?_
  refine performs_map (resolveReplies_performs e w.location w.responses) fun responses ss₂ h₂ => ?_
  subst h₁ h₂
  simp [Operation.schemas, Table.values, List.flatMap_map]

theorem resolveOperations_performs (operations : Operations) :
    (resolveOperations e.dialect e.header operations).Performs (Part.resolve e)
      (operations.flatMap (·.2.parts)) fun resolved ss =>
        ss = resolved.flatMap (·.2.2.schemas) := by
  refine performs_flatMap operations ?_
  rintro ⟨⟨path, m⟩, o⟩ _
  exact performs_map (o.resolve_performs e) fun operation ss hss => hss

/-- The version is checked before the first webhook is resolved. -/
theorem resolveWebhooks_cons (name : String) (first : WebhookDraft)
    (rest : Table String WebhookDraft) :
    resolveWebhooks e.dialect e.version ((name, first) :: rest) =
      checkWebhooks e first.location >>= fun _ =>
        Resolution.each (fun (name, w) => do
          let o ← WebhookDraft.resolve e.dialect w
          return (name, PathItem.withOperation {} o w.method)) ((name, first) :: rest) := by
  simp only [resolveWebhooks, checkWebhooks, bind_assoc]
  refine bind_congr fun typeSets => ?_
  split <;> simp

theorem resolveWebhooks_performs (webhooks : Table String WebhookDraft) :
    (resolveWebhooks e.dialect e.version webhooks).Performs (Part.resolve e)
      (webhookParts webhooks) fun items ss => ss = pathSchemas items := by
  cases webhooks with
  | nil => exact performs_pure rfl
  | cons entry rest =>
    obtain ⟨name, first⟩ := entry
    have hcheck : (checkWebhooks e first.location).Performs (Part.resolve e)
        [.webhooks first.location] fun _ ss => ss = [] := performs_part rfl
    rw [resolveWebhooks_cons]
    refine performs_bind hcheck fun _ none hnone => ?_
    subst hnone
    have hitems : ∀ entry : String × WebhookDraft, (do
        let o ← WebhookDraft.resolve e.dialect entry.2
        return (entry.1, PathItem.withOperation {} o entry.2.method)
          : Resolution (String × PathItem)).Performs (Part.resolve e)
            (contentParts entry.2.location entry.2.body entry.2.responses) fun item ss =>
              ss = item.2.operations.flatMap (·.2.schemas) := by
      rintro ⟨name, w⟩
      refine performs_map (w.resolve_performs e) fun o ss hss => ?_
      simpa [PathItem.operations_withOperation_empty] using hss
    refine (performs_flatMap _ fun entry _ => hitems entry).mono fun items ss hss => ?_
    rw [hss, pathSchemas, Table.values, List.flatMap_map]
    rfl

end Operations

/-! ## Nodes of a document -/

/-- The nodes that a model adds around the schemas of its fields and its parents. -/
inductive Schema.IsFrame : Schema → Prop
  | object (properties : List (String × Schema)) (required : List String) (description : String) :
      IsFrame { type := ["object"], properties, required, description }
  | combined (parts : List Schema) (description : String) :
      IsFrame { allOf := parts, description }

/-- Nodes are those of some schemas, and frames around them. -/
structure Built (nodes : List Schema) (ss : List Schema) : Prop where
  covers : ∀ s ∈ ss, ∀ t ∈ s.nodes, t ∈ nodes
  covered : ∀ t ∈ nodes, t.IsFrame ∨ ∃ s ∈ ss, t ∈ s.nodes

namespace Built

theorem plain (ss : List Schema) : Built (ss.flatMap Schema.nodes) ss :=
  ⟨fun s hs _ ht => List.mem_flatMap.mpr ⟨s, hs, ht⟩, fun _ ht => .inr (List.mem_flatMap.mp ht)⟩

theorem append {nodes nodes' ss ss' : List Schema} (h : Built nodes ss) (h' : Built nodes' ss') :
    Built (nodes ++ nodes') (ss ++ ss') := by
  refine ⟨?_, ?_⟩
  · intro s hs t ht
    rcases List.mem_append.mp hs with hs | hs
    · exact List.mem_append_left _ (h.covers s hs t ht)
    · exact List.mem_append_right _ (h'.covers s hs t ht)
  · intro t ht
    rcases List.mem_append.mp ht with ht | ht
    · refine (h.covered t ht).imp_right ?_
      rintro ⟨s, hs, hst⟩
      exact ⟨s, List.mem_append_left _ hs, hst⟩
    · refine (h'.covered t ht).imp_right ?_
      rintro ⟨s, hs, hst⟩
      exact ⟨s, List.mem_append_right _ hs, hst⟩

/-- A frame around nodes. -/
theorem frame {nodes ss : List Schema} (h : Built nodes ss) {t : Schema} (ht : t.IsFrame) :
    Built (t :: nodes) ss := by
  refine ⟨fun s hs t' ht' => List.mem_cons_of_mem _ (h.covers s hs t' ht'), ?_⟩
  intro t' ht'
  rcases List.mem_cons.mp ht' with rfl | ht'
  · exact .inl ht
  · exact h.covered t' ht'

theorem of_mem_iff {nodes nodes' ss ss' : List Schema} (h : Built nodes ss)
    (hnodes : ∀ t, t ∈ nodes' ↔ t ∈ nodes) (hss : ∀ s, s ∈ ss' ↔ s ∈ ss) : Built nodes' ss' := by
  refine ⟨?_, ?_⟩
  · intro s hs t ht
    exact (hnodes t).mpr (h.covers s ((hss s).mp hs) t ht)
  · intro t ht
    refine (h.covered t ((hnodes t).mp ht)).imp_right ?_
    rintro ⟨s, hs, hst⟩
    exact ⟨s, (hss s).mpr hs, hst⟩

/-- What holds at every frame holds at all nodes exactly if it holds everywhere in the schemas. -/
theorem forall_iff {nodes ss : List Schema} (h : Built nodes ss) {P : Schema → Prop}
    (hP : ∀ t, t.IsFrame → P t) : (∀ t ∈ nodes, P t) ↔ ∀ s ∈ ss, s.Everywhere P := by
  constructor
  · intro hnodes s hs t ht
    exact hnodes t (h.covers s hs t ht)
  · intro hss t ht
    rcases h.covered t ht with hframe | ⟨s, hs, hst⟩
    · exact hP t hframe
    · exact hss s hs t hst

end Built

/-! ## Models -/

section Models

variable (e : Setting)

theorem FieldDraft.resolve_performs (f : FieldDraft) :
    (f.resolve e.dialect).Performs (Part.resolve e) [f.part] fun s ss => ss = [s] :=
  performs_part rfl

theorem nodes_object (properties : List (String × Schema)) (required : List String)
    (description : String) :
    ({ type := ["object"], properties, required, description } : Schema).nodes =
      { type := ["object"], properties, required, description }
        :: (properties.map Prod.snd).flatMap Schema.nodes := by
  rw [Schema.nodes_eq]
  simp [Schema.children]

theorem nodes_combined (parts : List Schema) (description : String) :
    ({ allOf := parts, description } : Schema).nodes =
      { allOf := parts, description } :: parts.flatMap Schema.nodes := by
  rw [Schema.nodes_eq]
  simp [Schema.children]

/-- A model goes through its fields and its parents, and puts frames around them. -/
theorem ModelDraft.resolve_performs (m : ModelDraft) :
    (m.resolve e.dialect).Performs (Part.resolve e) m.parts fun s ss => Built s.nodes ss := by
  unfold ModelDraft.resolve ModelDraft.parts
  have hfields := performs_flatMap (v := fun entry : String × Schema => [entry.2]) m.fields
    fun field _ => performs_map (f := fun s => (field.1, s)) (field.2.resolve_performs e)
      fun s ss hss => hss
  have hparents := performs_flatMap m.parents fun name _ => resolveType_performs e m.location name
  rw [← List.map_eq_flatMap] at hfields hparents
  refine performs_bind hfields fun properties fields hproperties => ?_
  rw [← List.map_eq_flatMap] at hproperties
  subst hproperties
  dsimp only
  split
  · rename_i hnone
    rw [List.isEmpty_iff.mp hnone]
    refine performs_pure ?_
    rw [List.append_nil]
    exact (nodes_object properties m.required m.description).symm ▸
      (Built.plain _).frame (.object properties m.required m.description)
  · refine performs_map hparents fun parents ss hss => ?_
    rw [hss, ← List.map_eq_flatMap, List.map_id', nodes_combined]
    refine Built.frame ?_ (.combined _ _)
    split
    · have hown := (Built.plain (properties.map Prod.snd)).frame
        (.object properties m.required "")
      refine (hown.append (Built.plain parents)).of_mem_iff ?_ fun s => Iff.rfl
      intro t
      rw [List.flatMap_append, List.flatMap_singleton, nodes_object, List.mem_append,
        List.mem_append]
      exact or_comm
    · -- A model without members of its own is its parents.
      rename_i hown
      have hempty : properties = [] := by
        cases properties with
        | nil => rfl
        | cons entry rest => exact absurd rfl hown
      subst hempty
      exact Built.plain parents

theorem resolveModels_performs (models : Models) :
    (resolveModels e.dialect models).Performs (Part.resolve e) (models.flatMap (·.2.parts))
      fun schemas ss => Built (schemas.values.flatMap Schema.nodes) ss := by
  refine performs_each (R := fun (entry : String × Schema) ss => Built entry.2.nodes ss)
    (Built.plain []) ?_ models ?_
  · intro entry schemas ss ts hentry hschemas
    exact hentry.append hschemas
  · rintro ⟨name, m⟩ _
    exact performs_map (m.resolve_performs e) fun s ss hss => hss

end Models

/-! ## The document -/

theorem pathSchemas_eq (paths : Table String PathItem) :
    pathSchemas paths = (pathOperations paths).flatMap (·.2.2.schemas) := by
  simp only [pathSchemas, pathOperations, Table.values, List.flatMap_map, List.flatMap_assoc]

/-- Resolving a draft is going through its parts, and the document is built from their schemas. -/
theorem Draft.resolution_performs {draft : Draft} (hdraft : draft.operations.WellFormed)
    (fallback : String) :
    (draft.resolution fallback).Performs (Part.resolve (draft.setting fallback)) draft.parts
      fun document ss => Built document.nodes ss := by
  unfold Draft.resolution Draft.parts
  dsimp only
  have hschemes : (resolveSchemes draft.header).Performs (Part.resolve (draft.setting fallback))
      [.schemes] fun _ ss => ss = [] := performs_part rfl
  refine performs_bind hschemes fun securitySchemes none hnone => ?_
  subst hnone
  have hoperations := (resolveOperations_performs (draft.setting fallback)
    draft.operations).and_yields (resolveOperations_yields _ _ _)
  refine performs_bind hoperations fun resolved ss₁ h₁ => ?_
  obtain ⟨hkept, rfl⟩ := h₁
  refine performs_bind (resolveWebhooks_performs (draft.setting fallback) draft.header.webhooks)
    fun webhooks ss₂ h₂ => ?_
  subst h₂
  refine performs_map (resolveModels_performs (draft.setting fallback) draft.models)
    fun schemas ss₃ h₃ => ?_
  -- Grouping by path changes the order of the operations, and loses none of them.
  have hgroup : ∀ s, s ∈ pathSchemas (groupPaths resolved) ↔
      s ∈ resolved.flatMap (·.2.2.schemas) := by
    intro s
    rw [pathSchemas_eq]
    exact ((hdraft.groupPaths_perm hkept).flatMap_right _).mem_iff
  have hpaths : Built ((pathSchemas (groupPaths resolved)).flatMap Schema.nodes)
      (resolved.flatMap (·.2.2.schemas)) :=
    (Built.plain _).of_mem_iff (fun t => Iff.rfl) fun s => (hgroup s).symm
  rw [Document.nodes, Document.schemas, List.flatMap_append, List.flatMap_append, List.nil_append]
  exact hpaths.append ((Built.plain _).append h₃)

/-- What holds at every frame holds at every node of a document exactly if it holds everywhere in
what the parts of its draft give. -/
theorem Draft.forall_nodes_iff {draft : Draft} (hdraft : draft.operations.WellFormed)
    {fallback : String} {document : Document} {ns : List Notice}
    (h : draft.resolution fallback = .ok (document, ns)) {P : Schema → Prop}
    (hP : ∀ t, t.IsFrame → P t) :
    (∀ t ∈ document.nodes, P t) ↔
      ∀ p ∈ draft.parts, ∀ s, (p.resolve (draft.setting fallback)).Gives s → s.Everywhere P := by
  obtain ⟨ss, hbuilt, hgives, _⟩ := (Draft.resolution_performs hdraft fallback).of_ok h
  rw [hbuilt.forall_iff hP]
  constructor
  · intro hss p hp s hs
    exact hss s ((hgives s).mpr ⟨p, hp, hs⟩)
  · intro hparts s hs
    obtain ⟨p, hp, hgive⟩ := (hgives s).mp hs
    exact hparts p hp s hgive

end ApiDirectives
