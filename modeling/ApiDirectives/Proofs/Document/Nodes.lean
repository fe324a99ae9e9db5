import ApiDirectives.Document.Basic
import ApiDirectives.Proofs.Text.Blank

/-!
# Nodes of a document

Statements on a document often speak of every schema in it, at any depth. A schema's nodes are itself
and the nodes of its children: its properties, its items, and the members of its combinations. The
schemas of a document are those of parameters, bodies and responses, of operations as well as of
webhooks, and its components. A node that refers to a schema does so by name.
-/

namespace ApiDirectives

namespace Schema

/-- The schemas directly below a node. -/
def children (s : Schema) : List Schema :=
  s.properties.map Prod.snd ++ (s.items.toList ++ (s.allOf ++ (s.oneOf ++ s.anyOf)))

mutual

/-- The nodes of a schema at any depth, itself first. -/
def nodes : Schema → List Schema
  | s@⟨_, _, _, _, _, properties, _, items, allOf, oneOf, anyOf, _, _, _, _, _, _, _, _⟩ =>
    s :: (propertyNodes properties ++ (itemNodes items
      ++ (listedNodes allOf ++ (listedNodes oneOf ++ listedNodes anyOf))))

/-- The nodes of the items of an array. -/
def itemNodes : Option Schema → List Schema
  | none => []
  | some s => s.nodes

/-- The nodes of schemas in a list. -/
def listedNodes : List Schema → List Schema
  | [] => []
  | s :: r => s.nodes ++ listedNodes r

/-- The nodes of schemas by name. -/
def propertyNodes : List (String × Schema) → List Schema
  | [] => []
  | (_, s) :: r => s.nodes ++ propertyNodes r

end

theorem itemNodes_eq (items : Option Schema) : itemNodes items = items.toList.flatMap nodes := by
  cases items with
  | none => rfl
  | some s => simp [itemNodes]

theorem listedNodes_eq (ss : List Schema) : listedNodes ss = ss.flatMap nodes := by
  induction ss with
  | nil => rfl
  | cons s r ih => rw [listedNodes, ih, List.flatMap_cons]

theorem propertyNodes_eq (properties : List (String × Schema)) :
    propertyNodes properties = (properties.map Prod.snd).flatMap nodes := by
  induction properties with
  | nil => rfl
  | cons entry r ih => rw [propertyNodes, ih, List.map_cons, List.flatMap_cons]

/-- The nodes of a schema are itself and those of its children. -/
theorem nodes_eq (s : Schema) : s.nodes = s :: s.children.flatMap nodes := by
  cases s
  simp only [nodes, children, propertyNodes_eq, itemNodes_eq, listedNodes_eq, List.flatMap_append]

/-- Something holds at every node of a schema. -/
def Everywhere (P : Schema → Prop) (s : Schema) : Prop :=
  ∀ t ∈ s.nodes, P t

theorem everywhere_iff {P : Schema → Prop} {s : Schema} :
    s.Everywhere P ↔ P s ∧ ∀ t ∈ s.children, t.Everywhere P := by
  unfold Everywhere
  rw [nodes_eq, List.forall_mem_cons]
  simp only [List.mem_flatMap, forall_exists_index, and_imp]
  exact and_congr_right fun _ => ⟨fun h t ht u hu => h u t ht hu, fun h u t ht hu => h t ht u hu⟩

/-- The nodes of a schema that has no schemas below it. -/
theorem everywhere_of_leaf {P : Schema → Prop} {s : Schema} (h : P s) (hleaf : s.children = []) :
    s.Everywhere P :=
  everywhere_iff.mpr ⟨h, by simp [hleaf]⟩

theorem everywhere_arrayOf_iff {P : Schema → Prop} {s : Schema} :
    (arrayOf s).Everywhere P ↔ P (arrayOf s) ∧ s.Everywhere P := by
  rw [everywhere_iff]
  simp [arrayOf, children]

theorem everywhere_allOf_iff {P : Schema → Prop} {parts : List Schema} :
    ({ allOf := parts } : Schema).Everywhere P ↔
      P { allOf := parts } ∧ ∀ s ∈ parts, s.Everywhere P := by
  rw [everywhere_iff]
  simp [children]

theorem everywhere_oneOf_iff {P : Schema → Prop} {members : List Schema} :
    ({ oneOf := members } : Schema).Everywhere P ↔
      P { oneOf := members } ∧ ∀ s ∈ members, s.Everywhere P := by
  rw [everywhere_iff]
  simp [children]

/-! ## References -/

/-- The name that a node itself refers to, if it is a reference. -/
def ownName (s : Schema) : List String :=
  if s.ref = "" then [] else [s.refName]

/-- The names that a schema refers to at any depth. -/
def refNames (s : Schema) : List String :=
  s.nodes.flatMap ownName

theorem refNames_eq (s : Schema) : s.refNames = s.ownName ++ s.children.flatMap refNames := by
  unfold refNames
  rw [nodes_eq, List.flatMap_cons, List.flatMap_assoc]

/-- A schema refers to what another one does if the node itself and the children agree. -/
theorem refNames_congr {s t : Schema} (href : s.ref = t.ref) (hchildren : s.children = t.children) :
    s.refNames = t.refNames := by
  rw [refNames_eq s, refNames_eq t, hchildren]
  simp only [ownName, refName, href]

theorem refNames_of_ref_eq_empty {s : Schema} (href : s.ref = "") :
    s.refNames = s.children.flatMap refNames := by
  rw [refNames_eq, ownName, if_pos href, List.nil_append]

theorem refName_reference (name : String) : (reference name).refName = name := by
  simp only [refName, reference, String.toList_append, Text.dropLiteral?_append, String.ofList_toList]

/-- A reference refers to its name. -/
@[simp]
theorem refNames_reference (name : String) : (reference name).refNames = [name] := by
  have href : (reference name).ref ≠ "" := by
    simp [reference, refBase]
  rw [refNames_eq, ownName, if_neg href, refName_reference]
  rfl

end Schema

/-! ## The schemas of a document -/

/-- The schemas of a body, one for each format. -/
def contentSchemas (content : Table String MediaType) : List Schema :=
  content.values.flatMap (·.schema.toList)

/-- The schemas of an operation: of its parameters, its request body and its responses. -/
def Operation.schemas (o : Operation) : List Schema :=
  o.parameters.flatMap (·.schema.toList) ++ (o.requestBody.toList.flatMap (contentSchemas ·.content)
    ++ o.responses.values.flatMap (contentSchemas ·.content))

/-- The schemas of the operations of path items. -/
def pathSchemas (paths : Table String PathItem) : List Schema :=
  paths.values.flatMap fun item => item.operations.flatMap fun (_, o) => o.schemas

/-- The schemas of a document, by whose nodes all its schemas are reached. -/
def Document.schemas (d : Document) : List Schema :=
  pathSchemas d.paths ++ (pathSchemas d.webhooks ++ d.components.schemas.values)

/-- The nodes of all schemas of a document, at any depth. -/
def Document.nodes (d : Document) : List Schema :=
  d.schemas.flatMap Schema.nodes

/-- The names that some node of a document refers to. -/
def Document.refNames (d : Document) : List String :=
  d.nodes.flatMap Schema.ownName

theorem Document.refNames_eq (d : Document) : d.refNames = d.schemas.flatMap Schema.refNames :=
  List.flatMap_assoc ..

end ApiDirectives
