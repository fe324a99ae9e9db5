import ApiDirectives.Proofs.Document.Operations
import ApiDirectives.Proofs.Document.SchemaRoundTrip

/-!
# Reading a written document

Every record of a document is written member by member, and a member is left out exactly when it has
its default, so that reading the written form gives the record again. For the records that have no
schema below them this is `read_written`. For the others the schemas are those of the preceding module:
their types are put into lists wherever a schema stands in a document, and their bounds are read again
as doubles (`mapBounds`). The statements for records carry the bounds of their schemas along as
`BoundedIn`, which every document that was read satisfies.
-/

namespace ApiDirectives

open Checked

/-! ## Types in lists, in a document -/

namespace Value

/-- Changes the value of a member. -/
def atMember (name : String) (f : Value → Value) : Value → Value
  | .object ms => .object (Table.adjust ms name f)
  | v => v

/-- Changes the values of all members. -/
def eachMember (f : Value → Value) : Value → Value
  | .object ms => .object (Table.mapValues f ms)
  | v => v

/-- Changes all elements. -/
def eachElement (f : Value → Value) : Value → Value
  | .list vs => .list (vs.map f)
  | v => v

end Value

/-- Of a parameter, and of a body in one format. -/
def relistSchema : Value → Value := Value.atMember "schema" relistNode

/-- Of a request body and of a response. -/
def relistContent : Value → Value := Value.atMember "content" (Value.eachMember relistSchema)

/-- Of an operation. -/
def relistOperation (v : Value) : Value :=
  ((v.atMember "parameters" (Value.eachElement relistSchema)).atMember "requestBody" relistContent
    ).atMember "responses" (Value.eachMember relistContent)

/-- Of paths, with an operation for each method. -/
def relistPaths : Value → Value := Value.eachMember (Value.eachMember relistOperation)

/-- The value of a document with the types of all schema nodes in lists. -/
def relisted (v : Value) : Value :=
  ((v.atMember "paths" relistPaths).atMember "webhooks" relistPaths).atMember "components"
    (Value.atMember "schemas" (Value.eachMember relistNode))

/-! ## Records without schemas -/

theorem Contact.read_written (c : Contact) : Contact.read c.written = .ok c := by
  cases c
  refine seq_of_ok ?_ (member_text ?email)
  refine seq_of_ok (map_of_ok _ (member_text ?name)) (member_text ?url)
  all_goals simp [Table.get?_append]

theorem License.read_written (l : License) : License.read l.written = .ok l := by
  refine seq_of_ok (map_of_ok _ (needed_text ?name)) (member_text ?url)
  all_goals simp [Table.get?_append]

theorem Info.read_written (i : Info) : Info.read i.written = .ok i := by
  cases i
  refine seq_of_ok ?_ (needed_text ?version)
  refine seq_of_ok ?_ (member_option_self (w := License.written) ?license
    fun l _ => ⟨rfl, l.read_written⟩)
  refine seq_of_ok ?_ (member_option_self (w := Contact.written) ?contact
    fun c _ => ⟨rfl, c.read_written⟩)
  refine seq_of_ok ?_ (member_text ?termsOfService)
  refine seq_of_ok (map_of_ok _ (needed_text ?title)) (member_text ?description)
  all_goals simp [Table.get?_append]

theorem Server.read_written (s : Server) : Server.read s.written = .ok s := by
  refine seq_of_ok (map_of_ok _ (needed_text ?url)) (member_text ?description)
  all_goals simp [Table.get?_append]

theorem ExternalDocs.read_written (e : ExternalDocs) : ExternalDocs.read e.written = .ok e := by
  refine seq_of_ok (map_of_ok _ (member_text ?description)) (needed_text ?url)
  all_goals simp [Table.get?_append]

theorem Tag.read_written (t : Tag) : Tag.read t.written = .ok t := by
  refine seq_of_ok (map_of_ok _ (needed_text ?name)) (member_text ?description)
  all_goals simp [Table.get?_append]

theorem read_writtenRequirement (r : Requirement) :
    Value.table Value.textList (writtenRequirement r) = .ok r := by
  have hread := members_map (w := fun scopes => Value.list (texts scopes)) (g := id) (t := r)
    fun entry _ => textList_texts entry.2
  exact hread.trans (congrArg Checked.ok (List.map_id r))

theorem OAuthFlow.read_written (f : OAuthFlow) : OAuthFlow.read f.written = .ok f := by
  cases f
  refine seq_of_ok ?_ (member_table_self (w := .str) ?scopes fun _ _ => rfl)
  refine seq_of_ok ?_ (member_text ?refreshUrl)
  refine seq_of_ok (map_of_ok _ (member_text ?authorizationUrl)) (member_text ?tokenUrl)
  all_goals simp [Table.get?_append]

theorem OAuthFlows.read_written (f : OAuthFlows) : OAuthFlows.read f.written = .ok f := by
  have hflow : ∀ {names : List String} {ms : List (String × Value)} {o : Option OAuthFlow},
      held names ms = o.map OAuthFlow.written →
        member names none (Value.optional OAuthFlow.read) ms = .ok o :=
    fun h => member_option_self h fun flow _ => ⟨rfl, flow.read_written⟩
  cases f
  refine seq_of_ok ?_ (hflow ?authorizationCode)
  refine seq_of_ok ?_ (hflow ?clientCredentials)
  refine seq_of_ok (map_of_ok _ (hflow ?implicit)) (hflow ?password)
  all_goals simp [Table.get?_append]

theorem SecurityScheme.read_written (s : SecurityScheme) :
    SecurityScheme.read s.written = .ok s := by
  cases s
  refine seq_of_ok ?_ (member_text ?openIdConnectUrl)
  refine seq_of_ok ?_ (member_option_self (w := OAuthFlows.written) ?flows
    fun f _ => ⟨rfl, f.read_written⟩)
  refine seq_of_ok ?_ (member_text ?scheme)
  refine seq_of_ok ?_ (member_text ?place)
  refine seq_of_ok ?_ (member_text ?name)
  refine seq_of_ok (map_of_ok _ (needed_text ?type)) (member_text ?description)
  all_goals simp [Table.get?_append]

/-! ## Schemas of records -/

section Mapping

variable (f : Number → Number)

def MediaType.mapBounds (m : MediaType) : MediaType :=
  { m with schema := m.schema.map (Schema.mapBounds f) }

def Parameter.mapBounds (p : Parameter) : Parameter :=
  { p with schema := p.schema.map (Schema.mapBounds f) }

def RequestBody.mapBounds (b : RequestBody) : RequestBody :=
  { b with content := b.content.mapValues (MediaType.mapBounds f) }

def Response.mapBounds (r : Response) : Response :=
  { r with content := r.content.mapValues (MediaType.mapBounds f) }

def Operation.mapBounds (o : Operation) : Operation :=
  { o with
    parameters := o.parameters.map (Parameter.mapBounds f)
    requestBody := o.requestBody.map (RequestBody.mapBounds f)
    responses := o.responses.mapValues (Response.mapBounds f) }

def PathItem.mapBounds (p : PathItem) : PathItem where
  get := p.get.map (Operation.mapBounds f)
  put := p.put.map (Operation.mapBounds f)
  post := p.post.map (Operation.mapBounds f)
  delete := p.delete.map (Operation.mapBounds f)
  options := p.options.map (Operation.mapBounds f)
  head := p.head.map (Operation.mapBounds f)
  patch := p.patch.map (Operation.mapBounds f)
  trace := p.trace.map (Operation.mapBounds f)

def Components.mapBounds (c : Components) : Components :=
  { c with schemas := c.schemas.mapValues (Schema.mapBounds f) }

/-- A document with the bounds of all its schemas changed. -/
def Document.mapBounds (d : Document) : Document :=
  { d with
    paths := d.paths.mapValues (PathItem.mapBounds f)
    webhooks := d.webhooks.mapValues (PathItem.mapBounds f)
    components := d.components.mapBounds f }

end Mapping

/-! ## Records with schemas -/

@[simp]
theorem eachMember_writtenTable {α : Type} (f : Value → Value) (w : α → Value) (t : Table String α) :
    Value.eachMember f (.object (writtenTable w t)) =
      .object (writtenTable (fun a => f (w a)) t) := by
  simp [Value.eachMember, writtenTable, Table.mapValues]

/-- The schema that a record may have. -/
theorem member_schema {names : List String} {ms : List (String × Value)} {o : Option Schema}
    (h : held names ms = o.map fun s => relistNode s.written) (hbounded : BoundedIn o.toList) :
    member names none (Value.optional Schema.read) ms =
      .ok (o.map (Schema.mapBounds Number.reread)) :=
  member_option h fun s hs =>
    ⟨s.isNull_relistNode, Schema.read_relistNode (boundedIn_toList.mp hbounded s hs)⟩

theorem MediaType.read_relisted {m : MediaType} (h : BoundedIn m.schema.toList) :
    MediaType.read (relistSchema m.written) = .ok (m.mapBounds Number.reread) := by
  refine seq_of_ok (map_of_ok _ (member_schema ?schema h)) (member_free ?exampleValue)
  all_goals simp [Table.get?_append, Table.get?_adjust, Function.comp_def]

theorem Parameter.read_relisted {p : Parameter} (h : BoundedIn p.schema.toList) :
    Parameter.read (relistSchema p.written) = .ok (p.mapBounds Number.reread) := by
  refine seq_of_ok ?_ (member_schema ?schema h)
  refine seq_of_ok ?_ (member_flag ?required)
  refine seq_of_ok ?_ (member_text ?description)
  refine seq_of_ok (map_of_ok _ (needed_text ?name)) (needed_text ?place)
  all_goals simp [Table.get?_append, Table.get?_adjust, Function.comp_def]

/-- The content of a request body or a response. -/
theorem member_content {names : List String} {ms : List (String × Value)}
    {t : Table String MediaType}
    (h : held names ms = unlessLeftOut t.isEmpty
      (.object (writtenTable (fun m => relistSchema m.written) t)))
    (hbounded : BoundedIn (contentSchemas t)) :
    member names [] (Value.table MediaType.read) ms =
      .ok (t.mapValues (MediaType.mapBounds Number.reread)) :=
  member_table h fun entry hentry =>
    MediaType.read_relisted (boundedIn_values.mp hbounded entry hentry)

theorem RequestBody.read_relisted {b : RequestBody} (h : BoundedIn (contentSchemas b.content)) :
    RequestBody.read (relistContent b.written) = .ok (b.mapBounds Number.reread) := by
  refine seq_of_ok ?_ (member_flag ?required)
  refine seq_of_ok (map_of_ok _ (member_text ?description)) (member_content ?content h)
  all_goals simp [Table.get?_append, Table.get?_adjust]

theorem Response.read_relisted {r : Response} (h : BoundedIn (contentSchemas r.content)) :
    Response.read (relistContent r.written) = .ok (r.mapBounds Number.reread) := by
  refine seq_of_ok (map_of_ok _ (needed_text ?description)) (member_content ?content h)
  all_goals simp [Table.get?_append, Table.get?_adjust]

theorem Operation.read_relisted {o : Operation} (h : BoundedIn o.schemas) :
    Operation.read (relistOperation o.written) = .ok (o.mapBounds Number.reread) := by
  obtain ⟨hparameters, hrest⟩ := boundedIn_append.mp h
  obtain ⟨hbody, hresponses⟩ := boundedIn_append.mp hrest
  rw [boundedIn_flatMap] at hparameters hbody
  rw [boundedIn_values] at hresponses
  refine seq_of_ok ?_ (member_list_self (w := writtenRequirement) ?security
    fun r _ => read_writtenRequirement r)
  refine seq_of_ok ?_ (member_table (w := fun r => relistContent r.written) ?responses
    fun entry hentry => Response.read_relisted (hresponses entry hentry))
  refine seq_of_ok ?_ (member_option (w := fun b => relistContent b.written) ?requestBody
    fun b hb => ⟨rfl, RequestBody.read_relisted (hbody b (Option.mem_toList.mpr hb))⟩)
  refine seq_of_ok ?_ (member_list (w := fun p => relistSchema p.written) ?parameters
    fun p hp => Parameter.read_relisted (hparameters p hp))
  refine seq_of_ok ?_ (member_text ?operationId)
  refine seq_of_ok ?_ (member_text ?description)
  refine seq_of_ok ?_ (member_text ?summary)
  refine map_of_ok _ (member_texts ?tags)
  all_goals
    simp [Table.get?_append, Table.get?_adjust, Value.eachElement, Function.comp_def]

theorem Method.lower_injective : Function.Injective Method.lower := by
  intro m m' h
  cases m <;> cases m' <;> simp_all [Method.lower]

theorem PathItem.get?_slots (p : PathItem) (m : Method) (slots : List Method) :
    Table.get? ((slots.filterMap fun m => (p.operation? m).map fun o => (m, o)).map
        fun (m, o) => (m.lower, o.written)) m.lower =
      if m ∈ slots then (p.operation? m).map Operation.written else none := by
  induction slots with
  | nil => rfl
  | cons m' slots ih =>
    rw [List.filterMap_cons]
    cases hoperation : p.operation? m' with
    | none =>
      simp only [Option.map_none, ih, List.mem_cons]
      by_cases hm : m = m'
      · subst hm
        simp [hoperation]
      · simp [hm]
    | some o =>
      simp only [Option.map_some, List.map_cons, Table.get?_cons, ih, List.mem_cons]
      by_cases hm : m = m'
      · subst hm
        simp [hoperation]
      · have hlower : m'.lower ≠ m.lower := fun h => hm (Method.lower_injective h).symm
        simp [hm, hlower]

/-- Under the name of a method there is its operation. -/
theorem PathItem.get?_operations (p : PathItem) (m : Method) :
    Table.get? (p.operations.map fun (m, o) => (m.lower, o.written)) m.lower =
      (p.operation? m).map Operation.written := by
  rw [operations, get?_slots, if_pos m.mem_all]

theorem PathItem.read_relisted {p : PathItem}
    (h : BoundedIn (p.operations.flatMap fun (_, o) => o.schemas)) :
    PathItem.read (Value.eachMember relistOperation p.written) =
      .ok (p.mapBounds Number.reread) := by
  have hslot : ∀ m : Method, member [m.lower] none (Value.optional Operation.read)
      (Table.mapValues relistOperation (p.operations.map fun (m, o) => (m.lower, o.written))) =
        .ok ((p.operation? m).map (Operation.mapBounds Number.reread)) := by
    intro m
    refine member_option (w := fun o => relistOperation o.written) ?_ ?_
    · rw [held_one, Table.get?_mapValues, get?_operations, Option.map_map]
      rfl
    · intro o ho
      exact ⟨rfl, Operation.read_relisted (boundedIn_flatMap.mp h (m, o) (mem_operations.mpr ho))⟩
  refine seq_of_ok ?_ (hslot .trace)
  refine seq_of_ok ?_ (hslot .patch)
  refine seq_of_ok ?_ (hslot .head)
  refine seq_of_ok ?_ (hslot .options)
  refine seq_of_ok ?_ (hslot .delete)
  refine seq_of_ok ?_ (hslot .post)
  exact seq_of_ok (map_of_ok _ (hslot .get)) (hslot .put)

theorem Components.read_relisted {c : Components} (h : BoundedIn c.schemas.values) :
    Components.read (Value.atMember "schemas" (Value.eachMember relistNode) (.object c.members)) =
      .ok (c.mapBounds Number.reread) := by
  have hschemas : ∀ entry ∈ c.schemas, Schema.read (relistNode entry.2.written) =
      .ok (entry.2.mapBounds Number.reread) :=
    fun entry hentry => Schema.read_relistNode (h entry.2 (List.mem_map_of_mem hentry))
  refine seq_of_ok (map_of_ok _ (member_table (w := fun s => relistNode s.written) ?schemas
    hschemas)) (member_table_self (w := SecurityScheme.written) ?securitySchemes
    fun entry _ => entry.2.read_written)
  all_goals simp [members, Table.get?_append, Table.get?_adjust]

/-- Components are left out when there are none. -/
theorem member_components {names : List String} {ms : List (String × Value)} {c : Components}
    (h : held names ms = unlessLeftOut c.members.isEmpty
      (Value.atMember "schemas" (Value.eachMember relistNode) (.object c.members)))
    (hbounded : BoundedIn c.schemas.values) :
    member names {} Components.read ms = .ok (c.mapBounds Number.reread) := by
  refine member_of_held h ?_ (Components.read_relisted hbounded)
  intro hempty
  obtain ⟨schemas, schemes⟩ := c
  cases schemas with
  | nil =>
    cases schemes with
    | nil => rfl
    | cons entry schemes => cases hempty
  | cons entry schemas => cases hempty

/-- The paths of a document and its webhooks. -/
theorem member_paths {names : List String} {ms : List (String × Value)} {t : Table String PathItem}
    (h : held names ms = unlessLeftOut t.isEmpty
      (.object (writtenTable (fun p => Value.eachMember relistOperation p.written) t)))
    (hbounded : BoundedIn (pathSchemas t)) :
    member names [] (Value.table PathItem.read) ms =
      .ok (t.mapValues (PathItem.mapBounds Number.reread)) :=
  member_table h fun entry hentry =>
    PathItem.read_relisted (boundedIn_values.mp hbounded entry hentry)

/-- A written document is read back, its types in lists, with its bounds as they are read again. -/
theorem Document.read_relisted {d : Document} (h : BoundedIn d.schemas) :
    Document.read (relisted d.written) = .ok (d.mapBounds Number.reread) := by
  obtain ⟨hpaths, hrest⟩ := boundedIn_append.mp h
  obtain ⟨hwebhooks, hschemas⟩ := boundedIn_append.mp hrest
  refine seq_of_ok ?_ (member_option_self (w := ExternalDocs.written) ?externalDocs
    fun e _ => ⟨rfl, e.read_written⟩)
  refine seq_of_ok ?_ (member_list_self (w := Tag.written) ?tags fun t _ => t.read_written)
  refine seq_of_ok ?_ (member_components ?components hschemas)
  refine seq_of_ok ?_ (member_paths ?webhooks hwebhooks)
  refine seq_of_ok ?_ (member_paths ?paths hpaths)
  refine seq_of_ok ?_ (member_list_self (w := Server.written) ?servers fun s _ => s.read_written)
  refine seq_of_ok (map_of_ok _ (needed_text ?openapi)) (needed_of_held ?info d.info.read_written)
  all_goals simp [Table.get?_append, Table.get?_adjust, relistPaths]

/-- Writing loses nothing: a document that was read from a value is read again from its written form
with the types in lists, and is the same but for its bounds, which are the same numbers. So whatever
differs from its default is written, at any depth. -/
theorem written_document_reread {v : Value} {d : Document} (hnormal : v.Normal)
    (hread : Document.read v = .ok d)
    (hfinite : ∀ s ∈ d.nodes, ∀ b ∈ s.bounds, b.isFinite = true) :
    Document.read (relisted d.written) = .ok (d.mapBounds Number.reread) ∧
      ∀ s ∈ d.nodes, ∀ b ∈ s.bounds, b.reread.Same b := by
  constructor
  · exact Document.read_relisted (Document.ensures_read v hnormal d hread)
  · exact fun s hs b hb => Number.reread_same (hfinite s hs b hb)

/-- A property with members that say little, and which is named like one of them. -/
def scantProperty : Schema where
  type := ["string", "null"]
  minimum := some (.float (Binary64.zero true))
  minLength := some 0
  defaultValue := .bool false

def scantPropertyValue : Value :=
  .object [("type", .list [.str "string", .str "null"]), ("minimum", .float (Binary64.zero true)),
    ("minLength", .int 0), ("default", .bool false)]

def scantSchema : Schema where
  type := ["object"]
  properties := [("type", scantProperty)]
  exampleValue := .object [("type", .str "bare")]

def scantSchemaValue : Value :=
  .object [("type", .list [.str "object"]), ("properties", .object [("type", scantPropertyValue)]),
    ("example", .object [("type", .str "bare")])]

/-- A document whose contact and path have nothing in them. -/
def scantDocument : Document where
  openapi := "3.1.0"
  info := { title := "T", contact := some {}, version := "1" }
  paths := [("/a", {})]
  components := { schemas := [("S", scantSchema)] }

def scantValue : Value :=
  .object [("openapi", .str "3.1.0"),
    ("info", .object [("title", .str "T"), ("contact", .object []), ("version", .str "1")]),
    ("paths", .object [("/a", .object [])]),
    ("components", .object [("schemas", .object [("S", scantSchemaValue)])])]

theorem read_scantPropertyValue : Schema.read scantPropertyValue = .ok scantProperty := by
  rw [scantPropertyValue, Schema.read_object]
  rfl

theorem read_scantSchemaValue : Schema.read scantSchemaValue = .ok scantSchema := by
  rw [scantSchemaValue, Schema.read_object]
  iterate 13 refine seq_of_ok ?_ rfl
  refine seq_of_ok rfl (member_table_self (w := fun _ => scantPropertyValue) rfl ?_)
  exact List.forall_mem_singleton.mpr read_scantPropertyValue

theorem read_scantValue : Document.read scantValue = .ok scantDocument := by
  have hcomponents : Components.read (.object [("schemas", .object [("S", scantSchemaValue)])]) =
      .ok { schemas := [("S", scantSchema)] } := by
    refine seq_of_ok (map_of_ok _ (member_table_self (w := fun _ => scantSchemaValue) rfl ?_)) rfl
    exact List.forall_mem_singleton.mpr read_scantSchemaValue
  iterate 2 refine seq_of_ok ?_ rfl
  exact seq_of_ok rfl (member_eq_ok_iff.mpr hcomponents)

theorem written_document_reread_at_scant_members :
    Document.read scantValue = .ok scantDocument ∧
      Document.read (relisted scantDocument.written) =
        .ok (scantDocument.mapBounds Number.reread) := by
  have hnormal : scantValue.Normal := by
    intro x hx
    have hzero : x = Binary64.zero true := by
      simpa [scantValue, scantSchemaValue, scantPropertyValue, Value.doubles, doublesOf,
        doublesIn] using hx
    rw [hzero]
    exact Binary64.zero_normal true
  have hfinite : ∀ s ∈ scantDocument.nodes, ∀ b ∈ s.bounds, b.isFinite = true := by
    decide
  exact ⟨read_scantValue, (written_document_reread hnormal read_scantValue hfinite).1⟩

end ApiDirectives
