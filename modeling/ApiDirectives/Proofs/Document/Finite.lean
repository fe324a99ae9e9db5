import ApiDirectives.Proofs.Document.SchemaRoundTrip

/-!
# Finite numbers in a document

Numbers stand in two kinds of places: a schema node has bounds, and it has a default, an example and an
enumeration, which are values with lists in them at any depth; a body in one format may have an example
of its own. An integer is finite as it is, so what is to be said is about the doubles. What is written
of a document holds no other numbers than these: if they are finite, so are all in its written form.
-/

namespace ApiDirectives

/-! ## Values -/

/-- All numbers in a value, at any depth, are finite. -/
def Value.Finite (v : Value) : Prop :=
  ∀ x ∈ v.doubles, x.isFinite = true

namespace Value

@[simp]
theorem finite_list (vs : List Value) : (list vs).Finite ↔ ∀ v ∈ vs, v.Finite := by
  simp only [Finite, doubles, mem_doublesIn_iff, forall_exists_index, and_imp]
  exact ⟨fun h v hv x hx => h x v hv hx, fun h x v hv hx => h v hv x hx⟩

theorem finite_object (ms : List (String × Value)) : (object ms).Finite ↔ ∀ m ∈ ms, m.2.Finite := by
  simp only [Finite, doubles, mem_doublesOf_iff, forall_exists_index, and_imp]
  exact ⟨fun h m hm x hx => h x m hm hx, fun h x m hm hx => h m hm x hx⟩

@[simp]
theorem finite_float (x : Binary64) : (float x).Finite ↔ x.isFinite = true := by
  simp [Finite, doubles]

@[simp]
theorem finite_null : null.Finite := by simp [Finite, doubles]

@[simp]
theorem finite_bool (b : Bool) : (bool b).Finite := by simp [Finite, doubles]

@[simp]
theorem finite_int (n : Int) : (int n).Finite := by simp [Finite, doubles]

@[simp]
theorem finite_str (s : String) : (str s).Finite := by simp [Finite, doubles]

end Value

/-! ## Members -/

/-- All numbers in the values of some members are finite. -/
def FiniteMembers (ms : List (String × Value)) : Prop :=
  ∀ m ∈ ms, m.2.Finite

@[simp]
theorem Value.finite_object_iff {ms : List (String × Value)} :
    (object ms).Finite ↔ FiniteMembers ms :=
  finite_object ms

namespace FiniteMembers

variable (name : String)

@[simp]
theorem append_iff {ms ns : List (String × Value)} :
    FiniteMembers (ms ++ ns) ↔ FiniteMembers ms ∧ FiniteMembers ns :=
  List.forall_mem_append

@[simp]
theorem always_iff {v : Value} : FiniteMembers (always name v) ↔ v.Finite := by
  simp [FiniteMembers, always]

@[simp]
theorem of_textMember (s : String) : FiniteMembers (textMember name s) := by
  unfold textMember
  split <;> simp [FiniteMembers]

@[simp]
theorem of_flagMember (b : Bool) : FiniteMembers (flagMember name b) := by
  unfold flagMember
  split <;> simp [FiniteMembers]

@[simp]
theorem of_typeMember (ts : List String) : FiniteMembers (typeMember ts) := by
  unfold typeMember
  split <;> simp [FiniteMembers, texts]

@[simp]
theorem listMember_iff {vs : List Value} :
    FiniteMembers (listMember name vs) ↔ ∀ v ∈ vs, v.Finite := by
  cases vs <;> simp [FiniteMembers, listMember]

@[simp]
theorem tableMember_iff {ms : List (String × Value)} :
    FiniteMembers (tableMember name ms) ↔ FiniteMembers ms := by
  cases ms <;> simp [FiniteMembers, tableMember]

@[simp]
theorem optionMember_iff {o : Option Value} :
    FiniteMembers (optionMember name o) ↔ ∀ v ∈ o, v.Finite := by
  cases o <;> simp [FiniteMembers, optionMember]

@[simp]
theorem valueMember_iff {v : Value} : FiniteMembers (valueMember name v) ↔ v.Finite := by
  cases v <;> simp [FiniteMembers, valueMember]

theorem writtenTable_iff {α : Type} {write : α → Value} {t : Table String α} :
    FiniteMembers (writtenTable write t) ↔ ∀ entry ∈ t, (write entry.2).Finite := by
  unfold FiniteMembers writtenTable
  exact List.forall_mem_map

end FiniteMembers

/-! ## Schemas -/

theorem Number.finite_written {b : Number} (h : b.isFinite = true) : b.written.Finite := by
  cases b with
  | int n => exact Value.finite_int n
  | float x =>
    unfold Number.written
    dsimp only
    split
    · exact Value.finite_int _
    · exact (Value.finite_float x).mpr h

/-- The numbers that a schema node itself holds are finite: those in its default, its example and its
enumeration, at any depth, and its bounds. -/
structure Schema.Finite (s : Schema) : Prop where
  default : s.defaultValue.Finite
  sample : s.exampleValue.Finite
  enum : ∀ v ∈ s.enum, v.Finite
  bounds : ∀ b ∈ s.bounds, b.isFinite = true

/-- The written form of a schema has finite numbers if all its nodes do. -/
theorem Schema.finite_written {s : Schema} (h : s.Everywhere Schema.Finite) : s.written.Finite := by
  induction s using children_induction with
  | step s ih =>
    obtain ⟨hown, hbelow⟩ := everywhere_iff.mp h
    have hchildren : ∀ t ∈ s.children, t.written.Finite := fun t ht => ih t ht (hbelow t ht)
    have hbounds : ∀ b, s.minimum = some b ∨ s.maximum = some b → b.written.Finite := by
      intro b hb
      exact Number.finite_written (hown.bounds b (by simpa [Schema.bounds] using hb))
    simp only [children, List.forall_mem_append, List.forall_mem_map, Option.mem_toList] at hchildren
    obtain ⟨hproperties, hitems, hallOf, honeOf, hanyOf⟩ := hchildren
    have htable : FiniteMembers (writtenTable Schema.written s.properties) :=
      FiniteMembers.writtenTable_iff.mpr hproperties
    have hmembers : FiniteMembers s.members := by
      unfold Schema.members
      simp +contextual [writtenItems_eq, writtenProperties_eq, writtenSchemas_eq, texts, htable, hitems,
        hallOf, honeOf, hanyOf, hbounds, hown.default, hown.sample, hown.enum]
    rw [written_eq]
    exact (Value.finite_object _).mpr hmembers

/-! ## Records without schemas -/

section Records

theorem Contact.finite_written (c : Contact) : c.written.Finite := by
  simp [written]

theorem License.finite_written (l : License) : l.written.Finite := by
  simp [written]

theorem Info.finite_written (i : Info) : i.written.Finite := by
  simp [written, Contact.finite_written, License.finite_written]

theorem Server.finite_written (s : Server) : s.written.Finite := by
  simp [written]

theorem ExternalDocs.finite_written (e : ExternalDocs) : e.written.Finite := by
  simp [written]

theorem Tag.finite_written (t : Tag) : t.written.Finite := by
  simp [written]

theorem finite_writtenRequirement (r : Requirement) : (writtenRequirement r).Finite := by
  simp [writtenRequirement, FiniteMembers.writtenTable_iff, texts]

theorem OAuthFlow.finite_written (f : OAuthFlow) : f.written.Finite := by
  simp [written, FiniteMembers.writtenTable_iff]

theorem OAuthFlows.finite_written (f : OAuthFlows) : f.written.Finite := by
  simp [written, OAuthFlow.finite_written]

theorem SecurityScheme.finite_written (s : SecurityScheme) : s.written.Finite := by
  simp [written, OAuthFlows.finite_written]

end Records

/-! ## Bodies -/

/-- The bodies in the content of a request or a response, one for each format. -/
def Operation.contents (o : Operation) : List MediaType :=
  o.requestBody.toList.flatMap (·.content.values) ++ o.responses.values.flatMap (·.content.values)

/-- The bodies of the operations of path items. -/
def pathContents (paths : Table String PathItem) : List MediaType :=
  paths.values.flatMap fun item => item.operations.flatMap fun (_, o) => o.contents

/-- The bodies of a document, of operations as well as of webhooks. -/
def Document.contents (d : Document) : List MediaType :=
  pathContents d.paths ++ pathContents d.webhooks

theorem MediaType.finite_written {m : MediaType} (hschema : ∀ s ∈ m.schema, s.written.Finite)
    (hsample : m.exampleValue.Finite) : m.written.Finite := by
  simpa [written, hsample] using hschema

theorem finite_content {content : Table String MediaType}
    (hschemas : ∀ s ∈ contentSchemas content, s.written.Finite)
    (hcontents : ∀ m ∈ content.values, m.exampleValue.Finite) :
    FiniteMembers (writtenTable MediaType.written content) := by
  refine (FiniteMembers.writtenTable_iff).mpr fun entry hentry => ?_
  have hmem : entry.2 ∈ content.values := List.mem_map_of_mem hentry
  refine MediaType.finite_written (fun s hs => hschemas s ?_) (hcontents _ hmem)
  exact List.mem_flatMap.mpr ⟨entry.2, hmem, Option.mem_toList.mpr hs⟩

theorem Operation.finite_written {o : Operation} (hschemas : ∀ s ∈ o.schemas, s.written.Finite)
    (hcontents : ∀ m ∈ o.contents, m.exampleValue.Finite) : o.written.Finite := by
  unfold schemas at hschemas
  unfold contents at hcontents
  simp only [List.forall_mem_append, List.forall_mem_flatMap, Option.mem_toList, Table.values,
    List.forall_mem_map] at hschemas hcontents
  obtain ⟨hparameters, hbody, hreplies⟩ := hschemas
  obtain ⟨hbodySamples, hreplySamples⟩ := hcontents
  have hparameter : ∀ p ∈ o.parameters, p.written.Finite := by
    intro p hp
    simpa [Parameter.written] using hparameters p hp
  have hrequest : ∀ b ∈ o.requestBody, b.written.Finite := by
    intro b hb
    have hcontent := finite_content (hbody b hb) (List.forall_mem_map.mpr (hbodySamples b hb))
    simpa [RequestBody.written] using hcontent
  have hresponses : FiniteMembers (writtenTable Response.written o.responses) := by
    refine FiniteMembers.writtenTable_iff.mpr fun entry hentry => ?_
    have hcontent := finite_content (hreplies entry hentry)
      (List.forall_mem_map.mpr (hreplySamples entry hentry))
    simpa [Response.written] using hcontent
  have hsecurity : ∀ r ∈ o.security, (writtenRequirement r).Finite :=
    fun r _ => finite_writtenRequirement r
  simp +contextual [written, texts, hparameter, hrequest, hresponses, hsecurity]

theorem finite_writtenPaths {paths : Table String PathItem}
    (hschemas : ∀ s ∈ pathSchemas paths, s.written.Finite)
    (hcontents : ∀ m ∈ pathContents paths, m.exampleValue.Finite) :
    FiniteMembers (writtenTable PathItem.written paths) := by
  unfold pathSchemas at hschemas
  unfold pathContents at hcontents
  simp only [List.forall_mem_flatMap, Table.values, List.forall_mem_map] at hschemas hcontents
  refine (FiniteMembers.writtenTable_iff).mpr fun entry hentry => ?_
  refine (Value.finite_object _).mpr (List.forall_mem_map.mpr fun operation hoperation => ?_)
  exact Operation.finite_written (hschemas entry hentry operation hoperation)
    (hcontents entry hentry operation hoperation)

/-- The written form of a document has finite numbers if those of its schemas and the examples of its
bodies are. -/
theorem Document.finite_written {d : Document} (hnodes : ∀ s ∈ d.nodes, s.Finite)
    (hcontents : ∀ m ∈ d.contents, m.exampleValue.Finite) : d.written.Finite := by
  have hschemas : ∀ s ∈ d.schemas, s.written.Finite := by
    intro s hs
    exact Schema.finite_written fun t ht => hnodes t (List.mem_flatMap.mpr ⟨s, hs, ht⟩)
  unfold schemas at hschemas
  unfold contents at hcontents
  rw [List.forall_mem_append] at hschemas hcontents
  obtain ⟨hpaths, hrest⟩ := hschemas
  obtain ⟨hwebhooks, hmodels⟩ := List.forall_mem_append.mp hrest
  have hcomponents : FiniteMembers d.components.members := by
    unfold Components.members
    simp only [FiniteMembers.append_iff, FiniteMembers.tableMember_iff, FiniteMembers.writtenTable_iff]
    refine ⟨fun entry hentry => ?_, fun entry _ => entry.2.finite_written⟩
    exact hmodels entry.2 (List.mem_map_of_mem hentry)
  have hpathItems := finite_writtenPaths hpaths hcontents.1
  have hwebhookItems := finite_writtenPaths hwebhooks hcontents.2
  simp [written, hcomponents, hpathItems, hwebhookItems, Info.finite_written, Server.finite_written,
    Tag.finite_written, ExternalDocs.finite_written]

end ApiDirectives
