import ApiDirectives.Proofs.Document.Bounds

/-!
# Reading a written schema

A written schema can be read again, with two differences to note. A node with one type writes it bare,
while a reader wants a list, so the type has to be put back into one first: at every node, and only
there, as free values may well have a member with the same name. And a bound that is integral is
written as an integer. It is read as the double it was, but for the sign of a zero, which is lost.
-/

namespace ApiDirectives

open Checked

/-! ## Types in lists -/

mutual

/-- The value of a schema node with its type in a list, and so the nodes below it. -/
def relistNode : Value → Value
  | .object ms => .object (relistMembers ms)
  | v => v

/-- The members of a schema node. -/
def relistMembers : List (String × Value) → List (String × Value)
  | [] => []
  | (k, v) :: r => (k, relistMember k v) :: relistMembers r

/-- One member of a schema node: a bare type is put in a list, and the members that hold nodes are
followed. All others, free values among them, stay. -/
def relistMember (k : String) : Value → Value
  | .str t => if k = "type" then .list [.str t] else .str t
  | .object ms =>
    if k = "items" then .object (relistMembers ms)
    else if k = "properties" then .object (relistProperties ms)
    else .object ms
  | .list vs =>
    if k = "allOf" || k = "oneOf" || k = "anyOf" then .list (relistNodes vs) else .list vs
  | v => v

/-- Schema nodes by name. -/
def relistProperties : List (String × Value) → List (String × Value)
  | [] => []
  | (k, v) :: r => (k, relistNode v) :: relistProperties r

/-- Schema nodes in a list. -/
def relistNodes : List Value → List Value
  | [] => []
  | v :: r => relistNode v :: relistNodes r

end

theorem relistNode_object (ms : List (String × Value)) :
    relistNode (.object ms) = .object (relistMembers ms) := rfl

theorem relistMember_str (k t : String) :
    relistMember k (.str t) = if k = "type" then .list [.str t] else .str t := rfl

theorem relistMember_object (k : String) (ms : List (String × Value)) :
    relistMember k (.object ms) =
      if k = "items" then .object (relistMembers ms)
      else if k = "properties" then .object (relistProperties ms)
      else .object ms := rfl

theorem relistMember_list (k : String) (vs : List Value) :
    relistMember k (.list vs) =
      if k = "allOf" || k = "oneOf" || k = "anyOf" then .list (relistNodes vs) else .list vs := rfl

/-! ## Bounds as they are read again -/

/-- A bound as it is read again: a zero has no sign. -/
def Number.reread : Number → Number
  | .int n => .int n
  | .float x => .float x.unsigned

/-- Two bounds are the same number. -/
def Number.Same : Number → Number → Prop
  | .int m, .int n => m = n
  | .float x, .float y => x.sameNumber y = true
  | _, _ => False

/-- Whether a bound is finite. -/
def Number.isFinite : Number → Bool
  | .int _ => true
  | .float x => x.isFinite

theorem Number.reread_same {b : Number} (h : b.isFinite = true) : b.reread.Same b := by
  cases b with
  | int n => rfl
  | float x => exact Binary64.unsigned_sameNumber h

/-- A double is written as an integer if it is one, and read as the same number in both cases. -/
theorem Number.bound_written {b : Number} (h : b.IsNormalDouble) :
    b.written.bound = .ok b.reread := by
  cases b with
  | int n => cases h
  | float x =>
    unfold Number.written Number.reread
    dsimp only
    cases hint : x.toInt? with
    | none =>
      rw [Binary64.unsigned_of_toInt?_eq_none hint]
      rfl
    | some n =>
      rw [← Binary64.ofInt_of_toInt? h hint]
      rfl

theorem Number.isNull_written (b : Number) : b.written.isNull = false := by
  cases b with
  | int n => rfl
  | float x =>
    simp only [Number.written]
    cases x.toInt? <;> rfl

/-! ## Schemas -/

namespace Schema

theorem sizeOf_lt_of_mem_children {s t : Schema} (h : t ∈ s.children) : sizeOf t < sizeOf s := by
  cases s with
  | mk ref type format description nullable properties required items allOf oneOf anyOf enum
      minimum maximum minLength maxLength pattern defaultValue exampleValue =>
    simp only [children, List.mem_append, List.mem_map, Option.mem_toList, Prod.exists,
      exists_eq_right] at h
    simp only [Schema.mk.sizeOf_spec]
    rcases h with ⟨name, h⟩ | h | h | h | h
    · have hlt := List.sizeOf_lt_of_mem h
      simp only [Prod.mk.sizeOf_spec] at hlt
      omega
    · cases h
      simp only [Option.some.sizeOf_spec]
      omega
    · have hlt := List.sizeOf_lt_of_mem h
      omega
    · have hlt := List.sizeOf_lt_of_mem h
      omega
    · have hlt := List.sizeOf_lt_of_mem h
      omega

/-- What holds of a node if it holds of the nodes directly below holds of every schema. -/
theorem children_induction {P : Schema → Prop} (step : ∀ s, (∀ t ∈ s.children, P t) → P s)
    (s : Schema) : P s :=
  step s fun t ht =>
    have := sizeOf_lt_of_mem_children ht
    children_induction step t
termination_by sizeOf s

mutual

/-- A schema with the bounds of all its nodes changed. -/
def mapBounds (f : Number → Number) : Schema → Schema
  | ⟨ref, type, format, description, nullable, properties, required, items, allOf, oneOf, anyOf,
      enum, minimum, maximum, minLength, maxLength, pattern, defaultValue, exampleValue⟩ =>
    { ref, type, format, description, nullable
      properties := mapPropertyBounds f properties
      required
      items := mapItemBounds f items
      allOf := mapListedBounds f allOf
      oneOf := mapListedBounds f oneOf
      anyOf := mapListedBounds f anyOf
      enum
      minimum := minimum.map f
      maximum := maximum.map f
      minLength, maxLength, pattern, defaultValue, exampleValue }

def mapItemBounds (f : Number → Number) : Option Schema → Option Schema
  | none => none
  | some s => some (mapBounds f s)

def mapListedBounds (f : Number → Number) : List Schema → List Schema
  | [] => []
  | s :: r => mapBounds f s :: mapListedBounds f r

def mapPropertyBounds (f : Number → Number) : List (String × Schema) → List (String × Schema)
  | [] => []
  | (k, s) :: r => (k, mapBounds f s) :: mapPropertyBounds f r

end

variable (f : Number → Number)

theorem mapItemBounds_eq (items : Option Schema) :
    mapItemBounds f items = items.map (mapBounds f) := by
  cases items <;> rfl

theorem mapListedBounds_eq (ss : List Schema) : mapListedBounds f ss = ss.map (mapBounds f) := by
  induction ss with
  | nil => rfl
  | cons s r ih => exact congrArg (List.cons (mapBounds f s)) ih

theorem mapPropertyBounds_eq (properties : Table String Schema) :
    mapPropertyBounds f properties = properties.mapValues (mapBounds f) := by
  induction properties with
  | nil => rfl
  | cons entry r ih => exact congrArg (List.cons (entry.1, mapBounds f entry.2)) ih

theorem mapBounds_eq (s : Schema) :
    s.mapBounds f =
      { s with
        properties := Table.mapValues (mapBounds f) s.properties
        items := s.items.map (mapBounds f)
        allOf := s.allOf.map (mapBounds f)
        oneOf := s.oneOf.map (mapBounds f)
        anyOf := s.anyOf.map (mapBounds f)
        minimum := s.minimum.map f
        maximum := s.maximum.map f } := by
  cases s
  simp only [← mapItemBounds_eq, ← mapListedBounds_eq, ← mapPropertyBounds_eq]
  rfl

/-- The members of a written node. -/
def members (s : Schema) : List (String × Value) :=
  textMember "$ref" s.ref ++ typeMember s.type ++ textMember "format" s.format
    ++ textMember "description" s.description ++ flagMember "nullable" s.nullable
    ++ tableMember "properties" (writtenProperties s.properties)
    ++ listMember "required" (texts s.required) ++ writtenItems s.items
    ++ listMember "allOf" (writtenSchemas s.allOf) ++ listMember "oneOf" (writtenSchemas s.oneOf)
    ++ listMember "anyOf" (writtenSchemas s.anyOf) ++ listMember "enum" s.enum
    ++ optionMember "minimum" (s.minimum.map Number.written)
    ++ optionMember "maximum" (s.maximum.map Number.written)
    ++ optionMember "minLength" (s.minLength.map .int)
    ++ optionMember "maxLength" (s.maxLength.map .int)
    ++ textMember "pattern" s.pattern ++ valueMember "default" s.defaultValue
    ++ valueMember "example" s.exampleValue

theorem written_eq (s : Schema) : s.written = .object s.members := by
  cases s
  rfl

theorem writtenProperties_eq (properties : List (String × Schema)) :
    writtenProperties properties = writtenTable written properties := by
  induction properties with
  | nil => rfl
  | cons entry r ih => exact congrArg (List.cons (entry.1, entry.2.written)) ih

theorem writtenSchemas_eq (ss : List Schema) : writtenSchemas ss = ss.map written := by
  induction ss with
  | nil => rfl
  | cons s r ih => exact congrArg (List.cons s.written) ih

theorem writtenItems_eq (items : Option Schema) :
    writtenItems items = optionMember "items" (items.map written) := by
  cases items <;> rfl

/-- The types of a node as they are written. -/
def typeValue : List String → Value
  | [t] => .str t
  | ts => .list (texts ts)

@[simp]
theorem get?_typeMember (ts : List String) (k : String) :
    Table.get? (typeMember ts) k =
      if "type" = k then unlessLeftOut ts.isEmpty (typeValue ts) else none := by
  match ts with
  | [] => simp [typeMember, unlessLeftOut]
  | [t] => simp [typeMember, unlessLeftOut, typeValue, Table.get?_cons]
  | t :: u :: r => simp [typeMember, unlessLeftOut, typeValue, Table.get?_cons]

/-- However many types there are, they are in a list again. -/
theorem relistMember_typeValue (ts : List String) :
    relistMember "type" (typeValue ts) = .list (texts ts) := by
  match ts with
  | [] => simp [typeValue, relistMember_list]
  | [t] => simp [typeValue, relistMember_str, texts]
  | t :: u :: r => simp [typeValue, relistMember_list]

end Schema

theorem relistProperties_eq (ms : List (String × Value)) :
    relistProperties ms = ms.map fun m => (m.1, relistNode m.2) := by
  induction ms with
  | nil => rfl
  | cons m r ih => exact congrArg (List.cons (m.1, relistNode m.2)) ih

theorem relistNodes_eq (vs : List Value) : relistNodes vs = vs.map relistNode := by
  induction vs with
  | nil => rfl
  | cons v r ih => exact congrArg (List.cons (relistNode v)) ih

theorem get?_relistMembers (ms : List (String × Value)) (k : String) :
    Table.get? (relistMembers ms) k = (Table.get? ms k).map (relistMember k) := by
  induction ms with
  | nil => rfl
  | cons m r ih =>
    obtain ⟨j, v⟩ := m
    change Table.get? ((j, relistMember j v) :: relistMembers r) k = _
    rw [Table.get?_cons, Table.get?_cons, ih]
    by_cases hj : j = k
    · simp [hj]
    · simp [hj]

/-- A member that holds neither types nor nodes stays. -/
theorem relistMember_other {k : String}
    (hk : k ∉ ["type", "properties", "items", "allOf", "oneOf", "anyOf"]) (v : Value) :
    relistMember k v = v := by
  simp only [List.mem_cons, List.not_mem_nil, or_false, not_or] at hk
  obtain ⟨htype, hproperties, hitems, hallOf, honeOf, hanyOf⟩ := hk
  cases v with
  | str t => rw [relistMember_str, if_neg htype]
  | object ms => rw [relistMember_object, if_neg hitems, if_neg hproperties]
  | list vs => simp [relistMember_list, hallOf, honeOf, hanyOf]
  | _ => rfl

namespace Schema

theorem relistMember_properties (properties : List (String × Schema)) :
    relistMember "properties" (.object (writtenTable written properties)) =
      .object (writtenTable (fun s => relistNode s.written) properties) := by
  simp [relistMember_object, relistProperties_eq, writtenTable]

theorem relistMember_items (s : Schema) : relistMember "items" s.written = relistNode s.written := by
  rw [written_eq, relistMember_object, if_pos rfl, relistNode_object]

theorem relistMember_schemas {k : String} (hk : k = "allOf" ∨ k = "oneOf" ∨ k = "anyOf")
    (ss : List Schema) :
    relistMember k (.list (ss.map written)) = .list (ss.map fun s => relistNode s.written) := by
  simp [relistMember_list, hk, relistNodes_eq, or_assoc]

theorem isNull_relistNode (s : Schema) : (relistNode s.written).isNull = false := by
  rw [written_eq]
  rfl

/-- A written schema is read back, its types in lists, with its bounds as they are read again. -/
theorem read_relistNode {s : Schema} (hs : s.Everywhere Bounded) :
    Schema.read (relistNode s.written) = .ok (s.mapBounds Number.reread) := by
  induction s using children_induction with
  | step s ih =>
    obtain ⟨hbounds, hchildren⟩ := everywhere_iff.mp hs
    have hbelow : ∀ t ∈ s.children,
        Schema.read (relistNode t.written) = .ok (t.mapBounds Number.reread) :=
      fun t ht => ih t ht (hchildren t ht)
    have hproperties : ∀ entry ∈ s.properties, entry.2 ∈ s.children := by
      intro entry hentry
      exact List.mem_append_left _ (List.mem_map_of_mem hentry)
    have hitem : ∀ t ∈ s.items, (relistNode t.written).isNull = false ∧
        Schema.read (relistNode t.written) = .ok (t.mapBounds Number.reread) := by
      intro t ht
      exact ⟨isNull_relistNode t, hbelow t (by simp [children, Option.mem_def.mp ht])⟩
    have hbound : ∀ b, b ∈ s.minimum ∨ b ∈ s.maximum →
        b.written.isNull = false ∧ b.written.bound = .ok b.reread := by
      intro b hb
      have hmem : b ∈ s.bounds := by
        simpa [bounds] using hb
      exact ⟨b.isNull_written, Number.bound_written (hbounds b hmem)⟩
    rw [written_eq, relistNode_object, read_object, mapBounds_eq]
    -- The members from the last to the first, each by its kind; what is left to see is that the
    -- reader finds it among the written ones.
    refine seq_of_ok ?_ (member_free ?exampleValue)
    refine seq_of_ok ?_ (member_free ?defaultValue)
    refine seq_of_ok ?_ (member_text ?pattern)
    refine seq_of_ok ?_ (member_option_self (w := .int) ?maxLength fun _ _ => ⟨rfl, rfl⟩)
    refine seq_of_ok ?_ (member_option_self (w := .int) ?minLength fun _ _ => ⟨rfl, rfl⟩)
    refine seq_of_ok ?_ (member_option ?maximum fun b hb => hbound b (.inr hb))
    refine seq_of_ok ?_ (member_option ?minimum fun b hb => hbound b (.inl hb))
    refine seq_of_ok ?_ (member_list_self (w := id) ?enum fun _ _ => rfl)
    refine seq_of_ok ?_ (member_list ?anyOf fun t ht => hbelow t (by simp [children, ht]))
    refine seq_of_ok ?_ (member_list ?oneOf fun t ht => hbelow t (by simp [children, ht]))
    refine seq_of_ok ?_ (member_list ?allOf fun t ht => hbelow t (by simp [children, ht]))
    refine seq_of_ok ?_ (member_option ?items hitem)
    refine seq_of_ok ?_ (member_texts ?required)
    refine seq_of_ok ?_ (member_table (w := fun t => relistNode t.written) ?properties
      fun entry hentry => hbelow entry.2 (hproperties entry hentry))
    refine seq_of_ok ?_ (member_flag ?nullable)
    refine seq_of_ok ?_ (member_text ?description)
    refine seq_of_ok ?_ (member_text ?format)
    refine seq_of_ok ?_ (member_texts ?type)
    refine map_of_ok _ (member_text ?ref)
    all_goals
      simp only [held_one, held_two, get?_relistMembers]
      unfold members
      simp [Table.get?_append, writtenItems_eq, writtenProperties_eq, writtenSchemas_eq,
        relistMember_typeValue, relistMember_properties, relistMember_items, relistMember_schemas,
        relistMember_other, Function.comp_def]

end Schema

end ApiDirectives
