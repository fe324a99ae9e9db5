import ApiDirectives.Document.Reading
import ApiDirectives.Proofs.Document.Members
import ApiDirectives.Proofs.Document.Nodes
import ApiDirectives.Proofs.Numeral.Binary64

/-!
# Bounds of a document that was read

Bounds are read from numbers, from truth values and from text, and in every case they become doubles in
normal form. A document has them at any depth, below tables and lists of several kinds of nodes. What a
reader passes on to the readers below it are members and elements of its value, so a property that
values hand down to these (`Hereditary`) holds wherever a bound is read.
-/

namespace ApiDirectives

open Checked

/-! ## Reading nodes of a schema -/

theorem Schema.readOptional_eq : Schema.readOptional = Value.optional Schema.read := by
  funext v
  cases v <;> simp [Schema.readOptional, Value.optional]

theorem Schema.readProperties_eq (ps : List (String × Value)) :
    Schema.readProperties ps = Checked.members Schema.read ps := by
  induction ps with
  | nil => rw [Schema.readProperties]; rfl
  | cons p ps ih =>
    rw [Schema.readProperties, ih]
    rfl

theorem Schema.readTable_eq : Schema.readTable = Value.table Schema.read := by
  funext v
  cases v with
  | object ps =>
    rw [Schema.readTable]
    exact Schema.readProperties_eq ps
  | _ => rw [Schema.readTable] <;> simp [Value.table]

theorem Schema.readList_eq (n : Nat) (vs : List Value) :
    Schema.readList n vs = Checked.eachFrom n Schema.read vs := by
  induction vs generalizing n with
  | nil => rw [Schema.readList]; rfl
  | cons v vs ih =>
    rw [Schema.readList, ih]
    rfl

theorem Schema.readElements_eq : Schema.readElements = Value.elements Schema.read := by
  funext v
  cases v with
  | list vs =>
    rw [Schema.readElements]
    exact Schema.readList_eq 0 vs
  | _ => rw [Schema.readElements] <;> simp [Value.elements]

/-- A node is read member by member, with the readers for optional values, tables and lists. -/
theorem Schema.read_object (ms : List (String × Value)) :
    Schema.read (.object ms) = Schema.mk
      <$> member ["$ref", "ref"] "" Value.text ms
      <*> member ["type"] [] Value.textList ms
      <*> member ["format"] "" Value.text ms
      <*> member ["description"] "" Value.text ms
      <*> member ["nullable"] false Value.truth ms
      <*> member ["properties"] [] (Value.table Schema.read) ms
      <*> member ["required"] [] Value.textList ms
      <*> member ["items"] none (Value.optional Schema.read) ms
      <*> member ["allOf", "all_of"] [] (Value.elements Schema.read) ms
      <*> member ["oneOf", "one_of"] [] (Value.elements Schema.read) ms
      <*> member ["anyOf", "any_of"] [] (Value.elements Schema.read) ms
      <*> member ["enum"] [] (Value.elements Value.free) ms
      <*> member ["minimum"] none (Value.optional Value.bound) ms
      <*> member ["maximum"] none (Value.optional Value.bound) ms
      <*> member ["minLength", "min_length"] none (Value.optional Value.whole) ms
      <*> member ["maxLength", "max_length"] none (Value.optional Value.whole) ms
      <*> member ["pattern"] "" Value.text ms
      <*> member ["default"] .null Value.free ms
      <*> member ["example"] .null Value.free ms := by
  conv_lhs => unfold Schema.read
  rw [Schema.readTable_eq, Schema.readElements_eq, Schema.readOptional_eq]
  rfl

/-! ## Properties that values hand down -/

/-- What holds of a value holds of its members and its elements. -/
structure Hereditary (Q : Value → Prop) : Prop where
  member : ∀ {ms : List (String × Value)}, Q (.object ms) → ∀ m ∈ ms, Q m.2
  element : ∀ {vs : List Value}, Q (.list vs) → ∀ v ∈ vs, Q v

/-- What a reader makes of a value with a property. -/
def Ensures {α : Type} (Q : Value → Prop) (read : Value → Checked α) (P : α → Prop) : Prop :=
  ∀ v, Q v → (read v).Yields P

section Ensures

variable {α : Type} {Q : Value → Prop} {read : Value → Checked α} {P : α → Prop}

theorem ensures_elements (hQ : Hereditary Q) (h : Ensures Q read P) :
    Ensures Q (Value.elements read) fun as => ∀ a ∈ as, P a := by
  intro v hv as has
  cases v with
  | list vs =>
    intro a ha
    obtain ⟨w, hw, hread⟩ := mem_of_eachFrom has a ha
    exact h w (hQ.element hv w hw) a hread
  | _ => cases has

theorem ensures_table (hQ : Hereditary Q) (h : Ensures Q read P) :
    Ensures Q (Value.table read) fun t => ∀ entry ∈ t, P entry.2 := by
  intro v hv t ht
  cases v with
  | object ms =>
    intro entry hentry
    obtain ⟨w, hw, hread⟩ := mem_of_members ht entry hentry
    exact h w (hQ.member hv _ hw) entry.2 hread
  | _ => cases ht

theorem ensures_optional (h : Ensures Q read P) :
    Ensures Q (Value.optional read) fun o => ∀ a ∈ o, P a := by
  intro v hv o ho a ha
  have hsome : ∀ {x : Checked α}, some <$> x = .ok o → x = .ok a := by
    intro x hx
    obtain ⟨b, hb, rfl⟩ := map_eq_ok hx
    cases ha
    exact hb
  cases v with
  | null =>
    cases ho
    cases ha
  | _ => exact h _ hv a (hsome ho)

/-- A member is read from a value that the property is handed down to, or it has its default. -/
theorem Ensures.member (h : Ensures Q read P) {ms : List (String × Value)}
    (hms : ∀ m ∈ ms, Q m.2) (names : List String) {absent : α} (habsent : P absent) :
    (member names absent read ms).Yields P := by
  intro a ha
  rcases of_member ha with rfl | ⟨k, v, hmem, hread⟩
  · exact habsent
  · exact h v (hms _ hmem) a hread

/-- A record is read from an object. -/
theorem ensures_asObject {read : List (String × Value) → Checked α} (hQ : Hereditary Q)
    (h : ∀ ms, (∀ m ∈ ms, Q m.2) → (read ms).Yields P) : Ensures Q (Value.asObject read) P := by
  intro v hv a ha
  cases v with
  | object ms => exact h ms (fun m hm => hQ.member hv m hm) a ha
  | _ => cases ha

end Ensures

/-! ## Values in normal form -/

mutual

/-- The doubles in a value, at any depth. -/
def Value.doubles : Value → List Binary64
  | .float x => [x]
  | .list vs => doublesIn vs
  | .object ms => doublesOf ms
  | .null | .bool _ | .int _ | .str _ => []

/-- The doubles in the elements of a list. -/
def doublesIn : List Value → List Binary64
  | [] => []
  | v :: r => v.doubles ++ doublesIn r

/-- The doubles in the members of an object. -/
def doublesOf : List (String × Value) → List Binary64
  | [] => []
  | (_, v) :: r => v.doubles ++ doublesOf r

end

/-- All doubles in a value are in normal form, as those of a data format are. -/
def Value.Normal (v : Value) : Prop :=
  ∀ x ∈ v.doubles, x.Normal

theorem mem_doublesIn_iff {vs : List Value} {x : Binary64} :
    x ∈ doublesIn vs ↔ ∃ v ∈ vs, x ∈ v.doubles := by
  induction vs with
  | nil => simp [doublesIn]
  | cons v vs ih => simp [doublesIn, ih]

theorem mem_doublesOf_iff {ms : List (String × Value)} {x : Binary64} :
    x ∈ doublesOf ms ↔ ∃ m ∈ ms, x ∈ m.2.doubles := by
  induction ms with
  | nil => simp [doublesOf]
  | cons m ms ih =>
    obtain ⟨k, v⟩ := m
    simp [doublesOf, ih]

theorem hereditary_normal : Hereditary Value.Normal where
  member hv m hm x hx := hv x (mem_doublesOf_iff.mpr ⟨m, hm, hx⟩)
  element hv v hmem x hx := hv x (mem_doublesIn_iff.mpr ⟨v, hmem, hx⟩)

/-- Normal values up to a size, for recursion on values. -/
def Value.NormalUpTo (n : Nat) (v : Value) : Prop :=
  v.Normal ∧ sizeOf v ≤ n

theorem hereditary_normalUpTo (n : Nat) : Hereditary (Value.NormalUpTo n) where
  member := by
    rintro ms ⟨hnormal, hsize⟩ ⟨k, v⟩ hm
    have hlt := List.sizeOf_lt_of_mem hm
    simp only [Value.object.sizeOf_spec, Prod.mk.sizeOf_spec] at hsize hlt
    exact ⟨hereditary_normal.member hnormal _ hm, by dsimp only; omega⟩
  element := by
    rintro vs ⟨hnormal, hsize⟩ v hv
    have hlt := List.sizeOf_lt_of_mem hv
    simp only [Value.list.sizeOf_spec] at hsize
    exact ⟨hereditary_normal.element hnormal v hv, by omega⟩

/-! ## Bounds -/

/-- The bounds of a node. -/
def Schema.bounds (s : Schema) : List Number :=
  s.minimum.toList ++ s.maximum.toList

/-- A double in normal form. -/
def Number.IsNormalDouble : Number → Prop
  | .float x => x.Normal
  | .int _ => False

/-- The bounds of a node are doubles in normal form. -/
def Schema.Bounded (s : Schema) : Prop :=
  ∀ b ∈ s.bounds, b.IsNormalDouble

theorem Value.number_normal {v : Value} (hv : v.Normal) {x : Binary64} (h : v.number = .ok x) :
    x.Normal := by
  cases v with
  | float y =>
    cases h
    exact hv x (by simp [Value.doubles])
  | int n =>
    cases h
    exact Binary64.ofInt_normal n
  | bool b =>
    cases h
    exact Binary64.ofInt_normal _
  | str s =>
    unfold Value.number at h
    dsimp only at h
    split at h
    · rename_i y hy
      cases h
      exact numberText_normal hy
    · cases h
  | _ => cases h

theorem ensures_bound : Ensures Value.Normal Value.bound Number.IsNormalDouble := by
  intro v hv b hb
  obtain ⟨x, hx, rfl⟩ := map_eq_ok hb
  exact Value.number_normal hv hx

/-- A node is bounded everywhere if it is, and if everything below it is. -/
theorem Schema.everywhere_bounded {s : Schema}
    (hproperties : ∀ entry ∈ s.properties, entry.2.Everywhere Bounded)
    (hitems : ∀ t ∈ s.items, t.Everywhere Bounded) (hallOf : ∀ t ∈ s.allOf, t.Everywhere Bounded)
    (honeOf : ∀ t ∈ s.oneOf, t.Everywhere Bounded) (hanyOf : ∀ t ∈ s.anyOf, t.Everywhere Bounded)
    (hminimum : ∀ b ∈ s.minimum, b.IsNormalDouble) (hmaximum : ∀ b ∈ s.maximum, b.IsNormalDouble) :
    s.Everywhere Bounded := by
  refine everywhere_iff.mpr ⟨?_, ?_⟩
  · intro b hb
    rcases List.mem_append.mp hb with hb | hb
    · exact hminimum b (Option.mem_toList.mp hb)
    · exact hmaximum b (Option.mem_toList.mp hb)
  · intro t ht
    unfold children at ht
    simp only [List.mem_append, List.mem_map, Option.mem_toList] at ht
    rcases ht with ⟨entry, hentry, rfl⟩ | ht | ht | ht | ht
    · exact hproperties entry hentry
    · exact hitems t ht
    · exact hallOf t ht
    · exact honeOf t ht
    · exact hanyOf t ht

/-- All nodes of a schema that is read have their bounds in normal form. -/
theorem Schema.ensures_read : Ensures Value.Normal Schema.read (Everywhere Bounded) := by
  -- By induction on a size that the value does not exceed, so that its members are smaller.
  have hsized : ∀ n, Ensures (Value.NormalUpTo n) Schema.read (Everywhere Bounded) := by
    intro n
    induction n with
    | zero =>
      rintro v ⟨_, hsize⟩
      cases v <;> simp at hsize
    | succ n ih =>
      rintro v ⟨hnormal, hsize⟩
      cases v with
      | object ms =>
        have hms : ∀ m ∈ ms, m.2.NormalUpTo n := by
          rintro ⟨k, w⟩ hm
          have hlt := List.sizeOf_lt_of_mem hm
          simp only [Value.object.sizeOf_spec, Prod.mk.sizeOf_spec] at hsize hlt
          exact ⟨hereditary_normal.member hnormal _ hm, by dsimp only; omega⟩
        have hbound : Ensures (Value.NormalUpTo n) Value.bound Number.IsNormalDouble :=
          fun v hv => ensures_bound v hv.1
        have hlist := ensures_elements (hereditary_normalUpTo n) ih
        have hbounds := ensures_optional hbound
        rw [Schema.read_object]
        -- The members from the last to the first; most say nothing about bounds.
        iterate 5 refine yields_skip ?_
        refine yields_seq (hbounds.member hms _ (by simp)) ?_
        refine yields_seq (hbounds.member hms _ (by simp)) ?_
        refine yields_skip ?_
        refine yields_seq (hlist.member hms _ (by simp)) ?_
        refine yields_seq (hlist.member hms _ (by simp)) ?_
        refine yields_seq (hlist.member hms _ (by simp)) ?_
        refine yields_seq ((ensures_optional ih).member hms _ (by simp)) ?_
        refine yields_skip ?_
        refine yields_seq ((ensures_table (hereditary_normalUpTo n) ih).member hms _ (by simp)) ?_
        iterate 4 refine yields_skip ?_
        refine yields_map (yields_any _) ?_
        intro _ _ _ _ _ _ properties hproperties _ items hitems allOf hallOf oneOf honeOf anyOf
          hanyOf _ minimum hminimum maximum hmaximum _ _ _ _ _
        exact everywhere_bounded hproperties hitems hallOf honeOf hanyOf hminimum hmaximum
      | _ =>
        intro s hs
        unfold Schema.read at hs
        cases hs
  exact fun v hv => hsized (sizeOf v) v ⟨hv, le_refl _⟩

/-! ## Documents -/

/-- All nodes of some schemas have their bounds in normal form. -/
def BoundedIn (ss : List Schema) : Prop :=
  ∀ s ∈ ss, s.Everywhere Schema.Bounded

theorem boundedIn_nil : BoundedIn [] := by
  simp [BoundedIn]

theorem boundedIn_append {ss ts : List Schema} :
    BoundedIn (ss ++ ts) ↔ BoundedIn ss ∧ BoundedIn ts :=
  List.forall_mem_append

theorem boundedIn_flatMap {α : Type} {f : α → List Schema} {as : List α} :
    BoundedIn (as.flatMap f) ↔ ∀ a ∈ as, BoundedIn (f a) := by
  simp only [BoundedIn, List.mem_flatMap, forall_exists_index, and_imp]
  exact ⟨fun h a ha s hs => h s a ha hs, fun h s a ha hs => h a ha s hs⟩

theorem boundedIn_values {α : Type} {f : α → List Schema} {t : Table String α} :
    BoundedIn (t.values.flatMap f) ↔ ∀ entry ∈ t, BoundedIn (f entry.2) := by
  rw [boundedIn_flatMap, Table.values]
  exact List.forall_mem_map

theorem boundedIn_toList {o : Option Schema} :
    BoundedIn o.toList ↔ ∀ s ∈ o, s.Everywhere Schema.Bounded := by
  simp [BoundedIn]

/-- The schema that a record may have. -/
theorem ensures_schema :
    Ensures Value.Normal (Value.optional Schema.read) fun o => BoundedIn o.toList :=
  fun v hv o ho => boundedIn_toList.mpr (ensures_optional Schema.ensures_read v hv o ho)

theorem MediaType.ensures_read :
    Ensures Value.Normal MediaType.read fun m => BoundedIn m.schema.toList := by
  refine ensures_asObject hereditary_normal fun ms hms => ?_
  refine yields_skip ?_
  exact yields_map (Ensures.member ensures_schema hms _ boundedIn_nil) fun schema hschema _ => hschema

/-- The content of a body or a response. -/
theorem ensures_content :
    Ensures Value.Normal (Value.table MediaType.read) fun t => BoundedIn (contentSchemas t) :=
  fun v hv t ht =>
    boundedIn_values.mpr (ensures_table hereditary_normal MediaType.ensures_read v hv t ht)

theorem Parameter.ensures_read :
    Ensures Value.Normal Parameter.read fun p => BoundedIn p.schema.toList := by
  refine ensures_asObject hereditary_normal fun ms hms => ?_
  refine yields_seq (Ensures.member ensures_schema hms _ boundedIn_nil) ?_
  iterate 3 refine yields_skip ?_
  exact yields_map (yields_any _) fun _ _ _ _ _ schema hschema => hschema

theorem RequestBody.ensures_read :
    Ensures Value.Normal RequestBody.read fun b => BoundedIn (contentSchemas b.content) := by
  refine ensures_asObject hereditary_normal fun ms hms => ?_
  refine yields_skip ?_
  refine yields_seq (Ensures.member ensures_content hms _ boundedIn_nil) ?_
  exact yields_map (yields_any _) fun _ _ content hcontent _ => hcontent

theorem Response.ensures_read :
    Ensures Value.Normal Response.read fun r => BoundedIn (contentSchemas r.content) := by
  refine ensures_asObject hereditary_normal fun ms hms => ?_
  refine yields_seq (Ensures.member ensures_content hms _ boundedIn_nil) ?_
  exact yields_map (yields_any _) fun _ _ content hcontent => hcontent

theorem Operation.ensures_read :
    Ensures Value.Normal Operation.read fun o => BoundedIn o.schemas := by
  refine ensures_asObject hereditary_normal fun ms hms => ?_
  refine yields_skip ?_
  refine yields_seq ((ensures_table hereditary_normal Response.ensures_read).member hms _
    (by simp)) ?_
  refine yields_seq ((ensures_optional RequestBody.ensures_read).member hms _ (by simp)) ?_
  refine yields_seq ((ensures_elements hereditary_normal Parameter.ensures_read).member hms _
    (by simp)) ?_
  iterate 3 refine yields_skip ?_
  refine yields_map (yields_any _) ?_
  intro _ _ _ _ _ parameters hparameters requestBody hrequestBody responses hresponses _
  refine boundedIn_append.mpr ⟨boundedIn_flatMap.mpr hparameters, boundedIn_append.mpr ⟨?_, ?_⟩⟩
  · exact boundedIn_flatMap.mpr fun b hb => hrequestBody b (Option.mem_toList.mp hb)
  · exact boundedIn_values.mpr hresponses

theorem PathItem.ensures_read :
    Ensures Value.Normal PathItem.read fun p =>
      BoundedIn (p.operations.flatMap fun (_, o) => o.schemas) := by
  refine ensures_asObject hereditary_normal fun ms hms => ?_
  have hslot : ∀ m : Method, (member [m.lower] none (Value.optional Operation.read) ms).Yields
      fun o => ∀ operation ∈ o, BoundedIn operation.schemas :=
    fun m => (ensures_optional Operation.ensures_read).member hms _ (by simp)
  refine yields_seq (hslot .trace) ?_
  refine yields_seq (hslot .patch) ?_
  refine yields_seq (hslot .head) ?_
  refine yields_seq (hslot .options) ?_
  refine yields_seq (hslot .delete) ?_
  refine yields_seq (hslot .post) ?_
  refine yields_seq (hslot .put) ?_
  refine yields_map (hslot .get) ?_
  intro get hget put hput post hpost delete hdelete options hoptions head hhead patch hpatch
    trace htrace
  refine boundedIn_flatMap.mpr ?_
  rintro ⟨m, o⟩ ho
  obtain ⟨m', _, hm⟩ := List.mem_filterMap.mp ho
  obtain ⟨o', hoperation, heq⟩ := Option.map_eq_some_iff.mp hm
  cases heq
  cases m with
  | get => exact hget o hoperation
  | put => exact hput o hoperation
  | post => exact hpost o hoperation
  | delete => exact hdelete o hoperation
  | options => exact hoptions o hoperation
  | head => exact hhead o hoperation
  | patch => exact hpatch o hoperation
  | trace => exact htrace o hoperation

theorem ensures_paths :
    Ensures Value.Normal (Value.table PathItem.read) fun t => BoundedIn (pathSchemas t) :=
  fun v hv t ht =>
    boundedIn_values.mpr (ensures_table hereditary_normal PathItem.ensures_read v hv t ht)

theorem Components.ensures_read :
    Ensures Value.Normal Components.read fun c => BoundedIn c.schemas.values := by
  refine ensures_asObject hereditary_normal fun ms hms => ?_
  refine yields_skip ?_
  refine yields_map ((ensures_table hereditary_normal Schema.ensures_read).member hms _
    (by simp)) ?_
  exact fun schemas hschemas _ => List.forall_mem_map.mpr hschemas

/-- All nodes of a document that is read have their bounds in normal form. -/
theorem Document.ensures_read :
    Ensures Value.Normal Document.read fun d => BoundedIn d.schemas := by
  refine ensures_asObject hereditary_normal fun ms hms => ?_
  iterate 2 refine yields_skip ?_
  refine yields_seq (Ensures.member Components.ensures_read hms _ boundedIn_nil) ?_
  refine yields_seq (Ensures.member ensures_paths hms _ boundedIn_nil) ?_
  refine yields_seq (Ensures.member ensures_paths hms _ boundedIn_nil) ?_
  iterate 2 refine yields_skip ?_
  refine yields_map (yields_any _) ?_
  intro _ _ _ _ paths hpaths webhooks hwebhooks components hcomponents _ _
  exact boundedIn_append.mpr ⟨hpaths, boundedIn_append.mpr ⟨hwebhooks, hcomponents⟩⟩

end ApiDirectives
