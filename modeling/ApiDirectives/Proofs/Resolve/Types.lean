import ApiDirectives.Proofs.Document.Nodes
import ApiDirectives.Proofs.Resolve.Passes
import ApiDirectives.Resolve.TypeExpr
import Mathlib.Data.List.Basic

/-!
# Types as they are written

An array suffix at the end of a text applies to all that stands before it, and a bar inside a member
is none. So a written type is a name or a union below some arrays, and the members of the union are
names below arrays: `TypeExpr.IsWritten`. For such types it can be read off what their schema depends
on. The dialect matters only to a union that joins primitive types and nothing else, and before sets
of types the nodes of the schema have one type each exactly if such a union does not mix two of them,
null apart.
-/

namespace ApiDirectives

open Resolution

namespace TypeExpr

/-! ## The shape of written types -/

/-- A name below array suffixes. -/
inductive IsMember : TypeExpr → Prop
  | name (n : String) : IsMember (.name n)
  | array {t : TypeExpr} : t.IsMember → IsMember (.array t)

/-- A name or a union of members, below array suffixes. -/
inductive IsWritten : TypeExpr → Prop
  | name (n : String) : IsWritten (.name n)
  | array {t : TypeExpr} : t.IsWritten → IsWritten (.array t)
  | union {ts : List TypeExpr} : (∀ t ∈ ts, t.IsMember) → IsWritten (.union ts)

theorem isMember_readMember (cs : List Char) : (readMember cs).IsMember := by
  fun_induction readMember cs with
  | case1 cs r h ih => exact .array ih
  | case2 cs h => exact .name _

theorem isWritten_read (cs : List Char) : (read cs).IsWritten := by
  fun_induction read cs with
  | case1 cs r h ih => exact .array ih
  | case2 cs h hbar =>
    refine .union fun t ht => ?_
    obtain ⟨piece, _, rfl⟩ := List.mem_map.mp ht
    exact isMember_readMember piece
  | case3 cs h hbar => exact .name _

theorem isWritten_ofString (s : String) : (ofString s).IsWritten :=
  isWritten_read s.toList

/-! ## Primitive types and references -/

/-- The primitive type that a name stands for, arrays apart. -/
def primitiveName? (n : String) : Option String :=
  match shortTypes.lookup n with
  | some (type, _) => some type
  | none => if primitiveTypes.contains n && n != "array" then some n else none

/-- The primitive type that a member of a union is. -/
def primitive? : TypeExpr → Option String
  | .name n => primitiveName? n
  | _ => none

/-- The primitive types that a union joins, if it joins nothing else. -/
def primitives? : TypeExpr → Option (List String)
  | .name _ => none
  | .array t => t.primitives?
  | .union ts =>
    if ts.all (·.primitive?.isSome) then some (ts.filterMap primitive?) else none

/-- A union of primitive types that has two different ones besides null. -/
def Mixes (t : TypeExpr) : Prop :=
  ∃ types, t.primitives? = some types ∧
    ∃ p ∈ types, ∃ q ∈ types, p ≠ "null" ∧ q ≠ "null" ∧ p ≠ q

instance (t : TypeExpr) : Decidable t.Mixes :=
  match h : t.primitives? with
  | none => isFalse (by simp [Mixes, h])
  | some types =>
    decidable_of_iff (∃ p ∈ types, ∃ q ∈ types, p ≠ "null" ∧ q ≠ "null" ∧ p ≠ q)
      (by simp [Mixes, h])

/-- The schema that a type refers to, if it is nothing but a reference. -/
def target? : TypeExpr → Option String
  | .name n => if (builtinSchema? n).isNone then some n else none
  | _ => none

end TypeExpr

/-- The type of a node that is a plain primitive. -/
def Schema.plainType? (s : Schema) : Option String :=
  match s.type with
  | [t] => if t != "array" && s.ref == "" then some t else none
  | _ => none

theorem Schema.isPlainPrimitive_eq (s : Schema) : s.isPlainPrimitive = s.plainType?.isSome := by
  unfold isPlainPrimitive plainType?
  rcases s.type with _ | ⟨t, _ | ⟨u, r⟩⟩
  · rfl
  · cases h : t != "array" && s.ref == "" <;> simp [h]
  · rfl

theorem Schema.type_of_plainType? {s : Schema} {type : String} (h : s.plainType? = some type) :
    s.type = [type] := by
  unfold plainType? at h
  split at h
  · rename_i t ht
    rw [ht, Option.some.inj (Option.ite_none_right_eq_some.mp h).2]
  · cases h

/-- Short names stand for primitive types that are no arrays. -/
theorem plainType?_of_builtinSchema? {n : String} {s : Schema} (h : builtinSchema? n = some s) :
    s.plainType? = TypeExpr.primitiveName? n := by
  have hshort : ∀ entry ∈ shortTypes, entry.2.1 ≠ "array" := by decide
  unfold builtinSchema? at h
  unfold TypeExpr.primitiveName?
  cases hlookup : shortTypes.lookup n with
  | some entry =>
    obtain ⟨before, after, hsplit, _⟩ := List.lookup_eq_some_iff.mp hlookup
    have hmem : (n, entry) ∈ shortTypes := by
      rw [hsplit]
      simp
    rw [hlookup] at h
    cases h
    simp [Schema.plainType?, hshort _ hmem]
  | none =>
    rw [hlookup] at h
    obtain ⟨hprimitive, hs⟩ := Option.ite_none_right_eq_some.mp h
    cases hs
    rw [hprimitive]
    simp [Schema.plainType?]

/-- A name that stands for no other schema has one type and at most a format. -/
theorem builtinSchema?_shape {n : String} {s : Schema} (h : builtinSchema? n = some s) :
    ∃ type format, s = { type := [type], format } := by
  unfold builtinSchema? at h
  split at h
  · exact ⟨_, _, (Option.some.inj h).symm⟩
  · exact ⟨_, _, (Option.some.inj (Option.ite_none_right_eq_some.mp h).2).symm⟩

theorem primitiveName?_of_builtinSchema? {n : String} (h : builtinSchema? n = none) :
    TypeExpr.primitiveName? n = none := by
  unfold builtinSchema? at h
  unfold TypeExpr.primitiveName?
  cases hlookup : shortTypes.lookup n with
  | some entry =>
    rw [hlookup] at h
    cases h
  | none =>
    have hprimitive : primitiveTypes.contains n = false := by
      rw [hlookup] at h
      by_contra hmem
      rw [Bool.not_eq_false] at hmem
      dsimp only at h
      rw [if_pos hmem] at h
      cases h
    rw [hprimitive]
    rfl

/-! ## Nodes with one type -/

/-- A node with one type, or none. -/
def Schema.OneType (s : Schema) : Prop :=
  s.type.length ≤ 1

/-! ## Members -/

section Members

variable (d : Dialect) (location : Option Location)

/-- A member needs no dialect. Its schema has one type at every node, and is a plain primitive if the
member is. -/
theorem TypeExpr.schema_member {t : TypeExpr} (h : t.IsMember) :
    ∃ s ns, t.schema d location = .ok (s, ns) ∧ s.plainType? = t.primitive? ∧
      s.Everywhere Schema.OneType := by
  induction h with
  | name n =>
    cases hbuiltin : builtinSchema? n with
    | some s =>
      refine ⟨s, [], ?_, plainType?_of_builtinSchema? hbuiltin, ?_⟩
      · simp only [TypeExpr.schema, hbuiltin]
        rfl
      · obtain ⟨type, format, rfl⟩ := builtinSchema?_shape hbuiltin
        exact Schema.everywhere_of_leaf (Nat.le_refl 1) rfl
    | none =>
      refine ⟨Schema.reference n, [.reference n location], ?_,
        (primitiveName?_of_builtinSchema? hbuiltin).symm,
        Schema.everywhere_of_leaf (Nat.zero_le 1) rfl⟩
      simp only [TypeExpr.schema, hbuiltin]
      rfl
  | array _ ih =>
    obtain ⟨s, ns, hs, _, hone⟩ := ih
    refine ⟨Schema.arrayOf s, ns ++ [], ?_, rfl,
      Schema.everywhere_arrayOf_iff.mpr ⟨Nat.le_refl 1, hone⟩⟩
    rw [TypeExpr.schema]
    exact bind_eq_ok_iff.mpr ⟨s, ns, [], hs, rfl, rfl⟩

theorem TypeExpr.schemas_members {ts : List TypeExpr} (h : ∀ t ∈ ts, t.IsMember) :
    ∃ ss ns, TypeExpr.schemas d location ts = .ok (ss, ns) ∧
      ss.map Schema.plainType? = ts.map TypeExpr.primitive? ∧
      ∀ s ∈ ss, s.Everywhere Schema.OneType := by
  induction ts with
  | nil => exact ⟨[], [], rfl, rfl, by simp⟩
  | cons t ts ih =>
    obtain ⟨ht, hts⟩ := List.forall_mem_cons.mp h
    obtain ⟨s, ns, hs, hplain, hone⟩ := TypeExpr.schema_member d location ht
    obtain ⟨ss, ms, hss, hplains, hones⟩ := ih hts
    refine ⟨s :: ss, ns ++ (ms ++ []), ?_, ?_, List.forall_mem_cons.mpr ⟨hone, hones⟩⟩
    · rw [TypeExpr.schemas]
      refine bind_eq_ok_iff.mpr ⟨s, ns, ms ++ [], hs, ?_, rfl⟩
      exact bind_eq_ok_iff.mpr ⟨ss, ms, [], hss, rfl, rfl⟩
    · rw [List.map_cons, List.map_cons, hplain, hplains]

end Members

/-! ## Unions of primitive types -/

/-- Each member is kept once, beside what was kept before. -/
theorem foldl_distinct (xs : List String) {seen : List String} (h : seen.Nodup) :
    (xs.foldl (fun seen x => if seen.contains x then seen else seen ++ [x]) seen).Nodup ∧
      ∀ x, x ∈ xs.foldl (fun seen x => if seen.contains x then seen else seen ++ [x]) seen ↔
        x ∈ seen ∨ x ∈ xs := by
  induction xs generalizing seen with
  | nil => simpa using h
  | cons x xs ih =>
    rw [List.foldl_cons]
    split
    · rename_i hseen
      have hmem : x ∈ seen := List.contains_iff_mem.mp hseen
      refine ⟨(ih h).1, fun y => ?_⟩
      rw [(ih h).2, List.mem_cons]
      constructor
      · exact fun hy => hy.imp_right .inr
      · rintro (hy | rfl | hy)
        · exact .inl hy
        · exact .inl hmem
        · exact .inr hy
    · rename_i hseen
      have hmem : x ∉ seen := fun hx => hseen (List.contains_iff_mem.mpr hx)
      have hnew : (seen ++ [x]).Nodup := by
        refine List.nodup_append.mpr ⟨h, by simp, ?_⟩
        intro y hy z hz heq
        rw [List.mem_singleton] at hz
        exact hmem (hz ▸ heq ▸ hy)
      refine ⟨(ih hnew).1, fun y => ?_⟩
      rw [(ih hnew).2, List.mem_append, List.mem_singleton, List.mem_cons, or_assoc]

theorem nodup_distinct (xs : List String) : (distinct xs).Nodup :=
  (foldl_distinct xs List.nodup_nil).1

theorem mem_distinct {x : String} {xs : List String} : x ∈ distinct xs ↔ x ∈ xs := by
  unfold distinct
  rw [(foldl_distinct xs List.nodup_nil).2 x]
  simp

theorem length_le_one_iff_of_nodup {xs : List String} (h : xs.Nodup) :
    xs.length ≤ 1 ↔ ∀ x ∈ xs, ∀ y ∈ xs, x = y := by
  match xs, h with
  | [], _ => simp
  | [x], _ => simp
  | x :: y :: r, h =>
    have hne : x ≠ y := by
      rintro rfl
      exact (List.nodup_cons.mp h).1 List.mem_cons_self
    simp only [List.length_cons]
    constructor
    · intro hlength
      omega
    · intro hall
      exact absurd (hall x (by simp) y (by simp)) hne

/-- Before sets of types a union of primitive types has one type exactly if at most one of them is
not null: null with a type is a flag, and null alone stays. -/
theorem oneType_primitiveUnion_iff {members : List Schema} :
    (primitiveUnion false members).OneType ↔
      ∀ p ∈ members.flatMap (·.type), ∀ q ∈ members.flatMap (·.type),
        p ≠ "null" → q ≠ "null" → p = q := by
  have hnodup := nodup_distinct (members.flatMap (·.type))
  have hothers : ((distinct (members.flatMap (·.type))).filter (· != "null")).length ≤ 1 ↔
      ∀ p ∈ members.flatMap (·.type), ∀ q ∈ members.flatMap (·.type),
        p ≠ "null" → q ≠ "null" → p = q := by
    rw [length_le_one_iff_of_nodup (hnodup.filter _)]
    simp only [List.mem_filter, mem_distinct, bne_iff_ne, and_imp]
    exact ⟨fun h p hp q hq hp' hq' => h p hp hp' q hq hq',
      fun h p hp hp' q hq hq' => h p hp q hq hp' hq'⟩
  rw [← hothers]
  unfold primitiveUnion Schema.OneType
  dsimp only
  generalize distinct (members.flatMap (·.type)) = types at hnodup
  -- With null there is one type more than others; it goes only if the others are one.
  by_cases hnull : "null" ∈ types
  · have hlength : (types.filter (· != "null")).length + 1 = types.length := by
      rw [← hnodup.erase_eq_filter]
      exact List.length_erase_add_one hnull
    by_cases htwo : types.length = 2
    · simp [hnull, htwo]
    · simp only [List.contains_iff_mem.mpr hnull, htwo, Bool.not_false, Bool.true_and, beq_iff_eq,
        if_false]
      omega
  · have hsame : types.filter (· != "null") = types := by
      rw [← hnodup.erase_eq_filter, List.erase_of_not_mem hnull]
    simp [hnull, hsame]

/-! ## Written types -/

section Written

variable {ss : List Schema} {ts : List TypeExpr}

theorem all_isPlainPrimitive_eq (h : ss.map Schema.plainType? = ts.map TypeExpr.primitive?) :
    ss.all Schema.isPlainPrimitive = ts.all (·.primitive?.isSome) := by
  have hall := congrArg (List.all · Option.isSome) h
  simpa only [List.all_map, Function.comp_def, ← Schema.isPlainPrimitive_eq] using hall

theorem flatMap_type_eq (h : ss.map Schema.plainType? = ts.map TypeExpr.primitive?)
    (hall : ∀ s ∈ ss, s.isPlainPrimitive = true) :
    ss.flatMap (·.type) = ts.filterMap TypeExpr.primitive? := by
  have htypes : ∀ s ∈ ss, s.type = s.plainType?.toList := by
    intro s hs
    have hplain := hall s hs
    rw [Schema.isPlainPrimitive_eq] at hplain
    obtain ⟨type, htype⟩ := Option.isSome_iff_exists.mp hplain
    rw [Schema.type_of_plainType? htype, htype]
    rfl
  calc ss.flatMap (·.type)
    _ = ss.flatMap (·.plainType?.toList) := List.flatMap_congr htypes
    _ = (ss.map Schema.plainType?).flatMap Option.toList := by rw [List.flatMap_map]
    _ = (ts.map TypeExpr.primitive?).flatMap Option.toList := by rw [h]
    _ = ts.filterMap TypeExpr.primitive? := by
      rw [List.flatMap_map, List.filterMap_eq_flatMap_toList]

variable {d : Dialect} {location : Option Location}

/-- A written type needs the dialect exactly if it is a union of primitive types. -/
theorem TypeExpr.returns_schema_iff {t : TypeExpr} (h : t.IsWritten) :
    (t.schema d location).Returns ↔ (∃ b, d = .ok b) ∨ t.primitives? = none := by
  induction h with
  | name n =>
    obtain ⟨s, ns, hs, _⟩ := TypeExpr.schema_member d location (.name n)
    exact ⟨fun _ => .inr rfl, fun _ => ⟨s, ns, hs⟩⟩
  | array _ ih =>
    rw [TypeExpr.schema, returns_bind_left_iff fun _ => returns_pure _]
    exact ih
  | @union ts hts =>
    obtain ⟨ss, ns, hss, hplain, _⟩ := TypeExpr.schemas_members d location hts
    have hall := all_isPlainPrimitive_eq hplain
    have hunion : ((TypeExpr.union ts).schema d location).Returns ↔ (unionSchema d ss).Returns := by
      rw [TypeExpr.schema, returns_bind_iff, hss]
      constructor
      · rintro ⟨_, _, heq, hreturns⟩
        cases heq
        exact hreturns
      · exact fun hreturns => ⟨ss, ns, rfl, hreturns⟩
    -- Whether a union asks for the dialect can be seen from its members as they are written.
    rw [hunion, unionSchema, TypeExpr.primitives?, hall]
    split
    · simp only [returns_bind_left_iff fun _ => returns_pure _, returns_typeSets_iff, reduceCtorEq,
        or_false]
    · exact ⟨fun _ => .inr rfl, fun _ => returns_pure _⟩

/-- The schema of a type is a reference exactly if the type is nothing but one. -/
theorem TypeExpr.schema_target (t : TypeExpr) :
    (t.schema d location).Yields fun s _ =>
      (∃ n, t.target? = some n ∧ s = Schema.reference n) ∨ (t.target? = none ∧ s.ref = "") := by
  cases t with
  | name n =>
    rw [TypeExpr.schema, TypeExpr.target?]
    cases hbuiltin : builtinSchema? n with
    | some s =>
      obtain ⟨type, format, rfl⟩ := builtinSchema?_shape hbuiltin
      exact yields_pure (.inr ⟨rfl, rfl⟩)
    | none =>
      refine yields_bind (yields_true _) fun _ _ _ => ?_
      exact yields_pure (.inl ⟨n, rfl, rfl⟩)
  | array items =>
    rw [TypeExpr.schema]
    exact yields_bind (yields_true _) fun s _ _ => yields_pure (.inr ⟨rfl, rfl⟩)
  | union members =>
    rw [TypeExpr.schema]
    refine yields_bind (yields_true _) fun ss _ _ => ?_
    unfold unionSchema
    split
    · refine yields_bind (yields_true _) fun typeSets _ _ => yields_pure (.inr ⟨rfl, ?_⟩)
      unfold primitiveUnion
      dsimp only
      split <;> rfl
    · exact yields_pure (.inr ⟨rfl, rfl⟩)

/-- Before sets of types a written type gives nodes of one type each exactly if it does not mix
primitive types. -/
theorem TypeExpr.schema_oneType_iff {t : TypeExpr} (h : t.IsWritten) :
    (t.schema (.ok false) location).Yields fun s _ =>
      s.Everywhere Schema.OneType ↔ ¬ t.Mixes := by
  induction h with
  | name n =>
    intro s ns hs
    obtain ⟨s', ns', hs', _, hone⟩ := TypeExpr.schema_member (.ok false) location (.name n)
    rw [hs] at hs'
    cases hs'
    simp [TypeExpr.Mixes, TypeExpr.primitives?, hone]
  | array _ ih =>
    rw [TypeExpr.schema]
    refine yields_bind ih fun s _ hs => yields_pure ?_
    rw [Schema.everywhere_arrayOf_iff, hs]
    exact and_iff_right (Nat.le_refl 1)
  | @union ts hts =>
    rw [TypeExpr.schema]
    intro s ns hs
    obtain ⟨ss, before, later, hss, hunion, _⟩ := bind_eq_ok_iff.mp hs
    obtain ⟨ss', ns', hss', hplain, hones⟩ := TypeExpr.schemas_members (.ok false) location hts
    rw [hss] at hss'
    cases hss'
    have hall := all_isPlainPrimitive_eq hplain
    unfold unionSchema at hunion
    split at hunion
    -- Primitive types are one node, with all of them; other types are alternatives, with none.
    · rename_i hprimitive
      have htypes := flatMap_type_eq hplain (List.all_eq_true.mp hprimitive)
      have hs : s = primitiveUnion false ss := by
        cases hunion
        rfl
      have hleaf : (primitiveUnion false ss).children = [] := by
        unfold primitiveUnion
        dsimp only
        split <;> rfl
      rw [hs, Schema.everywhere_iff, hleaf, oneType_primitiveUnion_iff, htypes]
      simp [TypeExpr.Mixes, TypeExpr.primitives?, ← hall, hprimitive]
    · rename_i hother
      cases hunion
      have hnone : (TypeExpr.union ts).primitives? = none := by
        rw [TypeExpr.primitives?, ← hall, if_neg hother]
      refine ⟨fun _ => ?_, fun _ => Schema.everywhere_oneOf_iff.mpr ⟨Nat.zero_le 1, hones⟩⟩
      rintro ⟨types, htypes, _⟩
      rw [hnone] at htypes
      cases htypes

end Written

/-! ## Nodes of types -/

/-- The nodes that the schemas of types are made of. -/
inductive Schema.IsOfType (d : Dialect) : Schema → Prop
  | reference (name : String) : IsOfType d (Schema.reference name)
  | builtin (type format : String) : IsOfType d { type := [type], format }
  | array (items : Schema) : IsOfType d (Schema.arrayOf items)
  | primitives {typeSets : Bool} (known : d = .ok typeSets) (members : List Schema) :
      IsOfType d (primitiveUnion typeSets members)
  | alternatives (members : List Schema) : IsOfType d { oneOf := members }

section Nodes

open Schema

variable (d : Dialect) (location : Option Location)

theorem unionSchema_isOfType {members : List Schema}
    (h : ∀ s ∈ members, s.Everywhere (IsOfType d)) :
    (unionSchema d members).Yields fun s _ => s.Everywhere (IsOfType d) := by
  unfold unionSchema
  split
  · refine yields_bind (Q := fun b _ => d = .ok b) (yields_typeSets fun b hb => hb) ?_
    intro typeSets _ hd
    refine yields_pure (everywhere_of_leaf (.primitives hd members) ?_)
    unfold primitiveUnion
    dsimp only
    split <;> rfl
  · exact yields_pure (everywhere_oneOf_iff.mpr ⟨.alternatives members, h⟩)

mutual

/-- The schema of a type is made of these nodes at any depth. -/
theorem TypeExpr.schema_isOfType :
    (t : TypeExpr) → (t.schema d location).Yields fun s _ => s.Everywhere (IsOfType d)
  | .name n => by
    unfold TypeExpr.schema
    split
    · rename_i s hs
      obtain ⟨type, format, rfl⟩ := builtinSchema?_shape hs
      exact yields_pure (everywhere_of_leaf (.builtin type format) rfl)
    · refine yields_bind (yields_true _) fun _ _ _ => ?_
      exact yields_pure (everywhere_of_leaf (.reference n) rfl)
  | .array items => by
    unfold TypeExpr.schema
    refine yields_bind (TypeExpr.schema_isOfType items) fun s _ hs => ?_
    exact yields_pure (everywhere_arrayOf_iff.mpr ⟨.array s, hs⟩)
  | .union members => by
    unfold TypeExpr.schema
    exact yields_bind (TypeExpr.schemas_isOfType members) fun ss _ hss => unionSchema_isOfType d hss

theorem TypeExpr.schemas_isOfType :
    (ts : List TypeExpr) → (TypeExpr.schemas d location ts).Yields fun ss _ =>
      ∀ s ∈ ss, s.Everywhere (IsOfType d)
  | [] => yields_pure (by simp)
  | t :: r => by
    unfold TypeExpr.schemas
    refine yields_bind (TypeExpr.schema_isOfType t) fun s _ hs => ?_
    refine yields_bind (TypeExpr.schemas_isOfType r) fun ss _ hss => ?_
    exact yields_pure (List.forall_mem_cons.mpr ⟨hs, hss⟩)

end

/-- What holds of the nodes of types holds everywhere in the schema of a type. -/
theorem TypeExpr.schema_everywhere {P : Schema → Prop} (hP : ∀ s, s.IsOfType d → P s) (t : TypeExpr) :
    (t.schema d location).Yields fun s _ => s.Everywhere P :=
  (t.schema_isOfType d location).mono fun _ _ hs u hu => hP u (hs u hu)

end Nodes

end ApiDirectives
