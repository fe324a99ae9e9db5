import ApiDirectives.Directive.Line
import ApiDirectives.Proofs.Resolve.Totality
import ApiDirectives.Proofs.Resolve.Types
import ApiDirectives.Proofs.Resolve.Version
import ApiDirectives.Proofs.Text.Blank

/-!
# Question marks from 3.1 on

From version 3.1 on a question mark adds null to the types of a node, and a node without types is
wrapped with null as the other alternative. Of alternatives exactly one has to apply, so the
wrapping takes null away again where the node admits it already. This happens to a union that is
kept as alternatives and names null exactly once: `makeNullable_admitsNull_iff`.
-/

namespace ApiDirectives

open Text Resolution

/-! ## Schemas that admit null -/

namespace Schema

mutual

/-- Whether a schema admits null: a reference does not, types do if null is one of them, and
alternatives do if exactly one of them does. -/
def admitsNull : Schema → Bool
  | ⟨ref, type, _, _, _, _, _, _, _, oneOf, _, _, _, _, _, _, _, _, _⟩ =>
    if ref != "" then false
    else if !type.isEmpty then type.contains "null"
    else if !oneOf.isEmpty then admittingNull oneOf == 1
    else true

/-- How many schemas admit null. -/
def admittingNull : List Schema → Nat
  | [] => 0
  | s :: r => (if s.admitsNull then 1 else 0) + admittingNull r

end

theorem admittingNull_eq (ss : List Schema) : admittingNull ss = ss.countP admitsNull := by
  induction ss with
  | nil => rfl
  | cons s r ih => rw [admittingNull, ih, List.countP_cons, Nat.add_comm]

/-- What a schema admits is told by its reference, its types and its alternatives, and by nothing else
of it. -/
theorem admitsNull_eq (s : Schema) :
    s.admitsNull =
      if s.ref != "" then false
      else if !s.type.isEmpty then s.type.contains "null"
      else if !s.oneOf.isEmpty then s.oneOf.countP admitsNull == 1
      else true := by
  rw [← admittingNull_eq]
  cases s
  rfl

theorem admitsNull_of_ref {s : Schema} (h : s.ref ≠ "") : s.admitsNull = false := by
  rw [admitsNull_eq, if_pos (bne_iff_ne.mpr h)]

theorem admitsNull_of_type {s : Schema} (href : s.ref = "") (htype : s.type ≠ []) :
    s.admitsNull = s.type.contains "null" := by
  rw [admitsNull_eq, href]
  simp [htype]

theorem admitsNull_oneOf {members : List Schema} (h : members ≠ []) :
    ({ oneOf := members } : Schema).admitsNull = (members.countP admitsNull == 1) := by
  rw [admitsNull_eq]
  simp [h]

/-- A question mark adds null to types. A node without types is an alternative to null, and then
null is admitted if the node does not admit it. -/
theorem makeNullable_admitsNull {s : Schema} (h : s.type ≠ [] → s.ref = "") :
    (s.makeNullable (.ok true)).Yields fun t _ =>
      t.admitsNull = true ↔ s.type ≠ [] ∨ s.admitsNull = false := by
  unfold makeNullable
  refine yields_known_bind ?_
  rw [if_neg (by decide)]
  by_cases htype : s.type = []
  · -- Null is the second alternative, so it must not fit the first one.
    rw [htype, if_pos List.isEmpty_nil]
    refine yields_pure ?_
    rw [admitsNull_oneOf (List.cons_ne_nil _ _)]
    have hnull : ({ type := ["null"] } : Schema).admitsNull = true := by decide
    cases hs : s.admitsNull <;> simp [hnull, hs]
  · rw [if_neg (by simpa using htype)]
    split
    · rename_i hmem
      refine yields_pure ?_
      rw [admitsNull_of_type (h htype) htype, hmem]
      simp [htype]
    · refine yields_pure ?_
      have hadded : s.type ++ ["null"] ≠ [] := List.append_ne_nil_of_right_ne_nil _ (by simp)
      rw [admitsNull_of_type (s := { s with type := s.type ++ ["null"] }) (h htype) hadded]
      simp [htype]

end Schema

/-! ## Types in the grammar -/

/-- A type of the grammar begins with a word character. -/
theorem isWord_of_isType {cs : List Char} (h : Line.isType cs = true) :
    ∃ c r, cs = c :: r ∧ c ≠ '|' ∧ Text.isWord c = true := by
  cases cs with
  | nil => cases h
  | cons c r =>
    by_cases hbar : c = '|'
    · subst hbar
      rw [Line.isType, piecesOf, piecesFrom_cons, if_pos rfl] at h
      cases h
    · obtain ⟨more, rest, hpieces⟩ := piecesOf_cons hbar r
      rw [Line.isType, hpieces, List.all_cons, Bool.and_eq_true, Line.isTypeName,
        Bool.and_eq_true] at h
      exact ⟨c, r, rfl, hbar, h.1.1⟩

/-- A union that is written in the grammar has members. -/
theorem TypeExpr.union_ne_nil {token : String} (h : Line.isType token.toList = true)
    {ts : List TypeExpr} (hunion : ofString token = .union ts) : ts ≠ [] := by
  obtain ⟨c, r, hcs, hbar, hword⟩ := isWord_of_isType h
  have htrim := trimList_cons (not_isBlank_of_isWord hword) r
  obtain ⟨more, rest, hpieces⟩ := piecesOf_cons hbar (dropEnd isBlank r)
  rw [ofString, hcs] at hunion
  unfold read at hunion
  split at hunion
  · cases hunion
  · split at hunion
    · cases hunion
      rw [htrim, hpieces]
      simp
    · cases hunion

/-! ## Types with a question mark -/

namespace TypeExpr

/-- A union that is kept as alternatives and names null exactly once. -/
def NamesNullOnce : TypeExpr → Prop
  | .union ts => (ts.map primitive?).count (some "null") = 1 ∧ none ∈ ts.map primitive?
  | _ => False

instance (t : TypeExpr) : Decidable t.NamesNullOnce :=
  match t with
  | .name _ => inferInstanceAs (Decidable False)
  | .array _ => inferInstanceAs (Decidable False)
  | .union _ => inferInstanceAs (Decidable (_ ∧ _))

variable {d : Dialect} {location : Option Location}

/-- A member admits null if it is null. -/
theorem member_admitsNull {t : TypeExpr} (h : t.IsMember) :
    (t.schema d location).Yields fun s _ =>
      s.admitsNull = (t.primitive? == some "null") := by
  cases h with
  | name n =>
    rw [TypeExpr.schema, primitive?]
    cases hbuiltin : builtinSchema? n with
    | some s =>
      refine yields_pure ?_
      have hplain := plainType?_of_builtinSchema? hbuiltin
      obtain ⟨type, format, rfl⟩ := builtinSchema?_shape hbuiltin
      rw [← hplain, Schema.admitsNull_of_type rfl (List.cons_ne_nil _ _)]
      -- A bare array is no primitive type, and it is not null either.
      by_cases harray : type = "array"
      · subst harray
        rfl
      · have htype : ({ type := [type], format } : Schema).plainType? = some type := by
          simp [Schema.plainType?, harray]
        rw [htype]
        by_cases hnull : type = "null"
        · subst hnull
          rfl
        · simp [hnull, Ne.symm hnull]
    | none =>
      refine yields_bind (yields_true _) fun _ _ _ => yields_pure ?_
      have href : (Schema.reference n).ref ≠ "" := by simp [Schema.reference, Schema.refBase]
      rw [primitiveName?_of_builtinSchema? hbuiltin, Schema.admitsNull_of_ref href]
      rfl
  | @array items hitems =>
    rw [TypeExpr.schema]
    refine yields_bind (yields_true _) fun s _ _ => yields_pure ?_
    rw [Schema.admitsNull_of_type rfl (List.cons_ne_nil _ _)]
    rfl

theorem members_admittingNull {ts : List TypeExpr} (h : ∀ t ∈ ts, t.IsMember) :
    (TypeExpr.schemas d location ts).Yields fun ss _ =>
      ss.countP Schema.admitsNull = (ts.map primitive?).count (some "null") := by
  induction ts with
  | nil => exact yields_pure rfl
  | cons t ts ih =>
    obtain ⟨ht, hts⟩ := List.forall_mem_cons.mp h
    rw [TypeExpr.schemas]
    refine yields_bind (member_admitsNull ht) fun s _ hs => ?_
    refine yields_bind (ih hts) fun ss _ hss => yields_pure ?_
    rw [List.countP_cons, List.map_cons, List.count_cons, hss, hs]

theorem none_mem_primitives_iff {ts : List TypeExpr} :
    none ∈ ts.map primitive? ↔ ¬ ts.all (·.primitive?.isSome) = true := by
  simp

theorem distinct_primitives_ne_nil {ts : List TypeExpr} (hne : ts ≠ [])
    (hsome : none ∉ ts.map primitive?) : distinct (ts.filterMap primitive?) ≠ [] := by
  obtain ⟨t, rest, rfl⟩ := List.exists_cons_of_ne_nil hne
  cases ht : t.primitive? with
  | none => exact absurd (List.mem_map.mpr ⟨t, List.mem_cons_self, ht⟩) hsome
  | some p =>
    have hp : p ∈ (t :: rest).filterMap primitive? :=
      List.mem_filterMap.mpr ⟨t, List.mem_cons_self, ht⟩
    exact List.ne_nil_of_mem (mem_distinct.mpr hp)

/-- A question mark adds null to a union, unless the union is kept as alternatives and names null
once. -/
theorem unionSchema_admitsNull_iff {ss : List Schema} {ts : List TypeExpr} (hne : ts ≠ [])
    (hplain : ss.map Schema.plainType? = ts.map primitive?)
    (hcount : ss.countP Schema.admitsNull = (ts.map primitive?).count (some "null")) :
    (unionSchema (.ok true) ss).Yields fun s _ =>
      (s.type ≠ [] → s.ref = "") ∧
        ((s.type ≠ [] ∨ s.admitsNull = false) ↔ ¬ (TypeExpr.union ts).NamesNullOnce) := by
  have hall := all_isPlainPrimitive_eq hplain
  unfold unionSchema
  split
  · -- A set of types, which null can be added to.
    rename_i hprimitive
    have hsome : none ∉ ts.map primitive? := by
      rw [none_mem_primitives_iff, ← hall, not_not]
      exact hprimitive
    have htypes : distinct (ss.flatMap (·.type)) ≠ [] := by
      rw [flatMap_type_eq hplain (List.all_eq_true.mp hprimitive)]
      exact distinct_primitives_ne_nil hne hsome
    have hunion : primitiveUnion true ss =
        { type := distinct (ss.flatMap (·.type)), format := commonFormat ss } := by
      simp [primitiveUnion]
    refine yields_known_bind ?_
    rw [hunion]
    exact yields_pure ⟨fun _ => rfl, by simp [htypes, NamesNullOnce, hsome]⟩
  · -- Alternatives, which admit null if exactly one of them is null.
    rename_i hother
    have hnone : none ∈ ts.map primitive? := by
      rw [none_mem_primitives_iff, ← hall]
      exact hother
    have hmembers : ss ≠ [] := by
      rintro rfl
      exact hother rfl
    refine yields_pure ⟨fun htype => absurd rfl htype, ?_⟩
    rw [Schema.admitsNull_oneOf hmembers, hcount]
    simp [NamesNullOnce, hnone]

/-- What a question mark finds: a node that it adds null to, except at a union that names null
once. -/
theorem schema_admitsNull_iff {t : TypeExpr} (hwritten : t.IsWritten) (hmembers : t ≠ .union []) :
    (t.schema (.ok true) location).Yields fun s _ =>
      (s.type ≠ [] → s.ref = "") ∧
        ((s.type ≠ [] ∨ s.admitsNull = false) ↔ ¬ t.NamesNullOnce) := by
  cases hwritten with
  | name n =>
    rw [TypeExpr.schema]
    cases hbuiltin : builtinSchema? n with
    | some s =>
      obtain ⟨type, format, rfl⟩ := builtinSchema?_shape hbuiltin
      exact yields_pure ⟨fun _ => rfl, by simp [NamesNullOnce]⟩
    | none =>
      refine yields_bind (yields_true _) fun _ _ _ => yields_pure ?_
      have href : (Schema.reference n).ref ≠ "" := by simp [Schema.reference, Schema.refBase]
      exact ⟨fun htype => absurd rfl htype,
        by simp [NamesNullOnce, Schema.admitsNull_of_ref href]⟩
  | @array items hitems =>
    rw [TypeExpr.schema]
    refine yields_bind (yields_true _) fun s _ _ => yields_pure ⟨fun _ => rfl, ?_⟩
    simp [NamesNullOnce, Schema.arrayOf]
  | @union ts hts =>
    have hne : ts ≠ [] := fun hnil => hmembers (by rw [hnil])
    rw [TypeExpr.schema]
    refine yields_bind (Q := fun ss _ => ss.map Schema.plainType? = ts.map primitive? ∧
      ss.countP Schema.admitsNull = (ts.map primitive?).count (some "null")) ?_ ?_
    · intro ss ns hss
      obtain ⟨ss', ns', hss', hplain, _⟩ := TypeExpr.schemas_members (.ok true) location hts
      rw [hss] at hss'
      cases hss'
      exact ⟨hplain, members_admittingNull hts ss ns hss⟩
    · rintro ss _ ⟨hplain, hcount⟩
      exact unionSchema_admitsNull_iff hne hplain hcount

end TypeExpr

/-- From 3.1 on, a type with a question mark admits null unless it is a union that is kept as
alternatives and names null exactly once. -/
theorem makeNullable_admitsNull_iff {version token : String} (hversion : IsFrom31 version)
    (htoken : Line.isType token.toList = true) (location : Option Location) :
    ∃ s ns, (do
        let s ← resolveType (.of version) token location
        s.makeNullable (.of version)) = .ok (s, ns) ∧
      (s.admitsNull = true ↔ ¬ (TypeExpr.ofString token).NamesNullOnce) := by
  have hwritten := TypeExpr.isWritten_ofString token
  have hmembers : TypeExpr.ofString token ≠ .union [] := by
    intro hunion
    exact TypeExpr.union_ne_nil htoken hunion rfl
  rw [isFrom31_iff.mp hversion]
  obtain ⟨s, ns, hs⟩ : (do
      let s ← resolveType (.ok true) token location
      s.makeNullable (.ok true)).Returns := by
    refine returns_bind ((TypeExpr.returns_schema_iff hwritten).mpr (.inl ⟨true, rfl⟩)) fun s => ?_
    exact makeNullable_returns_iff.mpr ⟨true, rfl⟩
  refine ⟨s, ns, hs, ?_⟩
  refine yields_bind (P := fun s _ => s.admitsNull = true ↔ _)
    (TypeExpr.schema_admitsNull_iff hwritten hmembers) (fun t _ ht => ?_) s ns hs
  exact (Schema.makeNullable_admitsNull ht.1).mono fun u _ hu => hu.trans ht.2

/-- Null is one type of a set here, and not an alternative. -/
example : ((do
    let s ← resolveType (.of "3.1.0") "string|null" none
    s.makeNullable (.of "3.1.0") : Resolution Schema).toOption.map fun found =>
      found.1.admitsNull) = some true := by decide +kernel

theorem makeNullable_admitsNull_at_nulls :
    ∃ s ns, (do
        let s ← resolveType (.of "3.1.0") "null|null|Pet" none
        s.makeNullable (.of "3.1.0")) = .ok (s, ns) ∧ s.admitsNull = true := by
  have hversion : IsFrom31 "3.1.0" := isFrom31_iff.mpr dialects_told.2
  have htoken : Line.isType "null|null|Pet".toList = true := by decide
  have htwice : ¬ (TypeExpr.ofString "null|null|Pet").NamesNullOnce := by decide +kernel
  obtain ⟨s, ns, hs, hnull⟩ := makeNullable_admitsNull_iff hversion htoken none
  exact ⟨s, ns, hs, hnull.mpr htwice⟩

/-- A schema or null, with a question mark, does not admit null. -/
theorem nullable_union_excludes_null :
    IsFrom31 "3.1.0" ∧ Line.isType "Pet|null".toList = true ∧
      ∃ s ns, (do
          let s ← resolveType (.of "3.1.0") "Pet|null" none
          s.makeNullable (.of "3.1.0")) = .ok (s, ns) ∧ s.admitsNull = false := by
  refine ⟨isFrom31_iff.mpr dialects_told.2, by decide, ?_⟩
  have hlook : ((do
      let s ← resolveType (.of "3.1.0") "Pet|null" none
      s.makeNullable (.of "3.1.0") : Resolution Schema).toOption.map fun found =>
        found.1.admitsNull) = some false := by decide +kernel
  obtain ⟨⟨s, ns⟩, hrun, hnull⟩ := exists_ok_of_toOption hlook
  exact ⟨s, ns, hrun, hnull⟩

end ApiDirectives
