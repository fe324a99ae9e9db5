import ApiDirectives.Proofs.Directive.Slots
import ApiDirectives.Proofs.Resolve.Unions

/-!
# Schemas of types in the grammar

A type is read twice: the line grammar decides whether a text is a type, and the resolver takes the text
apart from its end. The resolver would also read a text with an empty name, or with a bar that joins
nothing, and its schema would say nothing then. In the grammar every bar stands between two names, and
taking off suffixes leaves these names whole, so each node of the schema says something definite:
`Schema.IsDefinite`.
-/

namespace ApiDirectives

open Text Resolution

/-- A name that is not empty, has no bar in it and no array suffix at its end. -/
structure IsBareName (name : String) : Prop where
  ne_empty : name ≠ ""
  no_bar : '|' ∉ name.toList
  no_suffix : ¬ ['[', ']'] <:+ name.toList

/-- A node that says something definite: a reference to a name, an array with items, some primitive
types without repetitions, or at least two alternatives; and nothing beside it. The primitive types are
the names that are types by themselves, `array` among them. -/
inductive Schema.IsDefinite : Schema → Prop
  | reference {name : String} : IsBareName name → IsDefinite (.reference name)
  | array (items : Schema) : IsDefinite (.arrayOf items)
  | types {type : List String} (format : String) (nullable : Bool) :
      type ≠ [] → type.Nodup → (∀ t ∈ type, t ∈ primitiveTypes) →
        IsDefinite { type, format, nullable }
  | alternatives {members : List Schema} :
      2 ≤ members.length → IsDefinite { oneOf := members }

namespace TypeExpr

/-! ## Types that are read from the grammar -/

/-- A bare name below array suffixes. -/
inductive IsNamed : TypeExpr → Prop
  | name {n : String} : IsBareName n → IsNamed (.name n)
  | array {t : TypeExpr} : t.IsNamed → IsNamed (.array t)

/-- A bare name, or a union of at least two members that have one, below array suffixes. -/
inductive IsGrammatical : TypeExpr → Prop
  | named {t : TypeExpr} : t.IsNamed → IsGrammatical t
  | array {t : TypeExpr} : t.IsGrammatical → IsGrammatical (.array t)
  | union {ts : List TypeExpr} : 2 ≤ ts.length → (∀ t ∈ ts, t.IsNamed) → IsGrammatical (.union ts)

section Names

variable {name : String} (h : Line.isTypeName name.toList = true)

include h

theorem isBareName_elementName : IsBareName (elementName name) := by
  have hchar : ∀ c ∈ (elementName name).toList, isNameChar c = true := fun c hc =>
    Line.isNameChar_of_mem_elementName hc
  refine ⟨?_, ?_, ?_⟩
  · intro hempty
    exact Line.elementName_ne_nil h (by rw [hempty]; rfl)
  · intro hbar
    exact absurd (hchar _ hbar) (by decide)
  · intro hsuffix
    exact absurd (hchar ']' (hsuffix.subset (by simp))) (by decide)

theorem read_elementName : read (elementName name).toList = .name (elementName name) := by
  have hbare := isBareName_elementName h
  have htrim : trimList (elementName name).toList = (elementName name).toList :=
    trimOf_eq_self fun c hc => not_isBlank_of_isNameChar (Line.isNameChar_of_mem_elementName hc)
  have hnone : withoutSuffix? (elementName name).toList = none := by
    unfold withoutSuffix?
    split
    · rename_i r hr
      refine absurd ?_ hbare.no_suffix
      rw [← List.reverse_reverse (elementName name).toList, hr]
      simp
    · rfl
  rw [read]
  split
  · simp_all
  · rw [htrim, if_neg (by simpa using hbare.no_bar), String.ofList_toList]

theorem isNamed_ofString : (ofString name).IsNamed := by
  have hblank : ∀ c ∈ (elementName name).toList, isBlank c = false := fun c hc =>
    not_isBlank_of_isNameChar (Line.isNameChar_of_mem_elementName hc)
  rw [ofString, Line.toList_of_isTypeName h, read_suffixes hblank, read_elementName h]
  exact Function.Iterate.rec IsNamed (.name (isBareName_elementName h)) (fun _ => .array) _

end Names

/-- A type of the grammar is read as a name or a union of names, below arrays. -/
theorem isGrammatical_ofString {type : String} (h : IsGrammarType type) :
    (ofString type).IsGrammatical := by
  obtain ⟨names, hne, hgrammar, rfl⟩ := h
  have hnames : ∀ name ∈ names, Line.isTypeName name.toList = true := fun name hname =>
    Line.isTypeName_of_isGrammarName (hgrammar name hname)
  obtain ⟨members, last, rfl⟩ : ∃ members last, names = members ++ [last] :=
    ⟨_, _, (List.dropLast_append_getLast hne).symm⟩
  have hlast := hnames last (by simp)
  by_cases hmembers : members = []
  · subst hmembers
    rw [List.nil_append, joined_singleton]
    exact .named (isNamed_ofString hlast)
  · -- The suffixes of the last name are those of the union, so its last member is a bare name.
    rw [ofString_joined hmembers hnames]
    refine Function.Iterate.rec IsGrammatical (.union ?_ ?_) (fun _ => .array) _
    · have := List.length_pos_iff.mpr hmembers
      simp only [List.length_map, List.length_append, List.length_singleton]
      omega
    · intro t ht
      obtain ⟨token, htoken, rfl⟩ := List.mem_map.mp ht
      rcases List.mem_append.mp htoken with hmember | hword
      · exact isNamed_ofString (hnames token (List.mem_append_left _ hmember))
      · rw [List.mem_singleton.mp hword, ofString, read_elementName hlast]
        exact .name (isBareName_elementName hlast)

end TypeExpr

/-! ## Their schemas -/

theorem Schema.IsDefinite.type_subset {s : Schema} (h : s.IsDefinite) :
    ∀ t ∈ s.type, t ∈ primitiveTypes := by
  cases h with
  | reference => simp [Schema.reference]
  | array items => simp [Schema.arrayOf, primitiveTypes]
  | types _ _ _ _ hprimitive => exact hprimitive
  | alternatives => simp

/-- A name that stands for no other schema stands for a primitive type. -/
theorem builtinSchema?_isDefinite {n : String} {s : Schema} (h : builtinSchema? n = some s) :
    s.Everywhere Schema.IsDefinite := by
  have hshort : ∀ entry ∈ shortTypes, entry.2.1 ∈ primitiveTypes := by decide
  have hone : ∀ t ∈ primitiveTypes, ∀ format,
      ({ type := [t], format } : Schema).Everywhere Schema.IsDefinite := by
    intro t ht format
    refine Schema.everywhere_of_leaf (.types format false ?_ ?_ ?_) rfl
    · exact List.cons_ne_nil _ _
    · simp
    · exact List.forall_mem_singleton.mpr ht
  unfold builtinSchema? at h
  split at h
  · rename_i type format hlookup
    cases h
    obtain ⟨before, later, hsplit, _⟩ := List.lookup_eq_some_iff.mp hlookup
    exact hone type (hshort (n, type, format) (by rw [hsplit]; simp)) format
  · obtain ⟨hprimitive, hs⟩ := Option.ite_none_right_eq_some.mp h
    cases hs
    exact hone n (List.contains_iff_mem.mp hprimitive) ""

/-- Null is taken out of two types only, so one is left. -/
theorem primitiveUnion_isDefinite (typeSets : Bool) {members : List Schema} (hne : members ≠ [])
    (hplain : ∀ s ∈ members, s.isPlainPrimitive = true) (h : ∀ s ∈ members, s.IsDefinite) :
    (primitiveUnion typeSets members).Everywhere Schema.IsDefinite := by
  have hprimitive : ∀ t ∈ distinct (members.flatMap (·.type)), t ∈ primitiveTypes := by
    intro t ht
    obtain ⟨s, hs, hts⟩ := List.mem_flatMap.mp (mem_distinct.mp ht)
    exact (h s hs).type_subset t hts
  have hnodup := nodup_distinct (members.flatMap (·.type))
  unfold primitiveUnion
  dsimp only
  split
  · rename_i hnull
    simp only [Bool.and_eq_true, beq_iff_eq] at hnull
    refine Schema.everywhere_of_leaf (.types _ true ?_ (hnodup.filter _) ?_) rfl
    · -- Two different types cannot both be null.
      intro hnil
      have hall : ∀ t ∈ distinct (members.flatMap (·.type)), t = "null" := by
        simpa using List.filter_eq_nil_iff.mp hnil
      have hone := (length_le_one_iff_of_nodup hnodup).mpr fun x hx y hy =>
        (hall x hx).trans (hall y hy).symm
      omega
    · exact fun t ht => hprimitive t (List.mem_of_mem_filter ht)
  · refine Schema.everywhere_of_leaf (.types _ false ?_ hnodup hprimitive) rfl
    obtain ⟨s, hs⟩ := List.exists_mem_of_ne_nil members hne
    obtain ⟨t, ht⟩ := Option.isSome_iff_exists.mp (s.isPlainPrimitive_eq ▸ hplain s hs)
    have htype : t ∈ s.type := by simp [Schema.type_of_plainType? ht]
    exact List.ne_nil_of_mem (mem_distinct.mpr (List.mem_flatMap.mpr ⟨s, hs, htype⟩))

theorem unionSchema_isDefinite (d : Dialect) {members : List Schema} (hlength : 2 ≤ members.length)
    (h : ∀ s ∈ members, s.Everywhere Schema.IsDefinite) :
    (unionSchema d members).Yields fun s _ => s.Everywhere Schema.IsDefinite := by
  unfold unionSchema
  split
  · rename_i hplain
    refine yields_typeSets_bind fun typeSets => yields_pure ?_
    refine primitiveUnion_isDefinite typeSets ?_ (List.all_eq_true.mp hplain) fun s hs => ?_
    · exact List.ne_nil_of_length_pos (by omega)
    · exact (Schema.everywhere_iff.mp (h s hs)).1
  · exact yields_pure (Schema.everywhere_oneOf_iff.mpr ⟨.alternatives hlength, h⟩)

namespace TypeExpr

variable (d : Dialect) (location : Option Location)

theorem IsNamed.schema_isDefinite {t : TypeExpr} (h : t.IsNamed) :
    (t.schema d location).Yields fun s _ => s.Everywhere Schema.IsDefinite := by
  induction h with
  | @name n hbare =>
    rw [TypeExpr.schema]
    cases hbuiltin : builtinSchema? n with
    | some s => exact yields_pure (builtinSchema?_isDefinite hbuiltin)
    | none =>
      refine yields_bind (yields_true _) fun _ _ _ => yields_pure ?_
      exact Schema.everywhere_of_leaf (.reference hbare) rfl
  | array _ ih =>
    rw [TypeExpr.schema]
    refine yields_bind ih fun s _ hs => yields_pure ?_
    exact Schema.everywhere_arrayOf_iff.mpr ⟨.array s, hs⟩

theorem schemas_isDefinite {ts : List TypeExpr} (h : ∀ t ∈ ts, t.IsNamed) :
    (TypeExpr.schemas d location ts).Yields fun ss _ =>
      ss.length = ts.length ∧ ∀ s ∈ ss, s.Everywhere Schema.IsDefinite := by
  induction ts with
  | nil => exact yields_pure ⟨rfl, by simp⟩
  | cons t ts ih =>
    obtain ⟨ht, hts⟩ := List.forall_mem_cons.mp h
    rw [TypeExpr.schemas]
    refine yields_bind (ht.schema_isDefinite d location) fun s _ hs => ?_
    refine yields_bind (ih hts) fun ss _ hss => yields_pure ?_
    exact ⟨by rw [List.length_cons, List.length_cons, hss.1],
      List.forall_mem_cons.mpr ⟨hs, hss.2⟩⟩

theorem IsGrammatical.schema_isDefinite {t : TypeExpr} (h : t.IsGrammatical) :
    (t.schema d location).Yields fun s _ => s.Everywhere Schema.IsDefinite := by
  induction h with
  | named hnamed => exact hnamed.schema_isDefinite d location
  | array _ ih =>
    rw [TypeExpr.schema]
    refine yields_bind ih fun s _ hs => yields_pure ?_
    exact Schema.everywhere_arrayOf_iff.mpr ⟨.array s, hs⟩
  | union hlength hnamed =>
    rw [TypeExpr.schema]
    refine yields_bind (schemas_isDefinite d location hnamed) fun ss _ hss => ?_
    exact unionSchema_isDefinite d (hss.1 ▸ hlength) hss.2

end TypeExpr

/-- The type of a parameter or a field that was read from a line is resolved to a schema of which every
node, at any depth, says something definite. -/
theorem read_type_definite {line : String} {remark : Remark} {place : Option Place} {slot : Slot}
    (hread : Remark.ofLine? line = some remark) (hslot : remark.directive = .ofSlot place slot)
    {version : String} {location : Option Location} {s : Schema} {ns : List Notice}
    (hresolve : resolveType (.of version) slot.type location = .ok (s, ns)) :
    ∀ node ∈ s.nodes, node.IsDefinite := by
  obtain ⟨_, _, _, _, _, hgrammar⟩ := Remark.exists_head_of_ofLine? hread hslot
  exact (TypeExpr.isGrammatical_ofString hgrammar).schema_isDefinite _ location s ns hresolve

/-- An array of alternatives, of which one is an array of references and one is null. -/
theorem read_type_definite_at_array_of_union :
    ∃ remark slot s ns, Remark.ofLine? "!query q:Pet[]|null|int64[]" = some remark ∧
      remark.directive = .ofSlot (some .query) slot ∧
      resolveType (.of "3.0.3") slot.type none = .ok (s, ns) ∧
      s.nodes.map (·.type) = [["array"], [], ["array"], [], ["null"], ["integer"]] ∧
      ∀ node ∈ s.nodes, node.IsDefinite := by
  obtain ⟨remark, slot, hread, hslot, htype⟩ : ∃ remark slot,
      Remark.ofLine? "!query q:Pet[]|null|int64[]" = some remark ∧
        remark.directive = .ofSlot (some .query) slot ∧ slot.type = "Pet[]|null|int64[]" := by
    let slot : Slot := ⟨"q", "Pet[]|null|int64[]", "", false, false, []⟩
    exact ⟨⟨"!query q:Pet[]|null|int64[]", .parameter .query slot⟩, slot, rfl, rfl, rfl⟩
  have hlook : (resolveType (.of "3.0.3") "Pet[]|null|int64[]" none).toOption.map
      (fun found => found.1.nodes.map (·.type)) =
      some [["array"], [], ["array"], [], ["null"], ["integer"]] := by
    decide +kernel
  rw [← htype] at hlook
  obtain ⟨⟨s, ns⟩, hresolve, htypes⟩ := exists_ok_of_toOption hlook
  exact ⟨remark, slot, s, ns, hread, hslot, hresolve, htypes, read_type_definite hread hslot hresolve⟩

end ApiDirectives
