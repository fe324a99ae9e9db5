import ApiDirectives.Document.Written
import ApiDirectives.Proofs.Resolve.Findings
import ApiDirectives.Proofs.Resolve.Parts
import ApiDirectives.Proofs.Resolve.Types
import ApiDirectives.Proofs.Resolve.Version

/-!
# Sets of types before 3.1

Before version 3.1 a node has one type, and one type stands bare where several stand in a list. The
resolver heeds this for one type with null, which becomes a flag, and not for two types: a union of
different primitive types is a set of types in every version. That is the only source of such sets.
What is written beside a type and its question mark add none, so a document before 3.1 is free of
them exactly if no written type mixes primitive types.
-/

namespace ApiDirectives

open Resolution Schema

/-! ## What is written beside a type -/

theorem oneType_overlay_iff {s : Schema} {u : Siblings} :
    (s.overlay u).Everywhere OneType ↔ s.Everywhere OneType := by
  rw [everywhere_iff, everywhere_iff]
  exact Iff.rfl

theorem withSiblings_oneType_iff (s : Schema) (u : Siblings) :
    (s.withSiblings (.ok false) u).Yields fun t _ =>
      t.Everywhere OneType ↔ s.Everywhere OneType := by
  unfold Schema.withSiblings
  split
  · exact yields_pure Iff.rfl
  · split
    · exact yields_pure oneType_overlay_iff
    · -- The reference is wrapped, and the wrapping has no type.
      refine yields_pure ?_
      rw [if_neg Bool.false_ne_true, oneType_overlay_iff, everywhere_allOf_iff,
        List.forall_mem_singleton]
      exact and_iff_right (Nat.zero_le 1)

theorem makeNullable_oneType_iff (s : Schema) :
    (s.makeNullable (.ok false)).Yields fun t _ =>
      t.Everywhere OneType ↔ s.Everywhere OneType := by
  unfold Schema.makeNullable
  refine yields_bind (Q := fun b _ => b = false) ?_ ?_
  · exact yields_typeSets fun b hb => (Except.ok.inj hb).symm
  · rintro _ _ rfl
    exact withSiblings_oneType_iff s { nullable := true }

theorem resolveSlot_oneType_iff (type : String) (constraints : List (Constraint × String))
    (description : String) (nullable : Bool) (location : Location) :
    (resolveSlot (.ok false) type constraints description nullable location).Yields fun s _ =>
      s.Everywhere OneType ↔ ¬ (TypeExpr.ofString type).Mixes := by
  unfold resolveSlot Schema.constrain
  refine yields_bind (TypeExpr.schema_oneType_iff (TypeExpr.isWritten_ofString type)) ?_
  intro s _ hs
  have hconstrained : (do
      let u ← siblings s constraints (some location) description
      s.withSiblings (.ok false) u).Yields fun t _ =>
        t.Everywhere OneType ↔ ¬ (TypeExpr.ofString type).Mixes := by
    refine yields_bind (yields_true _) fun u _ _ => ?_
    exact (withSiblings_oneType_iff s u).mono fun t _ ht => ht.trans hs
  refine yields_bind hconstrained fun t _ ht => ?_
  split
  · exact (makeNullable_oneType_iff t).mono fun t' _ ht' => ht'.trans ht
  · exact yields_pure ht

/-! ## Documents -/

/-- The types that a part has written. -/
def Part.types : Part → List String
  | .slot type .. => [type]
  | .written type _ => [type]
  | _ => []

/-- The types that a draft has written: of parameters, bodies, responses and fields, and the parents
of models. -/
def Draft.writtenTypes (draft : Draft) : List String :=
  draft.parts.flatMap Part.types

theorem Schema.IsFrame.oneType {s : Schema} (h : s.IsFrame) : s.OneType := by
  cases h with
  | object properties required description => exact Nat.le_refl 1
  | combined parts description => exact Nat.zero_le 1

theorem Part.resolve_oneType_iff {e : Setting} (hd : e.dialect = .ok false) (p : Part) :
    (p.resolve e).Yields fun ss _ =>
      (∀ s ∈ ss, s.Everywhere OneType) ↔ ∀ type ∈ p.types, ¬ (TypeExpr.ofString type).Mixes := by
  cases p with
  | schemes => exact yields_bind (yields_true _) fun _ _ _ => yields_pure (by simp [types])
  | slot type constraints description nullable location =>
    rw [Part.resolve, hd]
    refine yields_bind
      (resolveSlot_oneType_iff type constraints description nullable location) fun s _ hs => ?_
    exact yields_pure (by simpa [types] using hs)
  | written type location =>
    rw [Part.resolve, hd]
    refine yields_bind
      (TypeExpr.schema_oneType_iff (TypeExpr.isWritten_ofString type)) fun s _ hs => ?_
    exact yields_pure (by simpa [types] using hs)
  | requirement name location =>
    exact yields_bind (yields_true _) fun _ _ _ => yields_pure (by simp [types])
  | webhooks first => exact yields_bind (yields_true _) fun _ _ _ => yields_pure (by simp [types])

/-- A node is written with a list of types. -/
def Schema.WritesTypeList (s : Schema) : Prop :=
  ∃ members types, s.written = .object members ∧ ("type", .list types) ∈ members

theorem mem_valueMember {k name : String} {v w : Value} (h : (k, v) ∈ valueMember name w) :
    k = name := by
  unfold valueMember at h
  split at h
  · cases h
  · exact (Prod.ext_iff.mp (List.mem_singleton.mp h)).1

theorem list_mem_typeMember {types : List String} :
    (∃ vs, ("type", .list vs) ∈ typeMember types) ↔ 1 < types.length := by
  rcases types with _ | ⟨t, _ | ⟨u, r⟩⟩
  · simp [typeMember]
  · simp [typeMember]
  · simp [typeMember]

theorem writesTypeList_iff {s : Schema} : s.WritesTypeList ↔ 1 < s.type.length := by
  have hvalue : ∀ name v w, name ≠ "type" → ("type", v) ∉ valueMember name w :=
    fun name v w hname hmem => hname (mem_valueMember hmem).symm
  rw [← list_mem_typeMember]
  cases s
  rename_i items _ _ _ _ _ _ _ _ _ _ _
  cases items <;>
    simp [WritesTypeList, Schema.written, writtenItems, textMember, flagMember, tableMember,
      listMember, optionMember, hvalue]

/-- Before 3.1 every node of a document has one type exactly if no written type mixes primitive ones;
and a node is written with a list of types if it has several. -/
theorem typeSets_before_31 {blocks : List Block} {fallback : String} {document : Document}
    {warnings : List Diagnostic}
    (h : (assemble blocks).draft.resolve fallback = .ok (document, warnings))
    (hversion : IsBefore31 document.openapi) :
    ((∀ s ∈ document.nodes, s.type.length ≤ 1) ↔
      ∀ type ∈ (assemble blocks).draft.writtenTypes, ¬ (TypeExpr.ofString type).Mixes) ∧
    ∀ s ∈ document.nodes, s.WritesTypeList ↔ 1 < s.type.length := by
  refine ⟨?_, fun s _ => writesTypeList_iff⟩
  obtain ⟨notices, hresolution, _⟩ := Draft.resolve_eq_ok h
  have hdraft := assemble_operations_wellFormed blocks
  have hdialect : ((assemble blocks).draft.setting fallback).dialect = .ok false := by
    rw [Draft.resolution_openapi _ _ _ _ hresolution, isBefore31_iff] at hversion
    exact hversion
  have hparts := (Draft.resolution_performs hdraft fallback).returns_iff.mp ⟨_, _, hresolution⟩
  refine (Draft.forall_nodes_iff hdraft hresolution fun t ht => ht.oneType).trans ?_
  simp only [Draft.writtenTypes, List.mem_flatMap, forall_exists_index, and_imp]
  constructor
  · intro hgives type p hp
    obtain ⟨ss, ns, hss⟩ := hparts p hp
    refine (p.resolve_oneType_iff hdialect ss ns hss).mp ?_ type
    exact fun s hs => hgives p hp s ((gives_iff hss).mpr hs)
  · intro htypes p hp s hs
    obtain ⟨ss, ns, hss⟩ := hparts p hp
    refine (p.resolve_oneType_iff hdialect ss ns hss).mpr ?_ s ((gives_iff hss).mp hs)
    exact fun type => htypes type p hp

/-- Null is turned into a flag, and two names of one type are one type; below an array and among
schemas too. -/
theorem typeSets_before_31_at_nulls :
    let blocks := [Block.ofComment
      "!GET /a -> x\n!query p:string|null\n!query q:int|long\n!ok 200 str|email[]|Pet" "x" .function
      ⟨"a.py", 1⟩]
    let look := fun (resolved : Document × List Diagnostic) => resolved.1.nodes.map (·.type)
    ∃ document warnings, (assemble blocks).draft.resolve = .ok (document, warnings) ∧
      look (document, warnings) = [["string"], ["integer"], [], ["string"], ["array"], ["string"], []] ∧
      IsBefore31 document.openapi ∧ ∀ s ∈ document.nodes, s.type.length ≤ 1 := by
  intro blocks look
  obtain ⟨hlook, htypes⟩ :
      ((assemble blocks).draft.resolve).toOption.map
        (fun resolved => (resolved.1.openapi, look resolved)) =
        some ("3.0.3", [["string"], ["integer"], [], ["string"], ["array"], ["string"], []]) ∧
      ∀ type ∈ (assemble blocks).draft.writtenTypes, ¬ (TypeExpr.ofString type).Mixes := by
    dsimp only [blocks, look]
    rw [Block.ofComment_ofList]
    exact ⟨by decide +kernel, by decide +kernel⟩
  obtain ⟨document, warnings, hresolve, hresolved⟩ := Draft.exists_resolved hlook
  obtain ⟨hopenapi, hnodes⟩ := Prod.ext_iff.mp hresolved
  have hversion : IsBefore31 document.openapi := by
    rw [isBefore31_iff, show document.openapi = "3.0.3" from hopenapi, dialects_told.1]
  exact ⟨document, warnings, hresolve, hnodes, hversion,
    (typeSets_before_31 hresolve hversion).1.mpr htypes⟩

/-- A text or an integer is a set of types before 3.1 too. -/
theorem mixed_union_is_type_set :
    let blocks := [Block.ofComment "!GET /a -> x\n!query q:string|integer" "x" .function ⟨"a.py", 1⟩]
    ∃ document warnings, (assemble blocks).draft.resolve = .ok (document, warnings) ∧
      IsBefore31 document.openapi ∧ ¬ ∀ s ∈ document.nodes, s.type.length ≤ 1 := by
  intro blocks
  have hlook : ((assemble blocks).draft.resolve).toOption.map
      (fun resolved => (resolved.1.openapi, resolved.1.nodes.map (·.type))) =
        some ("3.0.3", [["string", "integer"]]) := by
    dsimp only [blocks]
    rw [Block.ofComment_ofList]
    decide +kernel
  obtain ⟨document, warnings, hresolve, hresolved⟩ := Draft.exists_resolved hlook
  obtain ⟨hopenapi, hnodes⟩ := Prod.ext_iff.mp hresolved
  refine ⟨document, warnings, hresolve, ?_, ?_⟩
  · rw [isBefore31_iff, show document.openapi = "3.0.3" from hopenapi, dialects_told.1]
  · intro hone
    have hmem : ["string", "integer"] ∈ document.nodes.map (·.type) := by
      rw [show document.nodes.map (·.type) = _ from hnodes]
      exact List.mem_singleton_self _
    obtain ⟨s, hs, htype⟩ := List.mem_map.mp hmem
    have hlength := hone s hs
    rw [htype] at hlength
    exact absurd hlength (by decide)

/-- Beside a schema the two are alternatives. -/
example : ¬ (TypeExpr.ofString "string|integer|Pet").Mixes := by decide +kernel

end ApiDirectives
