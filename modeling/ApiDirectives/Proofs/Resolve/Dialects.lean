import ApiDirectives.Proofs.Resolve.Findings
import ApiDirectives.Proofs.Resolve.Parts
import ApiDirectives.Proofs.Resolve.Types
import ApiDirectives.Proofs.Resolve.Version

/-!
# Dialects are kept apart

Before version 3.1 the siblings of a reference are ignored by readers, and from 3.1 on the flag for
"or null" is. So a document of the one kind has no references with siblings, and one of the other kind
no flags, at any depth: `Schema.Suits` says so of a node, and every function of the resolver keeps it.
A flag is set and siblings are put beside a reference only after the dialect was asked for, so where
the version has no dialect both hold.
-/

namespace ApiDirectives

open Resolution

/-- A node has nothing of the other dialect: unless its document is of version 3.1 or later a
reference stands alone, and unless it is of an earlier one the flag for null is not set. -/
structure Schema.Suits (d : Dialect) (s : Schema) : Prop where
  alone : d ≠ .ok true → s.ref ≠ "" → s = { ref := s.ref }
  unflagged : d ≠ .ok false → s.nullable = false

namespace Schema

variable {d : Dialect}

theorem suits_of_plain {s : Schema} (href : s.ref = "") (hflag : s.nullable = false) : s.Suits d :=
  ⟨fun _ h => absurd href h, fun _ => hflag⟩

theorem suits_reference (name : String) : (reference name).Suits d :=
  ⟨fun _ _ => rfl, fun _ => rfl⟩

theorem IsFrame.suits {s : Schema} (h : s.IsFrame) : s.Suits d := by
  cases h with
  | object properties required description => exact suits_of_plain rfl rfl
  | combined parts description => exact suits_of_plain rfl rfl

/-- The nodes of types suit their dialect: the flag for null is set before 3.1 only. -/
theorem IsOfType.suits {s : Schema} (h : s.IsOfType d) : s.Suits d := by
  cases h with
  | reference name => exact suits_reference name
  | builtin type format => exact suits_of_plain rfl rfl
  | array items => exact suits_of_plain rfl rfl
  | alternatives members => exact suits_of_plain rfl rfl
  | @primitives typeSets hd members =>
    unfold primitiveUnion
    dsimp only
    split
    · rename_i hnull
      refine ⟨fun _ h => absurd rfl h, fun hflag => ?_⟩
      cases typeSets with
      | false => exact absurd hd hflag
      | true => simp at hnull
    · exact suits_of_plain rfl rfl

end Schema

open Schema

theorem TypeExpr.schema_suits (d : Dialect) (location : Option Location) (t : TypeExpr) :
    (t.schema d location).Yields fun s _ => s.Everywhere (Suits d) :=
  t.schema_everywhere d location fun _ h => h.suits

/-! ## Siblings and null -/

section Siblings

variable {d : Dialect}

/-- Siblings may be put over the members of a node that is no reference, or in version 3.1. -/
theorem suits_overlay {s : Schema} (hs : s.Everywhere (Suits d)) {u : Siblings}
    (hu : d ≠ .ok false → u.nullable = false) (href : s.ref = "" ∨ d = .ok true) :
    (s.overlay u).Everywhere (Suits d) := by
  obtain ⟨hown, hchildren⟩ := everywhere_iff.mp hs
  refine everywhere_iff.mpr ⟨⟨?_, ?_⟩, hchildren⟩
  · intro hbefore href'
    rcases href with href | htrue
    · exact absurd href href'
    · exact absurd htrue hbefore
  · intro hfrom
    simp [overlay, hown.unflagged hfrom, hu hfrom]

theorem withSiblings_suits {s : Schema} (hs : s.Everywhere (Suits d)) {u : Siblings}
    (hu : d ≠ .ok false → u.nullable = false) :
    (s.withSiblings d u).Yields fun t _ => t.Everywhere (Suits d) := by
  unfold Schema.withSiblings
  split
  · exact yields_pure hs
  · split
    · rename_i href
      exact yields_pure (suits_overlay hs hu (.inl (by simpa using href)))
    · refine yields_bind (Q := fun b _ => d = .ok b) (yields_typeSets fun b hb => hb) ?_
      intro typeSets _ hd
      refine yields_pure ?_
      cases typeSets with
      | true => exact suits_overlay hs hu (.inr hd)
      | false =>
        -- The reference is wrapped, and the siblings stand beside the wrapping.
        have hwrapped : ({ allOf := [s] } : Schema).Everywhere (Suits d) :=
          everywhere_allOf_iff.mpr ⟨suits_of_plain rfl rfl, List.forall_mem_singleton.mpr hs⟩
        exact suits_overlay hwrapped hu (.inl rfl)

theorem makeNullable_suits {s : Schema} (hs : s.Everywhere (Suits d)) :
    (s.makeNullable d).Yields fun t _ => t.Everywhere (Suits d) := by
  unfold Schema.makeNullable
  refine yields_bind (Q := fun b _ => d = .ok b) (yields_typeSets fun b hb => hb) ?_
  intro typeSets _ hd
  cases typeSets with
  | false =>
    rw [if_pos (by decide)]
    exact withSiblings_suits hs fun hfalse => absurd hd hfalse
  | true =>
    have hnull : ({ type := ["null"] } : Schema).Everywhere (Suits d) :=
      everywhere_of_leaf (suits_of_plain rfl rfl) rfl
    rw [if_neg (by decide)]
    split
    · exact yields_pure (everywhere_oneOf_iff.mpr ⟨suits_of_plain rfl rfl, by simp [hs, hnull]⟩)
    · split
      · exact yields_pure hs
      · obtain ⟨hown, hchildren⟩ := everywhere_iff.mp hs
        refine yields_pure (everywhere_iff.mpr ⟨⟨?_, hown.unflagged⟩, hchildren⟩)
        intro hbefore
        exact absurd hd hbefore

/-- Constraints do not set the flag for null. -/
theorem siblings_unflagged (s : Schema) (constraints : List (Constraint × String))
    (location : Option Location) (description : String) :
    (siblings s constraints location description).Yields fun u _ => u.nullable = false := by
  unfold siblings
  iterate 7 refine yields_bind (yields_true _) fun _ _ _ => ?_
  exact yields_pure rfl

theorem resolveSlot_suits (type : String) (constraints : List (Constraint × String))
    (description : String) (nullable : Bool) (location : Location) :
    (resolveSlot d type constraints description nullable location).Yields fun s _ =>
      s.Everywhere (Suits d) := by
  unfold resolveSlot Schema.constrain
  refine yields_bind (TypeExpr.schema_suits d (some location) _) fun s _ hs => ?_
  have hconstrained : (do
      let u ← siblings s constraints (some location) description
      s.withSiblings d u).Yields fun t _ => t.Everywhere (Suits d) :=
    yields_bind (siblings_unflagged s constraints (some location) description) fun u _ hu =>
      withSiblings_suits hs fun _ => hu
  refine yields_bind hconstrained fun t _ ht => ?_
  split
  · exact makeNullable_suits ht
  · exact yields_pure ht

end Siblings

/-! ## Documents -/

/-- What a part gives suits the dialect. -/
theorem Part.resolve_suits (e : Setting) (p : Part) :
    (p.resolve e).Yields fun ss _ => ∀ s ∈ ss, s.Everywhere (Suits e.dialect) :=
  p.resolve_everywhere e resolveSlot_suits
    fun _ location => TypeExpr.schema_suits e.dialect (some location) _

/-- In a resolved document no node has something of the other dialect: unless the version is 3.1 or a
later one every reference stands alone, and unless it is an earlier one no flag for null is set. -/
theorem dialects_kept_apart {blocks : List Block} {fallback : String} {document : Document}
    {warnings : List Diagnostic}
    (h : (assemble blocks).draft.resolve fallback = .ok (document, warnings)) :
    (¬ IsFrom31 document.openapi → ∀ s ∈ document.nodes, s.ref ≠ "" → s = { ref := s.ref }) ∧
      (¬ IsBefore31 document.openapi → ∀ s ∈ document.nodes, s.nullable = false) := by
  obtain ⟨notices, hresolution, _⟩ := Draft.resolve_eq_ok h
  have hnodes := (Draft.forall_nodes_iff (assemble_operations_wellFormed blocks) hresolution
    fun t ht => ht.suits).mpr fun p _ s hs => (p.resolve_suits _).of_gives hs
  rw [Draft.resolution_openapi _ _ _ _ hresolution, isFrom31_iff, isBefore31_iff]
  exact ⟨fun hd s hs => (hnodes s hs).alone hd, fun hd s hs => (hnodes s hs).unflagged hd⟩

/-- One draft in both dialects: a reference with a description that may be null is wrapped and flagged
before 3.1, and from 3.1 on it keeps its description and becomes an alternative to null. -/
theorem dialects_kept_apart_at_described_reference :
    let blocks := [Block.ofComment "!field owner:Owner? \"who keeps it\"" "owner" .field
      ⟨"api.py", 10⟩ (some ⟨"Pet", 9⟩)]
    let look := fun (resolved : Document × List Diagnostic) =>
      resolved.1.nodes.map fun s => (s.ref, s.description, s.nullable)
    let target := "#/components/schemas/Owner"
    (∃ document warnings, (assemble blocks).draft.resolve "3.0.3" = .ok (document, warnings) ∧
      look (document, warnings) =
        [("", "", false), ("", "who keeps it", true), (target, "", false)] ∧
      ∀ s ∈ document.nodes, s.ref ≠ "" → s = { ref := s.ref }) ∧
    ∃ document warnings, (assemble blocks).draft.resolve "3.1.0" = .ok (document, warnings) ∧
      look (document, warnings) =
        [("", "", false), ("", "", false), (target, "who keeps it", false), ("", "", false)] ∧
      ∀ s ∈ document.nodes, s.nullable = false := by
  intro blocks look target
  obtain ⟨hbefore, hfrom⟩ :
      ((assemble blocks).draft.resolve "3.0.3").toOption.map
        (fun resolved => (resolved.1.openapi, look resolved)) =
        some ("3.0.3", [("", "", false), ("", "who keeps it", true), (target, "", false)]) ∧
      ((assemble blocks).draft.resolve "3.1.0").toOption.map
        (fun resolved => (resolved.1.openapi, look resolved)) =
        some ("3.1.0", [("", "", false), ("", "", false), (target, "who keeps it", false),
          ("", "", false)]) := by
    dsimp only [blocks, look]
    rw [Block.ofComment_ofList]
    exact ⟨by decide +kernel, by decide +kernel⟩
  obtain ⟨document, warnings, hresolve, hlook⟩ := Draft.exists_resolved hbefore
  obtain ⟨document', warnings', hresolve', hlook'⟩ := Draft.exists_resolved hfrom
  obtain ⟨hversion, hnodes⟩ := Prod.ext_iff.mp hlook
  obtain ⟨hversion', hnodes'⟩ := Prod.ext_iff.mp hlook'
  refine ⟨⟨document, warnings, hresolve, hnodes, ?_⟩, document', warnings', hresolve', hnodes', ?_⟩
  · refine (dialects_kept_apart hresolve).1 ?_
    rw [isFrom31_iff, show document.openapi = "3.0.3" from hversion, dialects_told.1]
    decide
  · refine (dialects_kept_apart hresolve').2 ?_
    rw [isBefore31_iff, show document'.openapi = "3.1.0" from hversion', dialects_told.2]
    decide

end ApiDirectives
