import ApiDirectives.Proofs.Resolve.Parts
import ApiDirectives.Proofs.Resolve.References

/-!
# What the parts of a draft notice

A draft is resolved part by part, so what is noticed while it is resolved is what its parts notice, one
after another: `Draft.noted_eq`. `Part.Notes` says what a part can notice, and where. Statements on
everything that a resolution reports, on how bad it is or where it is placed, are read off it.
-/

namespace ApiDirectives

open Resolution

/-- What a part can notice: references and unreadable values at the place of a type, gaps between
schemes, scopes and requirements where these are declared, and webhooks in a version that has none. -/
def Part.Notes (e : Setting) : Part → Notice → Prop
  | .schemes, n =>
    ∃ l ∈ e.header.scopeLocations.values ++ e.header.schemes.values.map (·.declaredAt),
      n.FoundAt Cause.OnSecurity (some l)
  | .slot _ _ _ _ location, n =>
    n.RefersAt (some location) ∨ n.FoundAt Cause.OnValue (some location)
  | .written _ location, n => n.RefersAt (some location)
  | .requirement _ location, n => n.FoundAt Cause.OnSecurity (some location)
  | .webhooks first, n => n = .finding ⟨.webhooksTooNew e.version, some first⟩

theorem resolveSlot_only (d : Dialect) (type : String) (constraints : List (Constraint × String))
    (description : String) (nullable : Bool) (location : Location) :
    (resolveSlot d type constraints description nullable location).Only fun n =>
      n.RefersAt (some location) ∨ n.FoundAt Cause.OnValue (some location) := by
  unfold resolveSlot Schema.constrain
  have htype := TypeExpr.schema_only d (some location) (TypeExpr.ofString type)
  refine only_bind (htype.mono fun n hn => .inl hn) fun s => ?_
  refine only_bind (only_bind ?_ fun u => ?_) fun t => ?_
  · exact (siblings_only s constraints (some location) description).mono fun n hn => .inr hn
  · exact (withSiblings_yields d s u).mono fun _ _ h => by simp [h.1]
  · split
    · exact (makeNullable_yields d t).mono fun _ _ h => by simp [h.1]
    · exact only_pure _

/-- A part notices nothing else. -/
theorem Part.resolve_only (e : Setting) (p : Part) : (p.resolve e).Only (p.Notes e) := by
  cases p with
  | schemes => exact only_bind (resolveSchemes_only e.header) fun _ => only_pure _
  | slot type constraints description nullable location =>
    exact only_bind (resolveSlot_only e.dialect type constraints description nullable location)
      fun _ => only_pure _
  | written type location =>
    exact only_bind (TypeExpr.schema_only e.dialect (some location) _) fun _ => only_pure _
  | requirement name location =>
    exact only_bind (resolveRequirement_only e.header location name) fun _ => only_pure _
  | webhooks first =>
    refine only_bind (yields_typeSets_bind fun typeSets => ?_) fun _ => only_pure _
    split
    · exact only_report rfl
    · exact only_pure _

/-- A resolution notices what the parts of the draft notice, in their order. -/
theorem Draft.noted_eq {draft : Draft} (hdraft : draft.operations.WellFormed) {fallback : String}
    {document : Document} {ns : List Notice}
    (h : draft.resolution fallback = .ok (document, ns)) :
    ns = draft.parts.flatMap fun p => (p.resolve (draft.setting fallback)).noted :=
  (Draft.resolution_performs hdraft fallback).noted_eq h

/-- What a resolution notices, some part of the draft notices. -/
theorem Draft.notes_of_mem {draft : Draft} (hdraft : draft.operations.WellFormed)
    {fallback : String} {document : Document} {ns : List Notice}
    (h : draft.resolution fallback = .ok (document, ns)) {n : Notice} (hn : n ∈ ns) :
    ∃ p ∈ draft.parts, p.Notes (draft.setting fallback) n := by
  rw [Draft.noted_eq hdraft h] at hn
  obtain ⟨p, hp, hmem⟩ := List.mem_flatMap.mp hn
  exact ⟨p, hp, (p.resolve_only _).noted (by simp) n hmem⟩

end ApiDirectives
