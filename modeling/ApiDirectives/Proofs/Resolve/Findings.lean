import ApiDirectives.Proofs.Resolve.Yields
import ApiDirectives.Resolve.Document

/-!
# What the resolver finds, and where

The resolver notices things in three groups of functions. Types refer to schemas and find nothing;
those that read the values of constraints and those that wire security schemes report findings and
never a reference. For each of them it is stated once what it can notice and at which place.
-/

namespace ApiDirectives

open Resolution

/-- Causes that are found when the values of constraints are read. -/
def Cause.OnValue : Cause → Prop
  | .unreadableValue .. | .unreadableBound .. | .unreadableLength .. => True
  | _ => False

/-- Causes that are found when security schemes are wired. -/
def Cause.OnSecurity : Cause → Prop
  | .undeclaredScheme .. | .unknownFlow .. | .undeclaredRequirement .. => True
  | _ => False

/-- Causes that are found when the flow of a scheme is read. -/
def Cause.OnFlow : Cause → Prop
  | .unknownFlow .. => True
  | _ => False

theorem Cause.OnFlow.onSecurity {cause : Cause} (h : cause.OnFlow) : cause.OnSecurity := by
  cases cause <;> trivial

/-- A reference that is made at a place. -/
def Notice.RefersAt (location : Option Location) (n : Notice) : Prop :=
  ∃ name, n = .reference name location

/-- A finding at a place, with a cause of some kind. -/
def Notice.FoundAt (kind : Cause → Prop) (location : Option Location) (n : Notice) : Prop :=
  ∃ cause, kind cause ∧ n = .finding ⟨cause, location⟩

theorem Notice.FoundAt.mono {kind wider : Cause → Prop} {location : Option Location} {n : Notice}
    (h : n.FoundAt kind location) (hkind : ∀ cause, kind cause → wider cause) :
    n.FoundAt wider location := by
  obtain ⟨cause, hcause, rfl⟩ := h
  exact ⟨cause, hkind cause hcause, rfl⟩

theorem Resolution.only_report_foundAt {kind : Cause → Prop} {cause : Cause}
    {location : Option Location} (h : kind cause) :
    (report cause location).Only (Notice.FoundAt kind location) :=
  only_report ⟨cause, h, rfl⟩

/-! ## Types -/

section Types

variable (d : Dialect) (location : Option Location)

mutual

/-- Types notice references, at the place where they are written. -/
theorem TypeExpr.schema_only :
    (t : TypeExpr) → (t.schema d location).Only (Notice.RefersAt location)
  | .name n => by
    unfold TypeExpr.schema
    split
    · exact only_pure _
    · exact only_bind (yields_notice (by simp [Notice.RefersAt])) fun _ => only_pure _
  | .array items => by
    unfold TypeExpr.schema
    exact only_bind (TypeExpr.schema_only items) fun _ => only_pure _
  | .union members => by
    unfold TypeExpr.schema
    refine only_bind (TypeExpr.schemas_only members) fun ss => ?_
    unfold unionSchema
    split
    · exact yields_typeSets_bind fun _ => only_pure _
    · exact only_pure _

theorem TypeExpr.schemas_only :
    (ts : List TypeExpr) → (TypeExpr.schemas d location ts).Only (Notice.RefersAt location)
  | [] => only_pure _
  | t :: r => by
    unfold TypeExpr.schemas
    refine only_bind (TypeExpr.schema_only t) fun _ => ?_
    exact only_bind (TypeExpr.schemas_only r) fun _ => only_pure _

end

end Types

/-! ## Values of constraints -/

section Values

variable (s : Schema) (constraints : List (Constraint × String)) (location : Option Location)

theorem coercePrimitive_only (type text what : String) :
    (coercePrimitive type text what location).Only (Notice.FoundAt Cause.OnValue location) := by
  unfold coercePrimitive
  split
  · exact only_pure _
  · exact only_bind (only_report_foundAt trivial) fun _ => only_pure _

theorem ValueShape.coerce_only (what : String) (shape : ValueShape) (text : String) :
    (shape.coerce what location text).Only (Notice.FoundAt Cause.OnValue location) := by
  induction shape generalizing text with
  | leaf type => exact coercePrimitive_only location type text what
  | array items ih =>
    exact only_bind (only_each _ fun t _ => ih t) fun _ => only_pure _

theorem givenValue_only (c : Constraint) :
    (givenValue s constraints c location).Only (Notice.FoundAt Cause.OnValue location) := by
  unfold givenValue
  split
  · exact ValueShape.coerce_only location _ _ _
  · exact only_pure _

theorem enumValues_only :
    (enumValues s constraints location).Only (Notice.FoundAt Cause.OnValue location) := by
  unfold enumValues
  split
  · exact only_each _ fun t _ => ValueShape.coerce_only location _ _ t
  · exact only_pure _

theorem bound_only (type : String) (c : Constraint) :
    (bound type constraints c location).Only (Notice.FoundAt Cause.OnValue location) := by
  unfold bound
  split
  · exact only_pure _
  · dsimp only
    split
    · exact only_pure _
    · exact only_bind (only_report_foundAt trivial) fun _ => only_pure _

theorem length_only (c : Constraint) :
    (length constraints c location).Only (Notice.FoundAt Cause.OnValue location) := by
  unfold length
  split
  · exact only_pure _
  · split
    · exact only_pure _
    · exact only_bind (only_report_foundAt trivial) fun _ => only_pure _

/-- Reading constraints finds unreadable values, at the given place. -/
theorem siblings_only (description : String) :
    (siblings s constraints location description).Only
      (Notice.FoundAt Cause.OnValue location) := by
  unfold siblings
  refine only_bind (givenValue_only s constraints location .default) fun _ => ?_
  refine only_bind (givenValue_only s constraints location .sample) fun _ => ?_
  refine only_bind (enumValues_only s constraints location) fun _ => ?_
  refine only_bind (bound_only constraints location s.primaryType .min) fun _ => ?_
  refine only_bind (bound_only constraints location s.primaryType .max) fun _ => ?_
  refine only_bind (length_only constraints location .minLength) fun _ => ?_
  refine only_bind (length_only constraints location .maxLength) fun _ => ?_
  exact only_pure _

end Values

/-! ## Security -/

/-- A requirement finds an undeclared scheme, at the place of its operation. -/
theorem resolveRequirement_only (h : Header) (location : Location) (name : String) :
    (resolveRequirement h location name).Only
      (Notice.FoundAt Cause.OnSecurity (some location)) := by
  unfold resolveRequirement
  dsimp only
  split
  · exact only_bind (only_report_foundAt trivial) fun _ => only_pure _
  · exact only_pure _

theorem oauthFlows_only (flow url : String) (scopes : Table String String) (location : Location) :
    (oauthFlows flow url scopes location).Only (Notice.FoundAt Cause.OnFlow (some location)) := by
  unfold oauthFlows
  dsimp only
  split
  · exact only_pure _
  · exact only_pure _
  · exact only_pure _
  · exact only_pure _
  · exact only_bind (only_report_foundAt trivial) fun _ => only_pure _

/-- A scheme finds an unknown flow, at the place of its declaration. -/
theorem SchemeDraft.resolve_only (h : Header) (name : String) (s : SchemeDraft) :
    (s.resolve h name).Only (Notice.FoundAt Cause.OnFlow (some s.declaredAt)) := by
  unfold SchemeDraft.resolve
  dsimp only
  split
  · exact only_pure _
  · exact only_pure _
  · exact only_pure _
  · exact only_bind (oauthFlows_only _ _ _ _) fun _ => only_pure _

/-- Schemes are wired with findings where scopes or schemes are declared. -/
theorem resolveSchemes_only (h : Header) :
    (resolveSchemes h).Only fun n =>
      ∃ l ∈ h.scopeLocations.values ++ h.schemes.values.map (·.declaredAt),
        n.FoundAt Cause.OnSecurity (some l) := by
  unfold resolveSchemes
  refine only_bind (only_each _ ?_) fun _ => only_each _ ?_
  · rintro ⟨name, location⟩ hentry
    dsimp only
    split
    · refine (only_report_foundAt trivial).mono fun n hn => ⟨location, ?_, hn⟩
      exact List.mem_append_left _ (List.mem_map.mpr ⟨_, hentry, rfl⟩)
    · exact only_pure _
  · rintro ⟨name, s⟩ hentry
    refine only_bind ((SchemeDraft.resolve_only h name s).mono fun n hn => ?_) fun _ => only_pure _
    refine ⟨s.declaredAt, List.mem_append_right _ ?_, hn.mono fun _ => Cause.OnFlow.onSecurity⟩
    exact List.mem_map.mpr ⟨s, List.mem_map.mpr ⟨_, hentry, rfl⟩, rfl⟩

/-! ## From drafts to documents -/

/-- What holds of all findings among notices, and of what is reported of an undeclared name, holds of
all that notices come to. -/
theorem forall_mem_settle {Q : Diagnostic → Prop} (declared : List String) {ns : List Notice}
    (reported : List String) (hfinding : ∀ d, .finding d ∈ ns → Q d)
    (hreference : ∀ name location, .reference name location ∈ ns →
      Q ⟨.undeclaredSchema name, location⟩) :
    ∀ d ∈ (settle declared reported ns).1, Q d := by
  induction ns generalizing reported with
  | nil => simp [settle]
  | cons n ns ih =>
    have hrest := fun reported => ih reported (fun d hd => hfinding d (List.mem_cons_of_mem _ hd))
      fun name location hn => hreference name location (List.mem_cons_of_mem _ hn)
    cases n with
    | finding d =>
      exact List.forall_mem_cons.mpr ⟨hfinding d List.mem_cons_self, hrest reported⟩
    | reference name location =>
      unfold settle
      split
      · exact hrest reported
      · exact List.forall_mem_cons.mpr
          ⟨hreference name location List.mem_cons_self, hrest (name :: reported)⟩

/-- Resolving a draft collects what its resolution noticed. -/
theorem Draft.resolve_eq_ok {draft : Draft} {fallback : String} {document : Document}
    {warnings : List Diagnostic} (h : draft.resolve fallback = .ok (document, warnings)) :
    ∃ notices, draft.resolution fallback = .ok (document, notices) ∧
      warnings = (settle draft.models.keys [] notices).1 := by
  unfold Draft.resolve at h
  split at h
  · cases h
  · rename_i document' notices hresolution
    cases h
    exact ⟨notices, hresolution, rfl⟩

/-- A document has the version of its draft. -/
theorem Draft.resolution_openapi (draft : Draft) (fallback : String) :
    (draft.resolution fallback).Yields fun document _ =>
      document.openapi = draft.version fallback := by
  unfold Draft.resolution
  iterate 4 refine yields_bind (yields_true _) fun _ _ _ => ?_
  exact yields_pure rfl

/-- A draft of which something about the result can be told has a result. -/
theorem Draft.exists_resolved {γ : Type} {draft : Draft} {fallback : String}
    {f : Document × List Diagnostic → γ} {v : γ}
    (h : (draft.resolve fallback).toOption.map f = some v) :
    ∃ document warnings, draft.resolve fallback = .ok (document, warnings) ∧
      f (document, warnings) = v := by
  obtain ⟨⟨document, warnings⟩, hresolve, hlook⟩ := exists_ok_of_toOption h
  exact ⟨document, warnings, hresolve, hlook⟩

end ApiDirectives
