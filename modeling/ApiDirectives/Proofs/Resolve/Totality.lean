import ApiDirectives.Proofs.Resolve.Notes
import ApiDirectives.Proofs.Resolve.Types
import ApiDirectives.Proofs.Resolve.Version
import ApiDirectives.Proofs.Text.Blank

/-!
# When a draft resolves

Whatever a directive holds, its values are read without faults: what does not read is reported and
kept or left out. The one thing that can stop a resolution is the version, and only if its dialect is
asked for. Who asks is told by the draft alone: webhooks, a question mark, a union of primitive types,
and a reference with something beside it. So a draft resolves exactly if its version has a dialect or
nobody asks, and what it reports then are warnings.
-/

namespace ApiDirectives

open Resolution

/-! ## Reading values -/

section Values

variable (s : Schema) (constraints : List (Constraint × String)) (location : Option Location)

theorem coercePrimitive_returns (type text what : String) :
    (coercePrimitive type text what location).Returns := by
  unfold coercePrimitive
  split
  · exact returns_pure _
  · exact returns_bind (returns_report _ _) fun _ => returns_pure _

theorem ValueShape.coerce_returns (what : String) (shape : ValueShape) (text : String) :
    (shape.coerce what location text).Returns := by
  induction shape generalizing text with
  | leaf type => exact coercePrimitive_returns location type text what
  | array items ih =>
    exact returns_bind (returns_each_iff.mpr fun t _ => ih t) fun _ => returns_pure _

theorem givenValue_returns (c : Constraint) : (givenValue s constraints c location).Returns := by
  unfold givenValue
  split
  · exact ValueShape.coerce_returns location _ _ _
  · exact returns_pure _

theorem enumValues_returns : (enumValues s constraints location).Returns := by
  unfold enumValues
  split
  · exact returns_each_iff.mpr fun t _ => ValueShape.coerce_returns location _ _ t
  · exact returns_pure _

theorem bound_returns (type : String) (c : Constraint) :
    (bound type constraints c location).Returns := by
  unfold bound
  split
  · exact returns_pure _
  · dsimp only
    split
    · exact returns_pure _
    · exact returns_bind (returns_report _ _) fun _ => returns_pure _

theorem length_returns (c : Constraint) : (length constraints c location).Returns := by
  unfold length
  split
  · exact returns_pure _
  · split
    · exact returns_pure _
    · exact returns_bind (returns_report _ _) fun _ => returns_pure _

/-- Constraints can always be read. -/
theorem siblings_returns (description : String) :
    (siblings s constraints location description).Returns := by
  unfold siblings
  refine returns_bind (givenValue_returns s constraints location .default) fun _ => ?_
  refine returns_bind (givenValue_returns s constraints location .sample) fun _ => ?_
  refine returns_bind (enumValues_returns s constraints location) fun _ => ?_
  refine returns_bind (bound_returns constraints location s.primaryType .min) fun _ => ?_
  refine returns_bind (bound_returns constraints location s.primaryType .max) fun _ => ?_
  refine returns_bind (length_returns constraints location .minLength) fun _ => ?_
  refine returns_bind (length_returns constraints location .maxLength) fun _ => ?_
  exact returns_pure _

end Values

/-! ## What stands beside a reference -/

/-- Whether a text for a constraint leaves something beside a reference, which has no type: every text
is a value, bounds are numbers, and empty texts are nothing. -/
def Constraint.tells (c : Constraint) (text : String) : Bool :=
  match c with
  | .enum => true
  | .min | .max => (readFinite text).isSome
  | .minLength | .maxLength => (readWhole text).isSome
  | .default | .sample | .format | .pattern => text != ""

/-- Whether a constraint is given and tells something. -/
def Constraint.isTold (constraints : List (Constraint × String)) (c : Constraint) : Bool :=
  (constraint? constraints c).any c.tells

/-- Whether something is left beside a reference. -/
def tellsAnything (constraints : List (Constraint × String)) (description : String) : Bool :=
  description != "" || Constraint.all.any (Constraint.isTold constraints)

section Reference

variable (name : String) (constraints : List (Constraint × String)) (location : Option Location)

theorem givenValue_reference {c : Constraint} (hc : c = .default ∨ c = .sample) :
    (givenValue (Schema.reference name) constraints c location).Yields fun v _ =>
      v.isVoid = !c.isTold constraints := by
  have htells : c.tells = (· != "") := by
    rcases hc with rfl | rfl <;> rfl
  unfold givenValue Constraint.isTold
  rw [htells]
  cases constraint? constraints c with
  | none => exact yields_pure rfl
  | some text => exact yields_pure (by simp [Value.isVoid, bne])

/-- An enumeration has a member, an empty one if nothing else. -/
theorem enumValues_isEmpty (s : Schema) :
    (enumValues s constraints location).Yields fun vs _ =>
      vs.isEmpty = !Constraint.isTold constraints .enum := by
  unfold enumValues Constraint.isTold
  cases constraint? constraints .enum with
  | none => exact yields_pure rfl
  | some text =>
    refine (yields_each_length _ _).mono ?_
    intro vs _ hlength
    have hpieces : commaPieces text ≠ [] := by
      simpa [commaPieces, Text.piecesOf] using Text.piecesFrom_ne_nil ',' [] text.toList
    cases vs with
    | nil => exact absurd (List.length_eq_zero_iff.mp hlength.symm) hpieces
    | cons v vs => rfl

theorem bound_reference {c : Constraint} (hc : c = .min ∨ c = .max) :
    (bound "" constraints c location).Yields fun b _ =>
      b.length = none ∧ b.number.isNone = !c.isTold constraints := by
  have htells : c.tells = fun text => (readFinite text).isSome := by
    rcases hc with rfl | rfl <;> rfl
  unfold bound Constraint.isTold
  rw [htells]
  cases constraint? constraints c with
  | none => exact yields_pure ⟨rfl, rfl⟩
  | some text =>
    dsimp only
    rw [if_neg (by decide)]
    cases hread : readFinite text with
    | some x => exact yields_pure ⟨rfl, by simp [hread]⟩
    | none => exact yields_bind (yields_true _) fun _ _ _ => yields_pure ⟨rfl, by simp [hread]⟩

theorem length_isNone {c : Constraint} (hc : c = .minLength ∨ c = .maxLength) :
    (length constraints c location).Yields fun l _ => l.isNone = !c.isTold constraints := by
  have htells : c.tells = fun text => (readWhole text).isSome := by
    rcases hc with rfl | rfl <;> rfl
  unfold length Constraint.isTold
  rw [htells]
  cases constraint? constraints c with
  | none => exact yields_pure rfl
  | some text =>
    dsimp only
    cases hread : readWhole text with
    | some n => exact yields_pure (by simp [hread])
    | none => exact yields_bind (yields_true _) fun _ _ _ => yields_pure (by simp [hread])

/-- Something is left beside a reference exactly if the description or a constraint tells something. -/
theorem siblings_reference (description : String) :
    (siblings (Schema.reference name) constraints location description).Yields fun u _ =>
      u.isEmpty = !tellsAnything constraints description := by
  unfold siblings
  refine yields_bind (givenValue_reference name constraints location (.inl rfl)) ?_
  intro defaultValue _ hdefault
  refine yields_bind (givenValue_reference name constraints location (.inr rfl)) ?_
  intro exampleValue _ hsample
  refine yields_bind (enumValues_isEmpty constraints location _) ?_
  intro enum _ henum
  refine yields_bind (bound_reference constraints location (.inl rfl)) ?_
  rintro lower _ ⟨hlower, hmin⟩
  refine yields_bind (bound_reference constraints location (.inr rfl)) ?_
  rintro upper _ ⟨hupper, hmax⟩
  refine yields_bind (length_isNone constraints location (.inl rfl)) ?_
  intro minLength _ hminLength
  refine yields_bind (length_isNone constraints location (.inr rfl)) ?_
  intro maxLength _ hmaxLength
  refine yields_pure ?_
  have htext : ∀ c : Constraint, c.tells = (· != "") →
      ((constraint? constraints c).getD "" == "") = !c.isTold constraints := by
    intro c htells
    rw [Constraint.isTold, htells]
    cases constraint? constraints c <;> simp [bne]
  -- Beside a reference no bound is read as a length, so lengths come from their own constraints.
  have hminimum : (minLength <|> lower.length).isNone = !Constraint.isTold constraints .minLength := by
    rw [hlower, ← hminLength]
    cases minLength <;> rfl
  have hmaximum : (maxLength <|> upper.length).isNone = !Constraint.isTold constraints .maxLength := by
    rw [hupper, ← hmaxLength]
    cases maxLength <;> rfl
  have hdescription : (description == "") = !description != "" := by
    simp [bne]
  simp only [Siblings.isEmpty, tellsAnything, Constraint.all, List.any_cons, List.any_nil,
    htext .format rfl, htext .pattern rfl, hdefault, hsample, henum, hmin, hmax, hminimum, hmaximum,
    hdescription, Bool.not_or, Bool.not_false, Bool.and_true]
  ac_rfl

end Reference

/-! ## Who asks for the dialect -/

section Asking

variable {d : Dialect}

theorem withSiblings_returns_iff {s : Schema} {u : Siblings} :
    (s.withSiblings d u).Returns ↔ (∃ b, d = .ok b) ∨ u.isEmpty = true ∨ s.ref = "" := by
  unfold Schema.withSiblings
  split
  · rename_i hempty
    exact ⟨fun _ => .inr (.inl hempty), fun _ => returns_pure _⟩
  · rename_i hsiblings
    split
    · rename_i href
      exact ⟨fun _ => .inr (.inr (by simpa using href)), fun _ => returns_pure _⟩
    · rename_i href
      rw [returns_bind_left_iff fun _ => returns_pure _, returns_typeSets_iff]
      simp_all

/-- A question mark always asks. -/
theorem makeNullable_returns_iff {s : Schema} :
    (s.makeNullable d).Returns ↔ ∃ b, d = .ok b := by
  unfold Schema.makeNullable
  constructor
  · intro h
    obtain ⟨b, ns, hb, _⟩ := returns_bind_iff.mp h
    exact returns_typeSets_iff.mp ⟨b, ns, hb⟩
  · intro hd
    refine returns_bind (returns_typeSets_iff.mpr hd) fun typeSets => ?_
    split
    · exact withSiblings_returns_iff.mpr (.inl hd)
    · split
      · exact returns_pure _
      · split <;> exact returns_pure _

/-- What is written beside a type asks if the type is a reference and something is left. -/
theorem constrain_returns_iff (hd : ¬ ∃ b, d = .ok b) {t : TypeExpr} {s : Schema}
    {location : Option Location} {ns : List Notice} (h : t.schema d location = .ok (s, ns))
    (constraints : List (Constraint × String)) (description : String) :
    (s.constrain d constraints location description).Returns ↔
      (t.target?.isSome && tellsAnything constraints description) = false := by
  obtain ⟨u, ms, hu⟩ := siblings_returns s constraints location description
  have hlast : (s.constrain d constraints location description).Returns ↔
      u.isEmpty = true ∨ s.ref = "" := by
    unfold Schema.constrain
    rw [returns_bind_iff, hu]
    constructor
    · rintro ⟨u', ms', heq, hreturns⟩
      cases heq
      exact (withSiblings_returns_iff.mp hreturns).resolve_left hd
    · exact fun hlast => ⟨u, ms, rfl, withSiblings_returns_iff.mpr (.inr hlast)⟩
  rw [hlast]
  -- Only a reference can ask, and what is beside one is read without a type.
  rcases t.schema_target s ns h with ⟨name, htarget, rfl⟩ | ⟨htarget, href⟩
  · have hempty := siblings_reference name constraints location description u ms hu
    have href : (Schema.reference name).ref ≠ "" := by
      simp [Schema.reference, Schema.refBase]
    simp [htarget, hempty, href]
  · simp [htarget, href]

/-- Whether a slot asks for the dialect. -/
def slotAsks (type : String) (constraints : List (Constraint × String)) (description : String)
    (nullable : Bool) : Bool :=
  (TypeExpr.ofString type).primitives?.isSome
    || ((TypeExpr.ofString type).target?.isSome && tellsAnything constraints description)
    || nullable

theorem resolveSlot_returns_iff (type : String) (constraints : List (Constraint × String))
    (description : String) (nullable : Bool) (location : Location) :
    (resolveSlot d type constraints description nullable location).Returns ↔
      (∃ b, d = .ok b) ∨ slotAsks type constraints description nullable = false := by
  have htype : (resolveType d type (some location)).Returns ↔
      (∃ b, d = .ok b) ∨ (TypeExpr.ofString type).primitives? = none :=
    TypeExpr.returns_schema_iff (TypeExpr.isWritten_ofString type)
  unfold resolveSlot
  -- With a dialect nothing can fail. Without one each of the three stages fails if it asks.
  by_cases hd : ∃ b, d = .ok b
  · refine iff_of_true ?_ (.inl hd)
    refine returns_bind (htype.mpr (.inl hd)) fun s => ?_
    refine returns_bind ?_ fun t => ?_
    · refine returns_bind (siblings_returns s constraints (some location) description) fun u => ?_
      exact withSiblings_returns_iff.mpr (.inl hd)
    · split
      · exact makeNullable_returns_iff.mpr hd
      · exact returns_pure _
  · simp only [hd, false_or, slotAsks, Bool.or_eq_false_iff] at htype ⊢
    rw [returns_bind_iff]
    constructor
    · rintro ⟨s, ns, hs, hrest⟩
      obtain ⟨t, ms, ht, hlast⟩ := returns_bind_iff.mp hrest
      refine ⟨⟨?_, ?_⟩, ?_⟩
      · rw [htype.mp ⟨s, ns, hs⟩]
        rfl
      · exact (constrain_returns_iff hd hs constraints description).mp ⟨t, ms, ht⟩
      · by_contra hnullable
        rw [Bool.not_eq_false] at hnullable
        rw [if_pos hnullable] at hlast
        exact hd (makeNullable_returns_iff.mp hlast)
    · rintro ⟨⟨hprimitives, hsiblings⟩, rfl⟩
      obtain ⟨s, ns, hs⟩ := htype.mpr (by simpa using hprimitives)
      refine ⟨s, ns, hs, ?_⟩
      refine returns_bind ?_ fun t => returns_pure _
      exact (constrain_returns_iff hd hs constraints description).mpr hsiblings

/-- A bound beside a reference asks if it is a number. -/
example : slotAsks "Pet" [(.min, "few")] "" false = false ∧ slotAsks "Pet" [(.min, "1")] "" false = true := by
  decide +kernel

/-- Whether a part asks for the dialect. -/
def Part.asks : Part → Bool
  | .slot type constraints description nullable _ => slotAsks type constraints description nullable
  | .written type _ => (TypeExpr.ofString type).primitives?.isSome
  | .webhooks _ => true
  | .schemes | .requirement .. => false

/-- Whether some part of a draft asks for the dialect. -/
def Draft.asks (draft : Draft) : Bool :=
  draft.parts.any Part.asks

end Asking

/-! ## Schemes -/

theorem oauthFlows_returns (flow url : String) (scopes : Table String String)
    (location : Location) : (oauthFlows flow url scopes location).Returns := by
  unfold oauthFlows
  dsimp only
  split
  · exact returns_pure _
  · exact returns_pure _
  · exact returns_pure _
  · exact returns_pure _
  · exact returns_bind (returns_report _ _) fun _ => returns_pure _

theorem SchemeDraft.resolve_returns (h : Header) (name : String) (s : SchemeDraft) :
    (s.resolve h name).Returns := by
  unfold SchemeDraft.resolve
  dsimp only
  split
  · exact returns_pure _
  · exact returns_pure _
  · exact returns_pure _
  · exact returns_bind (oauthFlows_returns _ _ _ _) fun _ => returns_pure _

theorem resolveSchemes_returns (h : Header) : (resolveSchemes h).Returns := by
  unfold resolveSchemes
  refine returns_bind (returns_each_iff.mpr ?_) fun _ => returns_each_iff.mpr ?_
  · rintro ⟨name, location⟩ _
    dsimp only
    split
    · exact returns_report _ _
    · exact returns_pure _
  · rintro ⟨name, s⟩ _
    exact returns_bind (SchemeDraft.resolve_returns h name s) fun _ => returns_pure _

theorem resolveRequirement_returns (h : Header) (location : Location) (name : String) :
    (resolveRequirement h location name).Returns := by
  unfold resolveRequirement
  dsimp only
  split
  · exact returns_bind (returns_report _ _) fun _ => returns_pure _
  · exact returns_pure _

theorem checkWebhooks_returns_iff {e : Setting} {first : Location} :
    (checkWebhooks e first).Returns ↔ ∃ b, e.dialect = .ok b := by
  unfold checkWebhooks
  rw [returns_bind_left_iff, returns_typeSets_iff]
  intro typeSets
  split
  · exact returns_report _ _
  · exact returns_pure _

/-! ## Parts -/

/-- A part resolves exactly if there is a dialect or it does not ask. -/
theorem Part.returns_iff (e : Setting) (p : Part) :
    (p.resolve e).Returns ↔ (∃ b, e.dialect = .ok b) ∨ p.asks = false := by
  cases p with
  | schemes =>
    refine iff_of_true ?_ (.inr rfl)
    exact returns_bind (resolveSchemes_returns e.header) fun _ => returns_pure _
  | slot type constraints description nullable location =>
    rw [Part.resolve, returns_bind_left_iff fun _ => returns_pure _, resolveSlot_returns_iff]
    rfl
  | written type location =>
    rw [Part.resolve, returns_bind_left_iff fun _ => returns_pure _, resolveType,
      TypeExpr.returns_schema_iff (TypeExpr.isWritten_ofString type)]
    simp [Part.asks]
  | requirement name location =>
    refine iff_of_true ?_ (.inr rfl)
    exact returns_bind (resolveRequirement_returns e.header location name) fun _ => returns_pure _
  | webhooks first =>
    rw [Part.resolve, returns_bind_left_iff fun _ => returns_pure _, checkWebhooks_returns_iff]
    simp [Part.asks]

/-! ## Warnings -/

/-- A reference or a warning. -/
def Notice.IsMild (n : Notice) : Prop :=
  ∀ d, n = .finding d → d.severity = .warning

theorem Notice.FoundAt.isMild {kind : Cause → Prop} {location : Option Location} {n : Notice}
    (h : n.FoundAt kind location) (hkind : ∀ cause, kind cause → cause.severity = .warning) :
    n.IsMild := by
  obtain ⟨cause, hcause, rfl⟩ := h
  intro d hd
  cases hd
  exact hkind cause hcause

theorem Cause.OnValue.severity {cause : Cause} (h : cause.OnValue) : cause.severity = .warning := by
  cases cause <;> first | rfl | cases h

theorem Cause.OnSecurity.severity {cause : Cause} (h : cause.OnSecurity) :
    cause.severity = .warning := by
  cases cause <;> first | rfl | cases h

/-- What a part notices is a reference or a warning. -/
theorem Part.resolve_mild (e : Setting) (p : Part) : (p.resolve e).Only Notice.IsMild := by
  refine (p.resolve_only e).mono fun n hn => ?_
  have hreference : ∀ location, n.RefersAt location → n.IsMild := by
    rintro location ⟨name, rfl⟩ d hd
    cases hd
  cases p with
  | schemes =>
    obtain ⟨_, _, hfound⟩ := hn
    exact hfound.isMild fun _ => Cause.OnSecurity.severity
  | slot type constraints description nullable location =>
    rcases hn with href | hfound
    · exact hreference _ href
    · exact hfound.isMild fun _ => Cause.OnValue.severity
  | written type location => exact hreference _ hn
  | requirement name location => exact Notice.FoundAt.isMild hn fun _ => Cause.OnSecurity.severity
  | webhooks first =>
    cases hn
    rintro d ⟨⟩
    rfl

/-- Mild notices become warnings. -/
theorem settle_warnings (declared : List String) {ns : List Notice} (reported : List String)
    (h : ∀ n ∈ ns, n.IsMild) : ∀ d ∈ (settle declared reported ns).1, d.severity = .warning :=
  forall_mem_settle declared reported (fun d hd => h _ hd d rfl) fun _ _ _ => rfl

/-! ## Drafts -/

theorem Draft.resolve_returns_iff {draft : Draft} {fallback : String} :
    (∃ document warnings, draft.resolve fallback = .ok (document, warnings)) ↔
      (draft.resolution fallback).Returns := by
  unfold Draft.resolve Returns
  cases draft.resolution fallback with
  | error e => simp
  | ok resolved => exact iff_of_true ⟨_, _, rfl⟩ ⟨resolved.1, resolved.2, rfl⟩

/-- A draft resolves exactly if the parts of its version that tell the dialect are decimal and not too
long, or nothing in it asks for the dialect; and then all that is reported are warnings. -/
theorem resolves_iff_version_readable (blocks : List Block) (fallback : String) :
    let draft := (assemble blocks).draft
    ((∃ document warnings, draft.resolve fallback = .ok (document, warnings)) ↔
      (∀ part ∈ dialectParts (draft.version fallback), IsDecimalPart part) ∨ draft.asks = false) ∧
    ∀ document warnings, draft.resolve fallback = .ok (document, warnings) →
      ∀ w ∈ warnings, w.severity = .warning := by
  intro draft
  have hperforms := Draft.resolution_performs (assemble_operations_wellFormed blocks) fallback
  refine ⟨?_, ?_⟩
  · rw [Draft.resolve_returns_iff, hperforms.returns_iff, ← dialect_readable_iff]
    simp only [Part.returns_iff]
    by_cases hd : ∃ b, Dialect.of (draft.version fallback) = .ok b
    · exact iff_of_true (fun p _ => .inl hd) (.inl hd)
    · have hdialect : ¬ ∃ b, (draft.setting fallback).dialect = .ok b := hd
      simp only [draft, hd, false_or, Draft.asks, List.any_eq_false, Bool.not_eq_true] at hdialect ⊢
      simp only [hdialect, false_or]
  · intro document warnings h
    obtain ⟨notices, hresolution, rfl⟩ := Draft.resolve_eq_ok h
    obtain ⟨_, _, _, hnotices⟩ := hperforms.of_ok hresolution
    refine settle_warnings _ _ fun n hn => ?_
    obtain ⟨p, _, a, ns, hp, hmem⟩ := (hnotices n).mp hn
    exact p.resolve_mild _ a ns hp n hmem

/-- A version that nobody asks about may be anything; a bound that is no number is a warning. -/
theorem resolves_iff_version_readable_at_unasked :
    let blocks := [Block.ofComment "!api 3.²" "" .module ⟨"a.py", 1⟩,
      Block.ofComment "!GET /a -> x\n!query n:int min=few" "x" .function ⟨"a.py", 3⟩]
    ∃ document warnings, (assemble blocks).draft.resolve = .ok (document, warnings) ∧
      document.openapi = "3.²" ∧ warnings.map (·.message) = ["min value 'few' is not a number; ignored"] ∧
      ∀ w ∈ warnings, w.severity = .warning := by
  intro blocks
  obtain ⟨hasks, hlook⟩ :
      (assemble blocks).draft.asks = false ∧
      ((assemble blocks).draft.resolve).toOption.map
        (fun resolved => (resolved.1.openapi, resolved.2.map (·.message))) =
        some ("3.²", ["min value 'few' is not a number; ignored"]) := by
    dsimp only [blocks]
    rw [Block.ofComment_ofList, Block.ofComment_ofList]
    exact ⟨by decide +kernel, by decide +kernel⟩
  obtain ⟨hreturns, hwarnings⟩ := resolves_iff_version_readable blocks defaultVersion
  obtain ⟨document, warnings, hresolve⟩ := hreturns.mpr (.inr hasks)
  rw [hresolve] at hlook
  obtain ⟨hopenapi, hmessages⟩ := Prod.ext_iff.mp (Option.some.inj hlook)
  exact ⟨document, warnings, hresolve, hopenapi, hmessages, hwarnings document warnings hresolve⟩

/-- A version with a superscript, in a draft with a webhook, stops the resolution. -/
theorem superscript_version_stops_resolution :
    let blocks := [Block.ofComment "!api 3.²\n!webhook w:put" "" .module ⟨"a.py", 1⟩]
    (assemble blocks).draft.resolve = .error (.notNumber "²") := by
  intro blocks
  have hfault : (match (assemble blocks).draft.resolve with
      | .error e => some e
      | .ok _ => none) = some (.notNumber "²") := by
    decide +kernel
  cases hresolve : (assemble blocks).draft.resolve with
  | error e =>
    rw [hresolve] at hfault
    rw [Option.some.inj hfault]
  | ok resolved =>
    rw [hresolve] at hfault
    cases hfault

end ApiDirectives
