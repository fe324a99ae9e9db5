import ApiDirectives.Format.Basic
import ApiDirectives.Proofs.Format.Json
import ApiDirectives.Proofs.Resolve.Coercion
import ApiDirectives.Proofs.Resolve.Parts

/-!
# Only finite numbers reach a document

The words for infinite and undefined numbers read as doubles, and so does a decimal that is too large
for one. The reader of values and bounds refuses what is not finite, and every number of a document
comes through it: as a default or an example, in an enumeration, at any depth of a list, or as a bound.
So all numbers at all nodes of a document are finite, and its JSON text has no word for another one
outside of its strings.
-/

namespace ApiDirectives

open Resolution Schema

/-! ## What is read -/

theorem finite_of_readFinite {text : String} {x : Number} (h : readFinite text = some x) :
    x.isFinite = true := by
  have hof := isOf_of_readFinite h
  cases x with
  | int n => rfl
  | float x => simpa [Number.value, Value.isOf, Number.isFinite] using hof

theorem Value.finite_of_isOf {type : String} {v : Value} (h : v.isOf type = true) : v.Finite := by
  cases v with
  | float x =>
    have hboth : type = "number" ∧ x.isFinite = true := by simpa [isOf] using h
    exact (finite_float x).mpr hboth.2
  | int n => exact finite_int n
  | bool b => exact finite_bool b
  | _ => cases h

mutual

/-- A value that accounts for a text has finite numbers only. -/
theorem Accounts.finite {s : Schema} {text : String} {v : Value} {left : List (String × String)} :
    Accounts s text v left → v.Finite
  | .converted _ _ hof => Value.finite_of_isOf hof
  | .kept _ _ => Value.finite_str text
  | .untouched _ _ => Value.finite_str text
  | .elements _ _ heach => (Value.finite_list _).mpr heach.finite

theorem AccountsEach.finite {s : Schema} {texts : List String} {vs : List Value}
    {left : List (String × String)} : AccountsEach s texts vs left → ∀ v ∈ vs, v.Finite
  | .nil => List.forall_mem_nil _
  | .cons hfirst hrest => List.forall_mem_cons.mpr ⟨hfirst.finite, hrest.finite⟩

end

section Constraints

variable (s : Schema) (constraints : List (Constraint × String)) (location : Option Location)

theorem coerce_finite (text what : String) :
    (s.coerce text what location).Yields fun v _ => v.Finite := by
  intro v ns hv
  obtain ⟨v', left, hv', haccounts⟩ := coerce_accounts what location s text
  rw [hv] at hv'
  cases hv'
  exact haccounts.finite

theorem givenValue_finite (c : Constraint) :
    (givenValue s constraints c location).Yields fun v _ => v.Finite := by
  unfold givenValue
  split
  · exact coerce_finite s location _ _
  · exact yields_pure Value.finite_null

theorem enumValues_finite :
    (enumValues s constraints location).Yields fun vs _ => ∀ v ∈ vs, v.Finite := by
  unfold enumValues
  split
  · exact yields_each_forall _ fun text _ => coerce_finite s location text "enum"
  · exact yields_pure (List.forall_mem_nil _)

theorem bound_finite (type : String) (c : Constraint) :
    (bound type constraints c location).Yields fun b _ => ∀ x ∈ b.number, x.isFinite = true := by
  unfold bound
  split
  · exact yields_pure (by simp)
  · dsimp only
    split
    · rename_i text _ b hread
      refine yields_pure fun x hx => ?_
      split at hread
      · -- The bound of a text is a length.
        obtain ⟨n, _, rfl⟩ := Option.map_eq_some_iff.mp hread
        cases hx
      · obtain ⟨y, hy, rfl⟩ := Option.map_eq_some_iff.mp hread
        cases hx
        exact finite_of_readFinite hy
    · exact yields_bind (yields_true _) fun _ _ _ => yields_pure (by simp)

end Constraints

/-! ## Siblings -/

/-- The numbers in some siblings are finite. -/
structure Siblings.Finite (u : Siblings) : Prop where
  default : u.defaultValue.Finite
  sample : u.exampleValue.Finite
  enum : ∀ v ∈ u.enum, v.Finite
  lower : ∀ b ∈ u.minimum, b.isFinite = true
  upper : ∀ b ∈ u.maximum, b.isFinite = true

theorem Siblings.ReadFrom.finite {s : Schema} {constraints : List (Constraint × String)}
    {location : Option Location} {u : Siblings} (h : u.ReadFrom s constraints location) :
    u.Finite where
  default := by
    obtain ⟨ns, hdefault⟩ := h.default
    exact givenValue_finite s constraints location .default _ _ hdefault
  sample := by
    obtain ⟨ns, hsample⟩ := h.sample
    exact givenValue_finite s constraints location .sample _ _ hsample
  enum := by
    obtain ⟨ns, henum⟩ := h.enum
    exact enumValues_finite s constraints location _ _ henum
  lower := by
    obtain ⟨b, ns, hlower, hminimum⟩ := h.lower
    exact hminimum ▸ bound_finite constraints location _ .min _ _ hlower
  upper := by
    obtain ⟨b, ns, hupper, hmaximum⟩ := h.upper
    exact hmaximum ▸ bound_finite constraints location _ .max _ _ hupper

namespace Schema

theorem finite_bounds_iff {s : Schema} :
    (∀ b ∈ s.bounds, b.isFinite = true) ↔
      (∀ b ∈ s.minimum, b.isFinite = true) ∧ ∀ b ∈ s.maximum, b.isFinite = true := by
  simp [bounds, or_imp, forall_and]

/-- A node without numbers. -/
theorem finite_of_plain {s : Schema} (hdefault : s.defaultValue = .null)
    (hsample : s.exampleValue = .null) (henum : s.enum = []) (hminimum : s.minimum = none)
    (hmaximum : s.maximum = none) : s.Finite where
  default := by simp [hdefault]
  sample := by simp [hsample]
  enum := by simp [henum]
  bounds := by simp [bounds, hminimum, hmaximum]

theorem finite_orValue {new old : Value} (hnew : new.Finite) (hold : old.Finite) :
    (orValue new old).Finite := by
  unfold orValue
  split
  · exact hold
  · exact hnew

theorem finite_orElse {new old : Option Number} (hnew : ∀ b ∈ new, b.isFinite = true)
    (hold : ∀ b ∈ old, b.isFinite = true) : ∀ b ∈ (new <|> old), b.isFinite = true := by
  cases new with
  | none => simpa using hold
  | some b => simpa using hnew

theorem finite_overlay {s : Schema} (hs : s.Finite) {u : Siblings} (hu : u.Finite) :
    (s.overlay u).Finite where
  default := finite_orValue hu.default hs.default
  sample := finite_orValue hu.sample hs.sample
  enum := by
    unfold overlay
    dsimp only
    split
    · exact hs.enum
    · exact hu.enum
  bounds := by
    obtain ⟨hminimum, hmaximum⟩ := finite_bounds_iff.mp hs.bounds
    exact finite_bounds_iff.mpr
      ⟨finite_orElse hu.lower hminimum, finite_orElse hu.upper hmaximum⟩

/-- Siblings over a node or over its wrapper leave the numbers everywhere finite. -/
theorem finite_of_overlaid {s t : Schema} (hs : s.Everywhere Schema.Finite) {u : Siblings}
    (hu : u.Finite) (ht : t = s.overlay u ∨ t = Schema.overlay { allOf := [s] } u) :
    t.Everywhere Schema.Finite := by
  have hover : ∀ r : Schema, r.Everywhere Schema.Finite → (r.overlay u).Everywhere Schema.Finite := by
    intro r hr
    obtain ⟨hown, hchildren⟩ := everywhere_iff.mp hr
    exact everywhere_iff.mpr ⟨finite_overlay hown hu, hchildren⟩
  rcases ht with rfl | rfl
  · exact hover s hs
  · refine hover _ (everywhere_allOf_iff.mpr ⟨?_, List.forall_mem_singleton.mpr hs⟩)
    exact finite_of_plain rfl rfl rfl rfl rfl

theorem IsOfType.finite {d : Dialect} {s : Schema} (h : s.IsOfType d) : s.Finite := by
  cases h with
  | @primitives typeSets hd members =>
    unfold primitiveUnion
    dsimp only
    split <;> exact finite_of_plain rfl rfl rfl rfl rfl
  | _ => exact finite_of_plain rfl rfl rfl rfl rfl

theorem IsFrame.finite {s : Schema} (h : s.IsFrame) : s.Finite := by
  cases h with
  | object properties required description => exact finite_of_plain rfl rfl rfl rfl rfl
  | combined parts description => exact finite_of_plain rfl rfl rfl rfl rfl

end Schema

/-! ## Parts of a draft -/

section Parts

variable (d : Dialect)

theorem resolveType_finite (type : String) (location : Option Location) :
    (resolveType d type location).Yields fun s _ => s.Everywhere Schema.Finite :=
  TypeExpr.schema_everywhere d location (fun _ h => h.finite) _

theorem makeNullable_finite {s : Schema} (hs : s.Everywhere Schema.Finite) :
    (s.makeNullable d).Yields fun t _ => t.Everywhere Schema.Finite := by
  have hflag : Siblings.Finite { nullable := true } := by
    constructor <;> simp
  have hnull : ({ type := ["null"] } : Schema).Everywhere Schema.Finite :=
    everywhere_of_leaf (finite_of_plain rfl rfl rfl rfl rfl) rfl
  unfold Schema.makeNullable
  refine yields_typeSets_bind fun typeSets => ?_
  split
  · exact (withSiblings_overlay s d _).mono fun t _ ht => finite_of_overlaid hs hflag ht
  · split
    · refine yields_pure (everywhere_oneOf_iff.mpr ⟨?_, ?_⟩)
      · exact finite_of_plain rfl rfl rfl rfl rfl
      · simp [hs, hnull]
    · split
      · exact yields_pure hs
      · obtain ⟨hown, hchildren⟩ := everywhere_iff.mp hs
        refine yields_pure (everywhere_iff.mpr ⟨?_, hchildren⟩)
        exact ⟨hown.default, hown.sample, hown.enum, hown.bounds⟩

theorem resolveSlot_finite (type : String) (constraints : List (Constraint × String))
    (description : String) (nullable : Bool) (location : Location) :
    (resolveSlot d type constraints description nullable location).Yields fun s _ =>
      s.Everywhere Schema.Finite := by
  unfold resolveSlot
  refine yields_bind (resolveType_finite d type (some location)) fun s _ hs => ?_
  refine yields_bind (constrain_overlay s constraints (some location) description d) ?_
  rintro t _ ⟨u, hread, ht⟩
  have hfinite := finite_of_overlaid hs hread.finite ht
  split
  · exact makeNullable_finite d hfinite
  · exact yields_pure hfinite

/-- What a part gives has finite numbers everywhere. -/
theorem Part.resolve_finite (e : Setting) (p : Part) :
    (p.resolve e).Yields fun ss _ => ∀ s ∈ ss, s.Everywhere Schema.Finite :=
  p.resolve_everywhere e (resolveSlot_finite e.dialect)
    fun type location => resolveType_finite e.dialect type (some location)

end Parts

/-! ## Bodies -/

section Bodies

variable (d : Dialect) (location : Location)

/-- No body has an example beside its schema. -/
def Unexemplified (ms : List MediaType) : Prop :=
  ∀ m ∈ ms, m.exampleValue = .null

theorem resolveBody_unexemplified (body : Option Payload) :
    (resolveBody d location body).Yields fun b _ =>
      Unexemplified (b.toList.flatMap (·.content.values)) := by
  cases body with
  | none => exact yields_pure (by simp [Unexemplified])
  | some p =>
    refine yields_bind (Q := fun b _ => Unexemplified b.content.values) ?_ fun b _ hb => ?_
    · exact yields_bind (yields_true _) fun s _ _ => yields_pure (List.forall_mem_singleton.mpr rfl)
    · exact yields_pure (by simpa using hb)

theorem resolveReplies_unexemplified (replies : Table String Reply) :
    (resolveReplies d location replies).Yields fun responses _ =>
      Unexemplified (responses.values.flatMap (·.content.values)) := by
  have hreply : ∀ r : Reply, (r.resolve d location).Yields fun response _ =>
      Unexemplified response.content.values := by
    intro r
    unfold Reply.resolve
    dsimp only
    split
    · exact yields_pure (List.forall_mem_nil _)
    · exact yields_bind (yields_true _) fun s _ _ => yields_pure (List.forall_mem_singleton.mpr rfl)
  refine (yields_each_forall (P := fun entry => Unexemplified entry.2.content.values)
    replies ?_).mono ?_
  · exact fun entry _ => yields_bind (hreply entry.2) fun response _ hr => yields_pure hr
  · intro responses _ hall
    exact List.forall_mem_flatMap.mpr (List.forall_mem_map.mpr hall)

theorem OperationDraft.resolve_unexemplified (h : Header) (o : OperationDraft) :
    (o.resolve d h).Yields fun operation _ => Unexemplified operation.contents := by
  unfold OperationDraft.resolve
  refine yields_bind (yields_true _) fun parameters _ _ => ?_
  refine yields_bind (resolveBody_unexemplified d o.location o.body) fun requestBody _ hbody => ?_
  refine yields_bind (resolveReplies_unexemplified d o.location o.responses) ?_
  intro responses _ hresponses
  refine yields_bind (yields_true _) fun security _ _ => ?_
  exact yields_pure (List.forall_mem_append.mpr ⟨hbody, hresponses⟩)

theorem WebhookDraft.resolve_unexemplified (w : WebhookDraft) :
    (w.resolve d).Yields fun operation _ => Unexemplified operation.contents := by
  unfold WebhookDraft.resolve
  refine yields_bind (resolveBody_unexemplified d w.location w.body) fun requestBody _ hbody => ?_
  refine yields_bind (resolveReplies_unexemplified d w.location w.responses) ?_
  intro responses _ hresponses
  exact yields_pure (List.forall_mem_append.mpr ⟨hbody, hresponses⟩)

theorem resolveWebhooks_unexemplified (e : Setting) (webhooks : Table String WebhookDraft) :
    (resolveWebhooks e.dialect e.version webhooks).Yields fun items _ =>
      Unexemplified (pathContents items) := by
  have hitem : ∀ entry : String × WebhookDraft, Yields (do
      let o ← WebhookDraft.resolve e.dialect entry.2
      return (entry.1, PathItem.withOperation {} o entry.2.method)) fun item _ =>
        Unexemplified (item.2.operations.flatMap (·.2.contents)) := by
    intro entry
    refine yields_bind (entry.2.resolve_unexemplified e.dialect) fun o _ ho => yields_pure ?_
    dsimp only
    rw [PathItem.operations_withOperation_empty]
    simpa using ho
  cases webhooks with
  | nil => exact yields_pure (List.forall_mem_nil _)
  | cons entry rest =>
    rw [resolveWebhooks_cons]
    refine yields_bind (yields_true _) fun _ _ _ => ?_
    refine (yields_each_forall _ fun entry _ => hitem entry).mono fun items _ hall => ?_
    exact List.forall_mem_flatMap.mpr (List.forall_mem_map.mpr hall)

theorem pathContents_eq (paths : Table String PathItem) :
    pathContents paths = (pathOperations paths).flatMap (·.2.2.contents) := by
  simp only [pathContents, pathOperations, Table.values, List.flatMap_map, List.flatMap_assoc]

theorem resolveOperations_unexemplified (h : Header) (operations : Operations) :
    (resolveOperations d h operations).Yields fun resolved _ =>
      Unexemplified (resolved.flatMap (·.2.2.contents)) := by
  refine (yields_each_forall (P := fun entry => Unexemplified entry.2.2.contents)
    operations ?_).mono ?_
  · exact fun entry _ => yields_bind (entry.2.resolve_unexemplified d h) fun o _ ho => yields_pure ho
  · exact fun resolved _ hall => List.forall_mem_flatMap.mpr hall

theorem Draft.resolution_unexemplified {draft : Draft} (hdraft : draft.operations.WellFormed)
    (fallback : String) :
    (draft.resolution fallback).Yields fun document _ => Unexemplified document.contents := by
  unfold Draft.resolution
  refine yields_bind (yields_true _) fun securitySchemes _ _ => ?_
  refine yields_bind
    ((resolveOperations_yields _ _ _).and (resolveOperations_unexemplified _ _ _)) ?_
  rintro resolved _ ⟨hids, hplain⟩
  refine yields_bind (resolveWebhooks_unexemplified (draft.setting fallback) _) ?_
  intro webhooks _ hwebhooks
  refine yields_bind (yields_true _) fun schemas _ _ => yields_pure ?_
  refine List.forall_mem_append.mpr ⟨?_, hwebhooks⟩
  intro m hm
  rw [pathContents_eq] at hm
  exact hplain m (((hdraft.groupPaths_perm hids).flatMap_right _).mem_iff.mp hm)

end Bodies

/-! ## Documents -/

/-- Only finite numbers reach a document: at every node, at any depth, those of the default, the
example, the enumeration and the bounds are finite, so that its JSON text has no word for another number
outside of quotes. -/
theorem only_finite_numbers {blocks : List Block} {fallback : String} {document : Document}
    {warnings : List Diagnostic}
    (h : (assemble blocks).draft.resolve fallback = .ok (document, warnings)) :
    (∀ s ∈ document.nodes, s.Finite) ∧
      ∀ width, ¬ Json.HasBareWord "NaN" (document.text .json width) ∧
        ¬ Json.HasBareWord "Infinity" (document.text .json width) := by
  obtain ⟨notices, hresolution, _⟩ := Draft.resolve_eq_ok h
  have hdraft := assemble_operations_wellFormed blocks
  have hnodes := (Draft.forall_nodes_iff hdraft hresolution fun t ht => ht.finite).mpr
    fun p _ s hs => (p.resolve_finite _).of_gives hs
  have hcontents : ∀ m ∈ document.contents, m.exampleValue.Finite := by
    intro m hm
    rw [Draft.resolution_unexemplified hdraft fallback _ _ hresolution m hm]
    exact Value.finite_null
  have hwritten := Document.finite_written hnodes hcontents
  refine ⟨hnodes, fun width => ⟨?_, ?_⟩⟩
  · have hword : 'N' ∈ "NaN".toList ∨ 'I' ∈ "NaN".toList := by decide
    exact Json.not_hasBareWord_text hwritten width hword
  · have hword : 'N' ∈ "Infinity".toList ∨ 'I' ∈ "Infinity".toList := by decide
    exact Json.not_hasBareWord_text hwritten width hword

/-- Words for numbers that are not finite, and decimals too large for a double, where numbers belong: in
a default or an enumeration they stay text, and a bound that is one of them is left out. -/
theorem only_finite_numbers_at_other_words :
    let blocks := [Block.ofComment ("!model\n!field low:number default=NaN min=-Infinity max=2.5 "
      ++ "enum=nan,infinity,2.5\n!field all:number[] default=1e999,2.5")
      "Scale" .classBody ⟨"api.py", 9⟩ none]
    let numbers := fun s : Schema => (s.defaultValue.doubles ++ doublesIn s.enum, s.bounds)
    let half := Binary64.finite false 5629499534213120 (-51)
    ∃ document warnings, (assemble blocks).draft.resolve "3.0.3" = .ok (document, warnings) ∧
      document.nodes.map numbers = [([], []), ([half], [.float half]), ([half], []), ([], [])] ∧
      (∀ s ∈ document.nodes, s.Finite) ∧ ¬ Json.HasBareWord "NaN" (document.text .json 0) ∧
      ¬ Json.HasBareWord "Infinity" (document.text .json 0) := by
  intro blocks numbers half
  have hlook : ((assemble blocks).draft.resolve "3.0.3").toOption.map (fun resolved =>
      resolved.1.nodes.map numbers) =
        some [([], []), ([half], [.float half]), ([half], []), ([], [])] := by
    dsimp only [blocks]
    rw [← String.ofList_append, Block.ofComment_ofList]
    decide +kernel
  obtain ⟨document, warnings, hresolve, hnumbers⟩ := Draft.exists_resolved hlook
  obtain ⟨hnodes, hwords⟩ := only_finite_numbers hresolve
  exact ⟨document, warnings, hresolve, hnumbers, hnodes, (hwords 0).1, (hwords 0).2⟩

end ApiDirectives
