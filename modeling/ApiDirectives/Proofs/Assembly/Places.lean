import ApiDirectives.Proofs.Assembly.Models

/-!
# Places in an assembled draft

The assembly never makes up a place. Every location that a draft keeps, of a scheme, a scope, a
webhook, an operation, a model or a field, is that of a block or of the class that the block's field
belongs to, and so is the location of every finding. Stated for any set of places: if those of all
blocks are in it, then the draft is placed in it, and so are the findings.
-/

namespace ApiDirectives

/-- Findings have places, and all of them are in a set. -/
def Located (P : Location → Prop) (found : List Diagnostic) : Prop :=
  ∀ d ∈ found, ∃ l, d.location = some l ∧ P l

section Located

variable {P : Location → Prop}

theorem located_nil : Located P [] := by
  simp [Located]

theorem located_append {ds es : List Diagnostic} :
    Located P (ds ++ es) ↔ Located P ds ∧ Located P es := by
  simp only [Located, List.forall_mem_append]

theorem located_singleton {l : Location} (h : P l) (cause : Cause) :
    Located P [⟨cause, some l⟩] := by
  intro d hd
  rw [List.mem_singleton.mp hd]
  exact ⟨l, rfl, h⟩

theorem located_map {α : Type} {l : Location} (h : P l) (cause : α → Cause) (xs : List α) :
    Located P (xs.map fun x => ⟨cause x, some l⟩) := by
  intro d hd
  obtain ⟨x, _, rfl⟩ := List.mem_map.mp hd
  exact ⟨l, rfl, h⟩

end Located

/-! ## Placed drafts -/

/-- The schemes, the scopes and the webhooks of a header are placed in a set. -/
structure Header.Placed (P : Location → Prop) (h : Header) : Prop where
  schemes : ∀ s ∈ h.schemes.values, P s.declaredAt
  scopes : ∀ l ∈ h.scopeLocations.values, P l
  webhooks : ∀ w ∈ h.webhooks.values, P w.location

/-- A model and its fields are placed in a set. -/
structure ModelDraft.Placed (P : Location → Prop) (m : ModelDraft) : Prop where
  model : P m.location
  fields : ∀ f ∈ m.fields.values, P f.location

/-- Everything that a draft keeps the place of is placed in a set. -/
structure Draft.Placed (P : Location → Prop) (draft : Draft) : Prop where
  header : draft.header.Placed P
  operations : ∀ o ∈ draft.operations.values, P o.location
  models : ∀ m ∈ draft.models.values, m.Placed P

/-- The places of a block are in a set: its own, and that of the class its model is made at. -/
structure Block.Placed (P : Location → Prop) (b : Block) : Prop where
  own : P b.location
  model : P b.modelLocation

variable {P : Location → Prop}

/-! ## The header -/

namespace Header

theorem Placed.put_scheme {h : Header} (hh : h.Placed P) {s : SchemeDraft} (hs : P s.declaredAt)
    (name : String) : Placed P { h with schemes := h.schemes.put name s } := by
  refine ⟨?_, hh.scopes, hh.webhooks⟩
  intro t ht
  rcases Table.mem_values_put ht with rfl | hold
  · exact hs
  · exact hh.schemes t hold

theorem Placed.put_scope {h : Header} (hh : h.Placed P) {l : Location} (hl : P l) (scheme : String)
    (scopes : Table String (Table String String)) :
    Placed P { h with scopes, scopeLocations := h.scopeLocations.putNew scheme l } := by
  refine ⟨hh.schemes, ?_, hh.webhooks⟩
  intro k hk
  rcases Table.mem_values_putNew hk with rfl | hold
  · exact hl
  · exact hh.scopes k hold

theorem Placed.put_webhook {h : Header} (hh : h.Placed P) {w : WebhookDraft} (hw : P w.location)
    (name : String) : Placed P { h with webhooks := h.webhooks.put name w } := by
  refine ⟨hh.schemes, hh.scopes, ?_⟩
  intro v hv
  rcases Table.mem_values_put hv with rfl | hold
  · exact hw
  · exact hh.webhooks v hold

/-- A webhook stays where it was declared, whatever is added to it. -/
theorem Placed.adjust_webhook {h : Header} (hh : h.Placed P) {f : WebhookDraft → WebhookDraft}
    (hf : ∀ w, (f w).location = w.location) (name : String) :
    Placed P { h with webhooks := h.webhooks.adjust name f } := by
  refine ⟨hh.schemes, hh.scopes, ?_⟩
  intro v hv
  rcases Table.mem_values_adjust hv with hold | ⟨w, hw, rfl⟩
  · exact hh.webhooks v hold
  · rw [hf]
    exact hh.webhooks w hw

/-- While the directives of a block are merged, the header is placed and so are the findings. -/
structure Merge.Placed (P : Location → Prop) (m : Merge) : Prop where
  header : m.header.Placed P
  found : Located P m.diagnostics

variable {location : Location} {m : Merge}

theorem Merge.Placed.report (hm : m.Placed P) (hl : P location) (cause : Cause) :
    (m.report cause location).Placed P :=
  ⟨hm.header, located_append.mpr ⟨hm.found, located_singleton hl cause⟩⟩

theorem Merge.Placed.onWebhook (hm : m.Placed P) (hl : P location) (kind : Kind)
    {f : WebhookDraft → WebhookDraft} (hf : ∀ w, (f w).location = w.location) :
    (m.onWebhook location kind f).Placed P := by
  unfold Merge.onWebhook
  split
  · exact hm.report hl _
  · exact ⟨hm.header.adjust_webhook hf _, hm.found⟩

/-- One directive of a placed block keeps everything placed. -/
theorem Merge.Placed.step (hm : m.Placed P) (hl : P location) (d : Directive) :
    (Merge.step location m d).Placed P := by
  cases d with
  | security name type place description url => exact ⟨hm.header.put_scheme hl name, hm.found⟩
  | scope scheme name description => exact ⟨hm.header.put_scope hl scheme _, hm.found⟩
  | webhook name method description =>
    simp only [Merge.step, Merge.addWebhook]
    split
    · rename_i first _
      have hreport := hm.report hl (.duplicateWebhook name location first.location)
      exact ⟨hreport.header, hreport.found⟩
    · exact ⟨hm.header.put_webhook hl name, hm.found⟩
  | webhookBody payload => exact hm.onWebhook hl .webhookBody fun _ => rfl
  | webhookResponse reply => exact hm.onWebhook hl .webhookResponse fun _ => rfl
  -- The other directives say nothing that has a place.
  | _ => exact ⟨⟨hm.header.schemes, hm.header.scopes, hm.header.webhooks⟩, hm.found⟩

theorem merge_placed {h : Header} (hh : h.Placed P) (hl : P location) (remarks : List Remark) :
    (h.merge location remarks).1.Placed P ∧ Located P (h.merge location remarks).2 := by
  have fold : ∀ (ds : List Directive) (m : Merge), m.Placed P →
      (ds.foldl (Merge.step location) m).Placed P := by
    intro ds
    induction ds with
    | nil => intro m hm; exact hm
    | cons d ds ih => intro m hm; exact ih _ (hm.step hl d)
  have hmerged := fold (remarks.map (·.directive)) { header := h } ⟨hh, located_nil⟩
  exact ⟨hmerged.header, hmerged.found⟩

end Header

/-! ## Operations -/

namespace Operations

theorem addPart_location (o : OperationDraft) (d : Directive) :
    (addPart o d).location = o.location := by
  cases d <;> rfl

/-- An operation is placed where its block is. -/
theorem build_location (route : Route) (location : Location) (remarks : List Remark) :
    (build route location remarks).location = location := by
  have fold : ∀ (ds : List Directive) (o : OperationDraft),
      (ds.foldl addPart o).location = o.location := by
    intro ds
    induction ds with
    | nil => intro o; rfl
    | cons d ds ih => intro o; exact (ih _).trans (addPart_location o d)
  exact fold _ _

theorem merge_placed {operations : Operations} (ho : ∀ o ∈ operations.values, P o.location)
    {location : Location} (hl : P location) (declaration : String) (remarks : List Remark) :
    (∀ o ∈ (merge operations declaration location remarks).1.values, P o.location) ∧
      Located P (merge operations declaration location remarks).2 := by
  unfold merge
  split
  · exact ⟨ho, located_singleton hl _⟩
  · rename_i route raw extra _
    have hextra := located_map hl (fun e : Route × String => .extraRoute declaration e.2) extra
    dsimp only
    split
    · exact ⟨ho, located_append.mpr ⟨hextra, located_singleton hl _⟩⟩
    · refine ⟨?_, hextra⟩
      intro o hmem
      simp only [Table.values, List.map_append, List.map_cons, List.map_nil, List.mem_append,
        List.mem_singleton] at hmem
      rcases hmem with hold | rfl
      · exact ho o hold
      · rw [build_location]
        exact hl

end Operations

/-! ## Models -/

namespace Models

/-- Models are placed in a set, each with its fields. -/
def Placed (P : Location → Prop) (models : Models) : Prop :=
  ∀ m ∈ models.values, m.Placed P

/-- A change that keeps models placed can be made to a model that is there or is made for it. -/
theorem Placed.amend {models : Models} (hm : models.Placed P) {place : Location} (hp : P place)
    {f : ModelDraft → ModelDraft} (hf : ∀ m : ModelDraft, m.Placed P → (f m).Placed P)
    (name : String) : Placed P ((ensure models name place).adjust name f) := by
  have hensure : Placed P (ensure models name place) := by
    intro m hmem
    rcases Table.mem_values_putNew hmem with rfl | hold
    · exact ⟨hp, by simp [Table.values]⟩
    · exact hm m hold
  intro m hmem
  rcases Table.mem_values_adjust hmem with hold | ⟨n, hn, rfl⟩
  · exact hensure m hold
  · exact hf n (hensure n hn)

theorem addField_placed {location : Location} (hl : P location) (slot : Slot) {m : ModelDraft}
    (hm : m.Placed P) : (addField location slot m).Placed P := by
  refine ⟨hm.model, ?_⟩
  intro f hf
  rcases Table.mem_values_put hf with rfl | hold
  · exact hl
  · exact hm.fields f hold

theorem describe_placed (description : String) (parents : Option String) {m : ModelDraft}
    (hm : m.Placed P) : (describe description parents m).Placed P :=
  ⟨hm.model, hm.fields⟩

theorem apply_placed {models : Models} (hm : models.Placed P) {place location : Location}
    (hp : P place) (hl : P location) (name : String) (remarks : List Remark) :
    Placed P (apply models name place location remarks) := by
  refine apply_induction ?_ ?_ hm remarks
  · intro ms description parents hms
    exact hms.amend hp (fun _ => describe_placed description parents) name
  · intro ms slot hms
    exact hms.amend hp (fun _ => addField_placed hl slot) name

theorem merge_placed {models : Models} (hm : models.Placed P) {block : Block}
    (hb : block.Placed P) (rejected : List Location) (remarks : List Remark) :
    Placed P (merge models rejected block remarks).1 ∧
      Located P (merge models rejected block remarks).2.2 := by
  unfold merge
  dsimp only
  split
  · exact ⟨hm, located_nil⟩
  · split
    · exact ⟨hm, located_singleton hb.own _⟩
    · exact ⟨apply_placed hm hb.model hb.own _ remarks, located_map hb.own _ _⟩

end Models

/-! ## Runs -/

namespace Assembly

theorem mixed_placed {block : Block} (hb : block.Placed P) : Located P (mixed block) := by
  unfold mixed
  split
  · exact located_nil
  · exact located_singleton hb.own _

/-- A draft so far and its findings are placed in a set. -/
structure Placed (P : Location → Prop) (a : Assembly) : Prop where
  draft : a.draft.Placed P
  found : Located P a.diagnostics

/-- A placed block keeps everything placed. -/
theorem Placed.step {a : Assembly} (ha : a.Placed P) {block : Block} (hb : block.Placed P) :
    (a.step block).Placed P := by
  obtain ⟨⟨hheader, hoperations, hmodels⟩, hfound⟩ := ha
  have hmixed := mixed_placed hb
  cases h : block.role with
  | none =>
    rw [step_none h]
    exact ⟨⟨hheader, hoperations, hmodels⟩, hfound⟩
  | api =>
    rw [step_api h]
    obtain ⟨hmerged, hnew⟩ := Header.merge_placed hheader hb.own block.kept
    exact ⟨⟨hmerged, hoperations, hmodels⟩,
      located_append.mpr ⟨hfound, located_append.mpr ⟨hmixed, hnew⟩⟩⟩
  | operation =>
    rw [step_operation h]
    obtain ⟨hmerged, hnew⟩ :=
      Operations.merge_placed hoperations hb.own block.declaration block.kept
    exact ⟨⟨hheader, hmerged, hmodels⟩,
      located_append.mpr ⟨hfound, located_append.mpr ⟨hmixed, hnew⟩⟩⟩
  | schema =>
    rw [step_schema h]
    obtain ⟨hmerged, hnew⟩ := Models.merge_placed hmodels hb a.rejected block.kept
    exact ⟨⟨hheader, hoperations, hmerged⟩,
      located_append.mpr ⟨hfound, located_append.mpr ⟨hmixed, hnew⟩⟩⟩

end Assembly

/-- What is assembled from placed blocks is placed. -/
theorem assemble_placed {blocks : List Block} (hblocks : ∀ b ∈ blocks, b.Placed P) :
    (assemble blocks).Placed P := by
  induction blocks using assemble_induction with
  | nil => exact ⟨⟨⟨by simp [Table.values], by simp [Table.values], by simp [Table.values]⟩,
      by simp [Table.values], by simp [Table.values]⟩, located_nil⟩
  | step blocks block ih =>
    obtain ⟨hbefore, hlast⟩ := List.forall_mem_append.mp hblocks
    exact (ih hbefore).step (hlast block (List.mem_singleton_self block))

end ApiDirectives
