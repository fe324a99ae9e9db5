import ApiDirectives.Proofs.Assembly.Run
import ApiDirectives.Proofs.Table
import Mathlib.Data.Finset.Card

/-!
# Models of an assembled draft

A schema block either builds on the model of its class, or loses the name to a class at another place,
or belongs to a class that lost it before: `Assembly.Claimed`. From this it follows that the first
class of a name owns it. Its model is the one that the blocks of that class build by themselves
(`Models.built`), whatever stands between them, and every other class of the name is reported once.
-/

namespace ApiDirectives

/-! ## What one block builds -/

namespace Models

/-- A model as the directives of a block change it: the first model directive describes it, and each
field directive adds a field. -/
def amend (location : Location) (remarks : List Remark) (m : ModelDraft) : ModelDraft :=
  let described := match modelRemarks remarks with
    | [] => m
    | (description, parents, _) :: _ => describe description parents m
  (fieldSlots remarks).foldl (fun m slot => addField location slot m) described

/-- The model that the blocks of one class build, in order; none if there is no block. -/
def built (name : String) (place : Location) (blocks : List Block) : Option ModelDraft :=
  blocks.foldl (fun m block =>
    some (amend block.location block.kept (m.getD { name, location := place }))) none

/-- What a description of a model keeps and a field of it keeps is kept by a block. -/
theorem apply_induction {P : Models → Prop} {name : String} {place location : Location}
    (described : ∀ ms description parents, P ms →
      P ((ensure ms name place).adjust name (describe description parents)))
    (added : ∀ ms slot, P ms → P ((ensure ms name place).adjust name (addField location slot)))
    {models : Models} (h : P models) (remarks : List Remark) :
    P (apply models name place location remarks) := by
  have fold : ∀ (slots : List Slot) (ms : Models), P ms →
      P (slots.foldl (fun ms slot =>
        (ensure ms name place).adjust name (addField location slot)) ms) := by
    intro slots
    induction slots with
    | nil => intro ms hms; exact hms
    | cons slot slots ih => intro ms hms; exact ih _ (added ms slot hms)
  unfold apply
  refine fold _ _ ?_
  split
  · exact h
  · exact described models _ _ h

theorem get?_adjust_ensure (models : Models) (name : String) (place : Location)
    (f : ModelDraft → ModelDraft) (k : String) :
    ((ensure models name place).adjust name f).get? k =
      if name = k then some (f ((models.get? name).getD { name, location := place }))
      else models.get? k := by
  rw [Table.get?_adjust, ensure, Table.get?_putNew]
  by_cases hk : name = k
  · simp [hk]
  · simp [hk]

/-- Fields are added to the model of their name and to no other. -/
theorem get?_foldl_addField (name : String) (place location : Location) (slots : List Slot)
    (models : Models) (k : String) :
    Table.get? (slots.foldl (fun ms slot =>
        (ensure ms name place).adjust name (addField location slot)) models) k =
      if name = k ∧ slots ≠ [] then
        some (slots.foldl (fun m slot => addField location slot m)
          ((models.get? name).getD { name, location := place }))
      else models.get? k := by
  induction slots generalizing models with
  | nil => simp
  | cons slot slots ih =>
    rw [List.foldl_cons, ih, get?_adjust_ensure, get?_adjust_ensure]
    by_cases hk : name = k
    · cases slots <;> simp [hk]
    · simp [hk]

/-- A block with a schema directive amends the model of its name, made at the block's place if there
was none, and touches no other. -/
theorem get?_apply {remarks : List Remark} (h : modelRemarks remarks ≠ [] ∨ fieldSlots remarks ≠ [])
    (models : Models) (name : String) (place location : Location) (k : String) :
    (apply models name place location remarks).get? k =
      if name = k then
        some (amend location remarks ((models.get? name).getD { name, location := place }))
      else models.get? k := by
  unfold apply amend
  dsimp only
  rw [get?_foldl_addField]
  cases hmodel : modelRemarks remarks with
  | nil =>
    -- Without a model directive it is the fields that make the model.
    have hslots : fieldSlots remarks ≠ [] := h.resolve_left (not_not.mpr hmodel)
    simp [hslots]
  | cons head more =>
    obtain ⟨description, parents, raw⟩ := head
    dsimp only
    rw [get?_adjust_ensure, get?_adjust_ensure]
    by_cases hk : name = k
    · by_cases hslots : fieldSlots remarks = [] <;> simp [hk, hslots]
    · simp [hk]

theorem addField_location (location : Location) (slot : Slot) (m : ModelDraft) :
    (addField location slot m).location = m.location := rfl

/-- A model stays where its class is. -/
theorem amend_location (location : Location) (remarks : List Remark) (m : ModelDraft) :
    (amend location remarks m).location = m.location := by
  have fold : ∀ (slots : List Slot) (m : ModelDraft),
      (slots.foldl (fun m slot => addField location slot m) m).location = m.location := by
    intro slots
    induction slots with
    | nil => intro m; rfl
    | cons slot slots ih =>
      intro m
      rw [List.foldl_cons, ih, addField_location]
  unfold amend
  dsimp only
  rw [fold]
  split <;> rfl

theorem built_append_singleton (name : String) (place : Location) (blocks : List Block)
    (block : Block) :
    built name place (blocks ++ [block]) =
      some (amend block.location block.kept
        ((built name place blocks).getD { name, location := place })) := by
  simp only [built, List.foldl_append, List.foldl_cons, List.foldl_nil]

/-- What a class builds is placed at the class. -/
theorem built_location {name : String} {place : Location} {blocks : List Block} {m : ModelDraft}
    (h : built name place blocks = some m) : m.location = place := by
  induction blocks using List.reverseRecOn generalizing m with
  | nil => cases h
  | append_singleton blocks block ih =>
    rw [built_append_singleton] at h
    cases h
    rw [amend_location]
    cases hbuilt : built name place blocks with
    | none => rfl
    | some m => exact ih hbuilt

theorem built_ne_none {name : String} {place : Location} {blocks : List Block} (h : blocks ≠ []) :
    built name place blocks ≠ none := by
  induction blocks using List.reverseRecOn with
  | nil => exact absurd rfl h
  | append_singleton blocks block _ => simp [built_append_singleton]

end Models

/-- A schema block has a schema directive of its own. -/
theorem Block.kept_of_role_schema {block : Block} (h : block.role = .schema) :
    Models.modelRemarks block.kept ≠ [] ∨ Models.fieldSlots block.kept ≠ [] := by
  cases hremarks : block.remarks with
  | nil => simp [role, hremarks] at h
  | cons r rest =>
    have hrole : r.role = .schema := by simpa [role, hremarks] using h
    have hkept : r ∈ block.kept := by
      simp [kept, hremarks, hrole, h]
    obtain ⟨raw, d⟩ := r
    cases d with
    | model description parents =>
      left
      exact List.ne_nil_of_mem (List.mem_filterMap.mpr ⟨_, hkept, rfl⟩)
    | field slot =>
      right
      exact List.ne_nil_of_mem (List.mem_filterMap.mpr ⟨_, hkept, rfl⟩)
    | parameter place slot => cases place <;> cases hrole
    | _ => cases hrole

/-! ## One block -/

/-- The cause that a class lost the name of its model to an earlier one. -/
def Cause.duplicates (name : String) : Cause → Bool
  | .duplicateModel other _ _ => other = name
  | _ => false

theorem Cause.scope_of_duplicates {name : String} (c : Cause) (h : c.duplicates name = true) :
    c.scope = .schema := by
  cases c <;> first | rfl | cases h

@[simp]
theorem findings_duplicates_mixed (name : String) (block : Block) :
    findings (Cause.duplicates name) (Assembly.mixed block) = [] :=
  findings_mixed (fun _ _ _ => rfl) block

namespace Assembly

/-- What a schema block can do. Its class lost the name before, and the block is passed over; or the
name belongs to a class at another place, so that the class loses it now, which is the only duplicate
reported; or the class has the name, and the block builds on its model. -/
inductive Claimed (a : Assembly) (block : Block) : Assembly → Prop
  | ignored {found : List Diagnostic} :
      block.modelLocation ∈ a.rejected →
      (∀ name, findings (Cause.duplicates name) found = []) →
      Claimed a block { a with diagnostics := a.diagnostics ++ found }
  | lost {first : ModelDraft} {found : List Diagnostic} :
      block.modelLocation ∉ a.rejected →
      a.draft.models.get? block.modelName = some first → first.location ≠ block.modelLocation →
      (∀ name, (findings (Cause.duplicates name) found).length =
        if block.modelName = name then 1 else 0) →
      Claimed a block
        { a with
          rejected := a.rejected ++ [block.modelLocation]
          diagnostics := a.diagnostics ++ found }
  | built {found : List Diagnostic} :
      block.modelLocation ∉ a.rejected →
      (∀ m, a.draft.models.get? block.modelName = some m → m.location = block.modelLocation) →
      (∀ name, findings (Cause.duplicates name) found = []) →
      Claimed a block
        { a with
          draft := { a.draft with
            models := Models.apply a.draft.models block.modelName block.modelLocation
              block.location block.kept }
          diagnostics := a.diagnostics ++ found }

variable {a : Assembly} {block : Block}

/-- A schema block has no fourth outcome. -/
theorem step_claimed (h : block.role = .schema) : Claimed a block (a.step block) := by
  rw [step_schema h]
  unfold Models.merge
  dsimp only
  by_cases hrejected : block.modelLocation ∈ a.rejected
  · rw [if_pos (List.contains_iff_mem.mpr hrejected)]
    exact .ignored hrejected (by simp)
  · rw [if_neg (mt List.contains_iff_mem.mp hrejected)]
    cases hfirst : (a.draft.models.get? block.modelName).filter
        (·.location ≠ block.modelLocation) with
    | some first =>
      obtain ⟨hget, hplace⟩ := Option.filter_eq_some_iff.mp hfirst
      refine .lost hrejected hget (of_decide_eq_true hplace) ?_
      intro name
      rw [findings_append, findings_duplicates_mixed]
      by_cases hname : block.modelName = name <;> simp [findings, Cause.duplicates, hname]
    | none =>
      -- Either there is no model of the name yet, or it is at this very place.
      refine .built hrejected ?_ ?_
      · intro m hm
        simpa [hm] using hfirst
      · intro name
        rw [findings_append, findings_duplicates_mixed, findings_map fun _ => rfl]
        rfl

/-- Blocks of other roles leave models alone and report no duplicates of them. -/
theorem step_of_role_ne_schema (h : block.role ≠ .schema) (name : String) :
    (a.step block).draft.models = a.draft.models ∧ (a.step block).rejected = a.rejected ∧
      findings (Cause.duplicates name) (a.step block).diagnostics =
        findings (Cause.duplicates name) a.diagnostics := by
  have hkept : (a.step block).draft.models = a.draft.models ∧
      (a.step block).rejected = a.rejected := by
    cases hrole : block.role with
    | none => simp [step_none hrole]
    | api => simp [step_api hrole]
    | operation => simp [step_operation hrole]
    | schema => exact absurd hrole h
  refine ⟨hkept.1, hkept.2, ?_⟩
  obtain ⟨found, hfound, hwithin⟩ := step_diagnostics_scope a block
  rw [hfound, findings_append, findings_eq_nil_of_within Cause.scope_of_duplicates hwithin h,
    List.append_nil]

end Assembly

/-! ## Ownership of a name -/

/-- Whether a block is about a model of this name. -/
def Block.describes (b : Block) (name : String) : Bool :=
  b.role = .schema && b.modelName = name

/-- Whether a block is about the model of the class at a place. -/
def Block.describesAt (b : Block) (name : String) (place : Location) : Bool :=
  b.describes name && b.modelLocation = place

theorem Block.describesAt_of_find? {blocks : List Block} {name : String} {first : Block}
    (h : blocks.find? (·.describes name) = some first) :
    first ∈ blocks ∧ first.describesAt name first.modelLocation = true := by
  have hdescribes := List.find?_some h
  exact ⟨List.mem_of_find?_eq_some h, by simp [describesAt, hdescribes]⟩

theorem Block.filter_describesAt_append {name : String} {place : Location} {blocks : List Block}
    {block : Block} (h : block.describesAt name place = false) :
    (blocks ++ [block]).filter (·.describesAt name place) =
      blocks.filter (·.describesAt name place) := by
  simp [List.filter_append, h]

/-- The places of the classes of a name, one left out. -/
def rivals (name : String) (place : Location) (blocks : List Block) : Finset Location :=
  ((blocks.filter (·.describes name)).map (·.modelLocation)).toFinset.erase place

theorem mem_rivals {name : String} {place l : Location} {blocks : List Block} :
    l ∈ rivals name place blocks ↔
      l ≠ place ∧ ∃ b ∈ blocks, b.describes name = true ∧ b.modelLocation = l := by
  simp [rivals, and_assoc]

/-- A block adds the place of its class, if this is another class of the name. -/
theorem rivals_append_singleton (name : String) (place : Location) (blocks : List Block)
    (block : Block) :
    rivals name place (blocks ++ [block]) =
      if block.describes name = true ∧ block.modelLocation ≠ place then
        insert block.modelLocation (rivals name place blocks)
      else rivals name place blocks := by
  ext l
  split
  · rename_i hrival
    rw [Finset.mem_insert, mem_rivals, mem_rivals]
    constructor
    · rintro ⟨hl, b, hb, hdescribes, rfl⟩
      rcases List.mem_append.mp hb with hold | hnew
      · exact .inr ⟨hl, b, hold, hdescribes, rfl⟩
      · exact .inl (by rw [List.mem_singleton.mp hnew])
    · rintro (rfl | ⟨hl, b, hb, hdescribes, rfl⟩)
      · exact ⟨hrival.2, block, List.mem_append_right _ List.mem_cons_self, hrival.1, rfl⟩
      · exact ⟨hl, b, List.mem_append_left _ hb, hdescribes, rfl⟩
  · rename_i hrival
    rw [mem_rivals, mem_rivals]
    constructor
    · rintro ⟨hl, b, hb, hdescribes, rfl⟩
      rcases List.mem_append.mp hb with hold | hnew
      · exact ⟨hl, b, hold, hdescribes, rfl⟩
      · rw [List.mem_singleton.mp hnew] at hdescribes hl
        exact absurd ⟨hdescribes, hl⟩ hrival
    · rintro ⟨hl, b, hb, hdescribes, rfl⟩
      exact ⟨hl, b, List.mem_append_left _ hb, hdescribes, rfl⟩

/-- The place of a model tells its name. -/
def PlacesTellNames (blocks : List Block) : Prop :=
  ∀ b ∈ blocks, ∀ c ∈ blocks, b.role = .schema → c.role = .schema →
    b.modelLocation = c.modelLocation → b.modelName = c.modelName

instance (blocks : List Block) : Decidable (PlacesTellNames blocks) :=
  inferInstanceAs (Decidable (∀ b ∈ blocks, ∀ c ∈ blocks, b.role = .schema → c.role = .schema →
    b.modelLocation = c.modelLocation → b.modelName = c.modelName))

theorem PlacesTellNames.of_subset {blocks part : List Block} (h : PlacesTellNames blocks)
    (hsub : part ⊆ blocks) : PlacesTellNames part := by
  intro b hb c hc
  exact h b (hsub hb) c (hsub hc)

/-- The state of a name that belongs to the class at a place. Its model is built from the blocks of
that class. Its rivals, and of its classes only they, lost the name, and each of them is one
duplicate. -/
structure Assembly.Owned (name : String) (place : Location) (blocks : List Block) (a : Assembly) :
    Prop where
  model : a.draft.models.get? name =
    Models.built name place (blocks.filter (·.describesAt name place))
  rivals_lost : ∀ l ∈ rivals name place blocks, l ∈ a.rejected
  lost : ∀ l ∈ a.rejected, ∃ b ∈ blocks, b.role = .schema ∧ b.modelLocation = l ∧
    b.describesAt name place = false
  duplicates : (findings (Cause.duplicates name) a.diagnostics).length =
    (rivals name place blocks).card

namespace Assembly.Owned

variable {name : String} {place : Location} {blocks : List Block} {a : Assembly} {block : Block}

/-- Classes that lost their names are still there after a further block. -/
theorem lost_append (h : Owned name place blocks a) (block : Block) :
    ∀ l ∈ a.rejected, ∃ b ∈ blocks ++ [block], b.role = .schema ∧ b.modelLocation = l ∧
      b.describesAt name place = false := by
  intro l hl
  obtain ⟨b, hb, hclass⟩ := h.lost l hl
  exact ⟨b, List.mem_append_left _ hb, hclass⟩

/-- A class that loses its name is that of the block. -/
theorem lost_append_place (h : Owned name place blocks a) (hrole : block.role = .schema)
    (hat : block.describesAt name place = false) :
    ∀ l ∈ a.rejected ++ [block.modelLocation], ∃ b ∈ blocks ++ [block], b.role = .schema ∧
      b.modelLocation = l ∧ b.describesAt name place = false := by
  intro l hl
  rcases List.mem_append.mp hl with hold | hnew
  · exact h.lost_append block l hold
  · exact ⟨block, by simp, hrole, (List.mem_singleton.mp hnew).symm, hat⟩

/-- A block that is not the owner's, brings no new rival and changes nothing can be passed over. -/
theorem keep (h : Owned name place blocks a) {after : Assembly}
    (hat : block.describesAt name place = false)
    (hrivals : rivals name place (blocks ++ [block]) = rivals name place blocks)
    (hmodel : after.draft.models.get? name = a.draft.models.get? name)
    (hrejected : after.rejected = a.rejected)
    (hfound : findings (Cause.duplicates name) after.diagnostics =
      findings (Cause.duplicates name) a.diagnostics) :
    Owned name place (blocks ++ [block]) after := by
  refine ⟨?_, ?_, ?_, ?_⟩
  · rw [hmodel, Block.filter_describesAt_append hat]
    exact h.model
  · rw [hrejected, hrivals]
    exact h.rivals_lost
  · rw [hrejected]
    exact h.lost_append block
  · rw [hfound, hrivals]
    exact h.duplicates

/-- A block of another name leaves the model alone. Its class may lose its own name. -/
theorem step_other (h : Owned name place blocks a) (hblock : block.describes name = false) :
    Owned name place (blocks ++ [block]) (a.step block) := by
  have hat : block.describesAt name place = false := by simp [Block.describesAt, hblock]
  have hrivals : rivals name place (blocks ++ [block]) = rivals name place blocks := by
    simp [rivals_append_singleton, hblock]
  by_cases hrole : block.role = .schema
  · have hname : block.modelName ≠ name := by
      simpa [Block.describes, hrole] using hblock
    have hclaimed := step_claimed (a := a) hrole
    generalize a.step block = after at hclaimed ⊢
    cases hclaimed with
    | ignored _ hfound =>
      exact h.keep hat hrivals rfl rfl (by rw [findings_append, hfound, List.append_nil])
    | lost _ _ _ hfound =>
      refine ⟨?_, ?_, h.lost_append_place hrole hat, ?_⟩
      · rw [Block.filter_describesAt_append hat]
        exact h.model
      · rw [hrivals]
        intro l hl
        exact List.mem_append_left _ (h.rivals_lost l hl)
      · rw [findings_append, List.length_append, hfound, if_neg hname, hrivals]
        exact h.duplicates
    | built _ _ hfound =>
      refine h.keep hat hrivals ?_ rfl (by rw [findings_append, hfound, List.append_nil])
      rw [Models.get?_apply (Block.kept_of_role_schema hrole), if_neg hname]
  · obtain ⟨hmodels, hrejected, hfound⟩ := step_of_role_ne_schema (a := a) hrole name
    exact h.keep hat hrivals (by rw [hmodels]) hrejected hfound

/-- A block of the owner builds on the model: its class cannot have lost the name. -/
theorem step_owner (h : Owned name place blocks a) (hplaces : PlacesTellNames (blocks ++ [block]))
    (hblock : block.describesAt name place = true) :
    Owned name place (blocks ++ [block]) (a.step block) := by
  obtain ⟨⟨hrole, rfl⟩, rfl⟩ : (block.role = .schema ∧ block.modelName = name) ∧
      block.modelLocation = place := by
    simpa [Block.describesAt, Block.describes] using hblock
  have hkept : block.modelLocation ∉ a.rejected := by
    -- What was lost at this place is another name, and a place has only one.
    intro hrejected
    obtain ⟨b, hb, hschema, hlocation, hat⟩ := h.lost _ hrejected
    have hname : b.modelName = block.modelName :=
      hplaces b (List.mem_append_left _ hb) block (by simp) hschema hrole hlocation
    simp [Block.describesAt, Block.describes, hschema, hname, hlocation] at hat
  have hrivals : rivals block.modelName block.modelLocation (blocks ++ [block]) =
      rivals block.modelName block.modelLocation blocks := by
    simp [rivals_append_singleton]
  have hclaimed := step_claimed (a := a) hrole
  generalize a.step block = after at hclaimed ⊢
  cases hclaimed with
  | ignored hrejected _ => exact absurd hrejected hkept
  | lost _ hfirst hplace _ =>
    rw [h.model] at hfirst
    exact absurd (Models.built_location hfirst) hplace
  | built _ _ hfound =>
    refine ⟨?_, ?_, h.lost_append block, ?_⟩
    · have hown : (blocks ++ [block]).filter
          (·.describesAt block.modelName block.modelLocation) =
          blocks.filter (·.describesAt block.modelName block.modelLocation) ++ [block] := by
        simp [List.filter_append, hblock]
      rw [Models.get?_apply (Block.kept_of_role_schema hrole), if_pos rfl, h.model, hown,
        Models.built_append_singleton]
    · rw [hrivals]
      exact h.rivals_lost
    · rw [findings_append, hfound, List.append_nil, hrivals]
      exact h.duplicates

/-- A block of another class of the name is passed over, with a finding if it is the first of its
class. -/
theorem step_rival (h : Owned name place blocks a) (hplaces : PlacesTellNames (blocks ++ [block]))
    (howner : ∃ b ∈ blocks, b.describesAt name place = true)
    (hblock : block.describes name = true) (hplace : block.modelLocation ≠ place) :
    Owned name place (blocks ++ [block]) (a.step block) := by
  obtain ⟨hrole, rfl⟩ : block.role = .schema ∧ block.modelName = name := by
    simpa [Block.describes] using hblock
  have hat : block.describesAt block.modelName place = false := by
    simp [Block.describesAt, hplace]
  have hrivals := rivals_append_singleton block.modelName place blocks block
  rw [if_pos ⟨hblock, hplace⟩] at hrivals
  have hclaimed := step_claimed (a := a) hrole
  generalize a.step block = after at hclaimed ⊢
  cases hclaimed with
  | ignored hrejected hfound =>
    -- The class lost a name before, and as a place tells the name it was this one.
    obtain ⟨b, hb, hschema, hlocation, _⟩ := h.lost _ hrejected
    have hname : b.modelName = block.modelName :=
      hplaces b (List.mem_append_left _ hb) block (by simp) hschema hrole hlocation
    have hmem : block.modelLocation ∈ rivals block.modelName place blocks :=
      mem_rivals.mpr ⟨hplace, b, hb, by simp [Block.describes, hschema, hname], hlocation⟩
    rw [Finset.insert_eq_of_mem hmem] at hrivals
    exact h.keep hat hrivals rfl rfl (by rw [findings_append, hfound, List.append_nil])
  | lost hrejected _ _ hfound =>
    have hnew : block.modelLocation ∉ rivals block.modelName place blocks :=
      mt (h.rivals_lost _) hrejected
    refine ⟨?_, ?_, h.lost_append_place hrole hat, ?_⟩
    · rw [Block.filter_describesAt_append hat]
      exact h.model
    · rw [hrivals]
      intro l hl
      rcases Finset.mem_insert.mp hl with rfl | hold
      · exact List.mem_append_right _ List.mem_cons_self
      · exact List.mem_append_left _ (h.rivals_lost l hold)
    · rw [findings_append, List.length_append, hfound, if_pos rfl, hrivals,
        Finset.card_insert_of_notMem hnew, h.duplicates]
  | built _ hbuilt _ =>
    -- The owner has a block, so there is a model, and it is not at this place.
    obtain ⟨b, hb, howns⟩ := howner
    have hne : blocks.filter (·.describesAt block.modelName place) ≠ [] :=
      List.ne_nil_of_mem (List.mem_filter.mpr ⟨hb, howns⟩)
    obtain ⟨m, hm⟩ := Option.ne_none_iff_exists'.mp (Models.built_ne_none hne)
    have hlocation : m.location = block.modelLocation := hbuilt m (h.model.trans hm)
    exact absurd (hlocation.symm.trans (Models.built_location hm)) hplace

end Assembly.Owned

/-- Every run keeps a name with the first class that has a block of it. -/
theorem assemble_owned (name : String) (place : Location) (blocks : List Block)
    (hplaces : PlacesTellNames blocks)
    (hfirst : ∀ b, blocks.find? (·.describes name) = some b → b.modelLocation = place) :
    (assemble blocks).Owned name place blocks := by
  induction blocks using List.reverseRecOn with
  | nil => exact ⟨rfl, by simp [rivals], by simp, rfl⟩
  | append_singleton blocks block ih =>
    rw [assemble_append_singleton]
    have hbefore : (assemble blocks).Owned name place blocks := by
      refine ih (hplaces.of_subset (List.subset_append_left ..)) ?_
      intro b hb
      exact hfirst b (by rw [List.find?_append, hb]; rfl)
    cases hblock : block.describes name with
    | false => exact hbefore.step_other hblock
    | true =>
      by_cases hplace : block.modelLocation = place
      · exact hbefore.step_owner hplaces (by simp [Block.describesAt, hblock, hplace])
      · -- A rival is not the first block of the name, and the first one is the owner's.
        refine hbefore.step_rival hplaces ?_ hblock hplace
        cases hfind : blocks.find? (·.describes name) with
        | none =>
          have hnow : (blocks ++ [block]).find? (·.describes name) = some block := by
            simp [List.find?_append, hfind, hblock]
          exact absurd (hfirst block hnow) hplace
        | some b =>
          obtain ⟨hmem, hat⟩ := Block.describesAt_of_find? hfind
          rw [hfirst b (by rw [List.find?_append, hfind]; rfl)] at hat
          exact ⟨b, hmem, hat⟩

/-- Where a place tells the name of its class, the first class of a name owns it. Its model stands at
its place and is the one that its own blocks build when nothing else is there, and the duplicates
reported for the name are as many as its other classes. -/
theorem first_class_owns_model {blocks : List Block} {name : String} {first : Block}
    (hplaces : PlacesTellNames blocks)
    (hfirst : blocks.find? (·.describes name) = some first) :
    ∃ m, (assemble blocks).draft.models.get? name = some m ∧
      (assemble (blocks.filter (·.describesAt name first.modelLocation))).draft.models.get? name =
        some m ∧
      m.location = first.modelLocation ∧
      (findings (Cause.duplicates name) (assemble blocks).diagnostics).length =
        (rivals name first.modelLocation blocks).card := by
  have hrun : (assemble blocks).Owned name first.modelLocation blocks := by
    refine assemble_owned name _ blocks hplaces ?_
    intro b hb
    rw [hfirst] at hb
    rw [Option.some.inj hb]
  -- The invariant also holds of the run over the owner's blocks, which are all it has of the name.
  let own := blocks.filter (·.describesAt name first.modelLocation)
  have halone : (assemble own).Owned name first.modelLocation own := by
    refine assemble_owned name _ own (hplaces.of_subset List.filter_sublist.subset) ?_
    intro b hb
    have hown : b.describesAt name first.modelLocation = true :=
      (List.mem_filter.mp (List.mem_of_find?_eq_some hb)).2
    simpa [Block.describesAt] using (Bool.and_eq_true_iff.mp hown).2
  have hne : own ≠ [] :=
    List.ne_nil_of_mem (List.mem_filter.mpr (Block.describesAt_of_find? hfirst))
  obtain ⟨m, hm⟩ := Option.ne_none_iff_exists'.mp (Models.built_ne_none hne)
  refine ⟨m, hrun.model.trans hm, ?_, Models.built_location hm, hrun.duplicates⟩
  rw [halone.model, List.filter_filter]
  simpa using hm

/-- Three classes of one name, their blocks in turn, the first without a model directive. -/
theorem first_class_owns_model_among_three :
    let field := fun (text file : String) (line : Int) =>
      Block.ofComment text "x" .field ⟨file, line + 1⟩ (some ⟨"Pet", line⟩)
    let blocks :=
      [field "!field age:int" "a.py" 3, field "!field owner:str" "a.py" 20,
        Block.ofComment "!model" "Pet" .classBody ⟨"b.py", 3⟩, field "!field name:str" "a.py" 3,
        field "!field age:str" "b.py" 3]
    PlacesTellNames blocks ∧
      (findings (Cause.duplicates "Pet") (assemble blocks).diagnostics).length = 2 ∧
      ∃ m, (assemble blocks).draft.models.get? "Pet" = some m ∧ m.location = ⟨"a.py", 3⟩ ∧
        m.fields.keys = ["age", "name"] := by
  intro field blocks
  obtain ⟨hplaces, hfirst, hrivals, hkeys⟩ :
      PlacesTellNames blocks ∧
      blocks.find? (·.describes "Pet") = some (field "!field age:int" "a.py" 3) ∧
      (rivals "Pet" ⟨"a.py", 3⟩ blocks).card = 2 ∧
      ((assemble blocks).draft.models.get? "Pet").map (·.fields.keys) = some ["age", "name"] := by
    dsimp only [blocks, field]
    iterate 5 rw [Block.ofComment_ofList]
    exact ⟨by decide, by decide, by decide, by decide⟩
  obtain ⟨m, hm, _, hlocation, hduplicates⟩ := first_class_owns_model hplaces hfirst
  rw [hm] at hkeys
  exact ⟨hplaces, hduplicates.trans hrivals, m, hm, hlocation, Option.some.inj hkeys⟩

end ApiDirectives
