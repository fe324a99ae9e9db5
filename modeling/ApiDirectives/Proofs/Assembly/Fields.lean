import ApiDirectives.Proofs.Assembly.Models

/-!
# Fields of an assembled model

A model is told by the field directives that its class got accepted, read as one list: its fields are the
last ones of their names, in the order of the first ones, and its required names are all that were ever
marked, in the order in which they first were (`ModelDraft.Declared`). So required names are always names
of fields, and never repeat. But a mark outlives the directive that set it: a field that is declared
again without the mark stays required.
-/

namespace ApiDirectives

/-! ## One model -/

/-- The field that a directive of a block at a place declares. -/
def Slot.fieldAt (location : Location) (slot : Slot) : FieldDraft where
  name := slot.name
  type := slot.type
  description := slot.description
  nullable := slot.nullable
  constraints := slot.constraints
  location := location

namespace ModelDraft

/-- A model has a name, and of field directives the last ones of their names as its fields and the marked
names as its required ones. -/
structure Declared (name : String) (slots : List (Location × Slot)) (m : ModelDraft) : Prop where
  named : m.name = name
  fields_eq : m.fields =
    Table.lastOf (slots.map fun (location, slot) => (slot.name, slot.fieldAt location))
  required_eq : m.required = ((slots.filter (·.2.required)).map (·.2.name)).eraseDups

/-- A model has a name, its fields stand under their own names, and its required names are names of
fields, none of them twice. -/
structure WellFormed (name : String) (m : ModelDraft) : Prop where
  named : m.name = name
  keyed : ∀ entry ∈ m.fields, entry.2.name = entry.1
  required_nodup : m.required.Nodup
  required_known : ∀ n ∈ m.required, n ∈ m.fields.keys

namespace Declared

variable {name : String} {slots : List (Location × Slot)} {m : ModelDraft}

theorem addField (h : m.Declared name slots) (location : Location) (slot : Slot) :
    (Models.addField location slot m).Declared name (slots ++ [(location, slot)]) := by
  refine ⟨h.named, ?_, ?_⟩
  · rw [List.map_append, List.map_singleton, Table.lastOf_concat, ← h.fields_eq]
    rfl
  · rw [List.filter_append]
    cases hmark : slot.required with
    | false => simpa [Models.addField, hmark] using h.required_eq
    | true =>
      simp only [Models.addField, hmark, List.filter_cons_of_pos, List.filter_nil, List.map_append,
        List.map_singleton, Table.eraseDups_concat, ← h.required_eq]
      by_cases hmem : slot.name ∈ m.required <;> simp [hmem]

theorem addFields (h : m.Declared name slots) (location : Location) (more : List Slot) :
    (more.foldl (fun m slot => Models.addField location slot m) m).Declared name
      (slots ++ more.map (location, ·)) := by
  induction more generalizing slots m with
  | nil => simpa using h
  | cons slot more ih => simpa using ih (h.addField location slot)

theorem amend (h : m.Declared name slots) (location : Location) (remarks : List Remark) :
    (Models.amend location remarks m).Declared name
      (slots ++ (Models.fieldSlots remarks).map (location, ·)) := by
  unfold Models.amend
  apply addFields
  -- A description changes neither fields nor required names.
  split
  · exact h
  · exact ⟨h.named, h.fields_eq, h.required_eq⟩

theorem wellFormed (h : m.Declared name slots) : m.WellFormed name := by
  refine ⟨h.named, ?_, ?_, ?_⟩
  · intro entry hentry
    rw [h.fields_eq] at hentry
    obtain ⟨⟨location, slot⟩, _, rfl⟩ := List.mem_map.mp (Table.mem_lastOf _ hentry)
    rfl
  · rw [h.required_eq]
    exact Table.nodup_eraseDups _
  · intro n hn
    rw [h.required_eq, List.mem_eraseDups] at hn
    obtain ⟨entry, hentry, rfl⟩ := List.mem_map.mp hn
    rw [h.fields_eq, Table.lastOf, Table.keys_gathered, List.mem_eraseDups]
    exact List.mem_map.mpr ⟨_, List.mem_map_of_mem (List.mem_filter.mp hentry).1, rfl⟩

/-- The field of a name is the last one that was declared. -/
theorem get?_fields (h : m.Declared name slots) (n : String) :
    m.fields.get? n =
      (slots.filter (·.2.name = n)).getLast?.map fun entry => entry.2.fieldAt entry.1 := by
  have hgiven : Table.given (slots.map fun (location, slot) => (slot.name, slot.fieldAt location)) n =
      (slots.filter (·.2.name = n)).map fun entry => entry.2.fieldAt entry.1 := by
    rw [Table.given, List.filterMap_map, ← List.filterMap_eq_map, List.filterMap_filter]
    congr 1
    funext entry
    obtain ⟨location, slot⟩ := entry
    simp
  rw [h.fields_eq, Table.get?_lastOf, hgiven, List.getLast?_map]

/-- A name is required exactly if it was ever marked. -/
theorem mem_required (h : m.Declared name slots) (n : String) :
    n ∈ m.required ↔ ∃ entry ∈ slots.filter (·.2.name = n), entry.2.required = true := by
  rw [h.required_eq, List.mem_eraseDups, List.mem_map]
  simp only [List.mem_filter, decide_eq_true_eq]
  constructor
  · rintro ⟨entry, ⟨hentry, hmark⟩, rfl⟩
    exact ⟨entry, ⟨hentry, rfl⟩, hmark⟩
  · rintro ⟨entry, ⟨hentry, hname⟩, hmark⟩
    exact ⟨entry, ⟨hentry, hmark⟩, hname⟩

end Declared

end ModelDraft

/-! ## All blocks -/

/-- Whether a block builds on a model: its class has not lost the name, and no class at another place has
it. -/
def Assembly.admits (a : Assembly) (block : Block) : Bool :=
  block.role = .schema && !a.rejected.contains block.modelLocation &&
    (a.draft.models.get? block.modelName).all (·.location = block.modelLocation)

theorem Assembly.step_models (a : Assembly) (block : Block) :
    (a.step block).draft.models =
      if a.admits block then
        Models.apply a.draft.models block.modelName block.modelLocation block.location block.kept
      else a.draft.models := by
  by_cases hrole : block.role = .schema
  · have hclaimed := step_claimed (a := a) hrole
    generalize a.step block = after at hclaimed ⊢
    cases hclaimed with
    | ignored hrejected _ => simp [admits, hrejected]
    | lost _ hget hplace _ => simp [admits, hget, hplace]
    | built hrejected hplace _ =>
      have hall : (a.draft.models.get? block.modelName).all (·.location = block.modelLocation) =
          true := by
        cases hget : a.draft.models.get? block.modelName with
        | none => rfl
        | some m => simpa using hplace m hget
      simp [admits, hrole, hrejected, hall]
  · rw [(step_of_role_ne_schema hrole "").1, if_neg]
    simp [admits, hrole]

/-- The field directives that are accepted for the model of a name, each with the place of its block, in
order. -/
def acceptedFields (name : String) (blocks : List Block) : List (Location × Slot) :=
  inTurn (fun before block =>
    if (assemble before).admits block ∧ block.modelName = name then
      (Models.fieldSlots block.kept).map (block.location, ·)
    else []) blocks

theorem Assembly.admits_role {a : Assembly} {block : Block} (h : a.admits block = true) :
    block.role = .schema := by
  simp only [admits, Bool.and_eq_true, decide_eq_true_eq] at h
  exact h.1.1

/-- Every model of a run is told by the field directives that are accepted for it; a name without a model
has none. -/
theorem assemble_declared (name : String) (place : Location) (blocks : List Block) :
    (((assemble blocks).draft.models.get? name).getD { name, location := place }).Declared name
      (acceptedFields name blocks) := by
  induction blocks using assemble_induction generalizing place with
  | nil => exact ⟨rfl, rfl, rfl⟩
  | step blocks block ih =>
    rw [acceptedFields, inTurn_concat, ← acceptedFields, Assembly.step_models]
    cases hadmits : (assemble blocks).admits block with
    | false => simpa using ih place
    | true =>
      have hkept := Block.kept_of_role_schema (Assembly.admits_role hadmits)
      rw [if_pos rfl, Models.get?_apply hkept]
      by_cases hname : block.modelName = name
      · subst hname
        rw [if_pos rfl, if_pos ⟨rfl, rfl⟩]
        exact (ih block.modelLocation).amend block.location block.kept
      · simpa [hname] using ih place

/-- No block makes a second model of a name. -/
theorem Models.apply_nodup {models : Models} (h : models.keys.Nodup) (name : String)
    (place location : Location) (remarks : List Remark) :
    (apply models name place location remarks).keys.Nodup := by
  have change : ∀ (ms : Models) (f : ModelDraft → ModelDraft), ms.keys.Nodup →
      ((ensure ms name place).adjust name f).keys.Nodup := by
    intro ms f hms
    rw [Table.keys_adjust]
    exact Table.nodup_keys_putNew hms _ _
  exact apply_induction (P := fun ms => ms.keys.Nodup) (fun ms _ _ => change ms _)
    (fun ms _ => change ms _) h remarks

theorem assemble_models_nodup (blocks : List Block) :
    (assemble blocks).draft.models.keys.Nodup := by
  induction blocks using assemble_induction with
  | nil => exact List.nodup_nil
  | step blocks block ih =>
    rw [Assembly.step_models]
    split
    · exact Models.apply_nodup ih _ _ _ _
    · exact ih

/-- Every model of a run stands under its own name and is well-formed. -/
theorem assemble_models_wellFormed (blocks : List Block) :
    ∀ entry ∈ (assemble blocks).draft.models, entry.2.WellFormed entry.1 := by
  rintro ⟨name, m⟩ hentry
  have hdeclared := assemble_declared name m.location blocks
  rw [Table.get?_of_mem (assemble_models_nodup blocks) hentry] at hdeclared
  exact hdeclared.wellFormed

/-! ## Marks of replaced fields -/

/-- The field of a name is the one that was accepted last, but the name is required if any accepted field
of it was marked. So the mark of the last one decides exactly if it is set, or never was. -/
theorem required_marks_accumulate {blocks : List Block} {name n : String} {m : ModelDraft}
    {field : FieldDraft} (hm : (assemble blocks).draft.models.get? name = some m)
    (hfield : m.fields.get? n = some field) :
    let declared := (acceptedFields name blocks).filter (·.2.name = n)
    ∃ location slot, declared.getLast? = some (location, slot) ∧ field = slot.fieldAt location ∧
      (n ∈ m.required ↔ ∃ entry ∈ declared, entry.2.required = true) ∧
      ((n ∈ m.required ↔ slot.required = true) ↔
        slot.required = true ∨ ∀ entry ∈ declared, entry.2.required = false) := by
  intro declared
  have htold := assemble_declared name m.location blocks
  rw [hm, Option.getD_some] at htold
  rw [htold.get?_fields] at hfield
  obtain ⟨⟨location, slot⟩, hlast, rfl⟩ := Option.map_eq_some_iff.mp hfield
  have hmarked := htold.mem_required n
  refine ⟨location, slot, hlast, rfl, hmarked, ?_⟩
  have hmem : (location, slot) ∈ declared := List.mem_of_getLast? hlast
  rw [hmarked]
  cases hmark : slot.required with
  | true =>
    -- The last one is itself a marked one.
    exact iff_of_true (iff_of_true ⟨_, hmem, hmark⟩ rfl) (.inl rfl)
  | false => simp [declared]

/-- The last declaration of `a` is not marked and that of `b` is: both are required. A class of the name
at another place adds nothing. -/
theorem required_marks_accumulate_at_two_classes :
    let blocks :=
      [Block.ofComment "!model\n!field a:int required\n!field b:int" "M" .classBody ⟨"api.py", 4⟩,
        Block.ofComment "!field c:int required" "c" .field ⟨"web.py", 9⟩ (some ⟨"M", 8⟩),
        Block.ofComment "!field a:string\n!field b:string required" "a" .field ⟨"api.py", 6⟩
          (some ⟨"M", 4⟩)]
    ∃ m, (assemble blocks).draft.models.get? "M" = some m ∧ m.fields.keys = ["a", "b"] ∧
      "a" ∈ m.required ∧ "b" ∈ m.required := by
  intro blocks
  obtain ⟨hmodel, ha, hb⟩ :
      ((assemble blocks).draft.models.get? "M").map (·.fields.keys) = some ["a", "b"] ∧
      (∃ entry ∈ (acceptedFields "M" blocks).filter (·.2.name = "a"), entry.2.required = true) ∧
      ∃ entry ∈ (acceptedFields "M" blocks).filter (·.2.name = "b"), entry.2.required = true := by
    dsimp only [blocks]
    rw [Block.ofComment_ofList, Block.ofComment_ofList, Block.ofComment_ofList]
    exact ⟨by decide, by decide, by decide⟩
  obtain ⟨m, hm, hkeys⟩ := Option.map_eq_some_iff.mp hmodel
  -- Both names have a field, and a marked declaration among the accepted ones.
  have hrequired : ∀ n ∈ m.fields.keys, (∃ entry ∈ (acceptedFields "M" blocks).filter (·.2.name = n),
      entry.2.required = true) → n ∈ m.required := by
    intro n hn hmarked
    obtain ⟨field, hfield⟩ := Option.isSome_iff_exists.mp (Table.has_iff.mpr hn)
    obtain ⟨_, _, _, _, hiff, _⟩ := required_marks_accumulate hm hfield
    exact hiff.mpr hmarked
  rw [hkeys] at hrequired
  exact ⟨m, hm, hkeys, hrequired "a" (by simp) ha, hrequired "b" (by simp) hb⟩

/-- A field that is declared again without its mark: the new type is kept, and so is the old mark. -/
theorem stale_required_mark :
    let blocks := [Block.ofComment "!model\n!field a:int required\n!field a:string" "M" .classBody
      ⟨"api.py", 4⟩]
    ∃ m, (assemble blocks).draft.models.get? "M" = some m ∧
      (m.fields.get? "a").map (·.type) = some "string" ∧
      ((acceptedFields "M" blocks).filter (·.2.name = "a")).getLast?.map (·.2.required) =
        some false ∧
      "a" ∈ m.required := by
  intro blocks
  obtain ⟨hmodel, hunmarked⟩ :
      ((assemble blocks).draft.models.get? "M").map (fun m =>
        ((m.fields.get? "a").map (·.type), m.required)) = some (some "string", ["a"]) ∧
      ((acceptedFields "M" blocks).filter (·.2.name = "a")).getLast?.map (·.2.required) =
        some false := by
    dsimp only [blocks]
    rw [Block.ofComment_ofList]
    exact ⟨by decide, by decide⟩
  obtain ⟨m, hm, hpair⟩ := Option.map_eq_some_iff.mp hmodel
  obtain ⟨htype, hrequired⟩ := Prod.mk.inj hpair
  exact ⟨m, hm, htype, hunmarked, by simp [hrequired]⟩

end ApiDirectives
