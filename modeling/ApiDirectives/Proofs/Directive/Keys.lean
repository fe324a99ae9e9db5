import ApiDirectives.Directive.Line
import Mathlib.Data.List.Nodup

/-!
# Keys of directives

Listed as pairs of a key and a text, the members of a directive have the fixed keys of its kind, in
the order of its grammar, and then some optional keys: constraints for parameters and fields, parents
for models. The constraints of a directive that was read from a line are a choice of values for the
nine constraints, listed in their fixed order: `Slot.Ordered`. So each key stands once, and the
constraints can be had back from the list. Both rest on `Line.ReadsSlot`: a parameter or a field is read
behind its own keyword, by the one reader of their members.
-/

namespace ApiDirectives

/-! ## Choices of constraints -/

/-- The constraints that have a value, in their fixed order. -/
def chosen (value : Constraint → Option String) : List (Constraint × String) :=
  Constraint.all.filterMap fun c => (value c).map fun v => (c, v)

theorem Constraint.mem_all (c : Constraint) : c ∈ Constraint.all := by
  cases c <;> decide

theorem lookup_filterMap_pair (value : Constraint → Option String) (cs : List Constraint)
    (c : Constraint) :
    (cs.filterMap fun c => (value c).map fun v => (c, v)).lookup c =
      if c ∈ cs then value c else none := by
  induction cs with
  | nil => rfl
  | cons c' cs ih =>
    rw [List.filterMap_cons]
    cases hvalue : value c' with
    | none =>
      simp only [Option.map_none, ih, List.mem_cons]
      by_cases hc : c = c'
      · subst hc
        simp [hvalue]
      · simp [hc]
    | some v =>
      simp only [Option.map_some, List.lookup_cons, ih, List.mem_cons]
      by_cases hc : c = c'
      · subst hc
        simp [hvalue]
      · simp [hc, beq_eq_false_iff_ne.mpr hc]

/-- Each constraint has the value that was chosen for it. -/
theorem lookup_chosen (value : Constraint → Option String) (c : Constraint) :
    (chosen value).lookup c = value c := by
  rw [chosen, lookup_filterMap_pair, if_pos c.mem_all]

theorem keys_chosen (value : Constraint → Option String) :
    ((chosen value).map (·.1.key)).Sublist (Constraint.all.map Constraint.key) := by
  have hkeys : (chosen value).map (·.1.key) =
      (Constraint.all.filter fun c => (value c).isSome).map Constraint.key := by
    unfold chosen
    induction Constraint.all with
    | nil => rfl
    | cons c cs ih => cases hvalue : value c <;> simp [hvalue, ih]
  rw [hkeys]
  exact List.filter_sublist.map _

theorem mem_chosen {value : Constraint → Option String} {entry : Constraint × String} :
    entry ∈ chosen value ↔ value entry.1 = some entry.2 := by
  obtain ⟨c, v⟩ := entry
  simp only [chosen, List.mem_filterMap, Option.map_eq_some_iff, Prod.mk.injEq]
  constructor
  · rintro ⟨c', -, v', hv, rfl, rfl⟩
    exact hv
  · intro hv
    exact ⟨c, c.mem_all, v, hv, rfl, rfl⟩

/-- Where no constraint stands twice, each has the value it stands with. -/
theorem lookup_eq_some_iff_mem {entries : List (Constraint × String)} (h : (entries.map Prod.fst).Nodup)
    {entry : Constraint × String} : entries.lookup entry.1 = some entry.2 ↔ entry ∈ entries := by
  constructor
  · intro hlookup
    obtain ⟨before, later, hentries, -⟩ := List.lookup_eq_some_iff.mp hlookup
    rw [hentries]
    exact List.mem_append_right before List.mem_cons_self
  · intro hmem
    obtain ⟨before, later, hentries⟩ := List.append_of_mem hmem
    rw [hentries, List.map_append, List.nodup_append] at h
    refine List.lookup_eq_some_iff.mpr ⟨before, later, hentries, fun entry' hentry' => ?_⟩
    rw [bne_iff_ne]
    exact (h.2.2 entry'.1 (List.mem_map_of_mem hentry') entry.1 List.mem_cons_self).symm

/-- Entries with distinct constraints are, up to their order, the choice of their values. -/
theorem chosen_lookup_perm {entries : List (Constraint × String)} (h : (entries.map Prod.fst).Nodup) :
    (chosen fun c => entries.lookup c).Perm entries := by
  have hkeys : ((chosen fun c => entries.lookup c).map (·.1.key)).Nodup :=
    (by decide : (Constraint.all.map Constraint.key).Nodup).sublist (keys_chosen _)
  refine (List.perm_ext_iff_of_nodup (List.Nodup.of_map _ hkeys) (List.Nodup.of_map _ h)).mpr fun entry => ?_
  rw [mem_chosen, lookup_eq_some_iff_mem h]

/-- The constraints of a slot are a choice of values. -/
def Slot.Ordered (s : Slot) : Prop :=
  ∃ value, s.constraints = chosen value

/-- The constraints of a directive, if it has some, are a choice of values. -/
def Directive.Ordered : Directive → Prop
  | .parameter _ slot => slot.Ordered
  | .field slot => slot.Ordered
  | _ => True

/-! ## Directives that are read -/

namespace Line

/-- Whatever a reader yields satisfies `P`. -/
def Gives {α : Type} (x : Option α) (P : α → Prop) : Prop :=
  ∀ a, x = some a → P a

variable {α β : Type}

theorem gives_none {P : α → Prop} : Gives none P := by
  intro a ha
  cases ha

theorem gives_pure {P : α → Prop} {a : α} (h : P a) : Gives (pure a) P := by
  intro b hb
  cases hb
  exact h

theorem gives_map {f : α → β} {x : Option α} {Q : α → Prop} {P : β → Prop} (hx : Gives x Q)
    (hf : ∀ a, Q a → P (f a)) : Gives (x.map f) P := by
  intro b hb
  obtain ⟨a, ha, rfl⟩ := Option.map_eq_some_iff.mp hb
  exact hf a (hx a ha)

/-- What holds whatever is read first. -/
theorem gives_bind {x : Option α} {f : α → Option β} {P : β → Prop} (hf : ∀ a, Gives (f a) P) :
    Gives (x >>= f) P := by
  intro b hb
  obtain ⟨a, _, hb⟩ := Option.bind_eq_some_iff.mp hb
  exact hf a b hb

theorem constraints_eq_chosen (cs : List Char) :
    constraints cs = chosen fun c => (scanKey c.key.toList cs).map String.ofList := by
  simp only [constraints, chosen, Option.map_map]
  rfl

theorem slot?_gives (tail : List Char) : Gives (slot? tail) Slot.Ordered :=
  gives_bind fun _ => gives_bind fun _ => gives_bind fun _ =>
    gives_pure ⟨_, constraints_eq_chosen _⟩

/-- The keyword is that of the directive and the members are those that are read behind it, if the
directive is a parameter or a field. -/
def ReadsSlot (keyword : String) (tail : List Char) : Directive → Prop
  | .parameter place slot => keyword = place.name ∧ slot? tail = some slot
  | .field slot => keyword = "field" ∧ slot? tail = some slot
  | _ => True

/-- A parameter or a field is read behind its own keyword only. -/
theorem directive?_gives (keyword : String) (tail : List Char) :
    Gives (directive? keyword tail) (ReadsSlot keyword tail) := by
  have hsecure : ∀ keyword, Gives (secure? tail) (ReadsSlot keyword tail) := by
    refine fun keyword => gives_bind fun r => ?_
    dsimp only
    split
    · exact gives_none
    · exact gives_pure trivial
  have hnote : ∀ keyword, ∀ f : String × String → Directive, (∀ p, ReadsSlot keyword tail (f p)) →
      Gives ((solidNote? tail).map f) (ReadsSlot keyword tail) := by
    intro keyword f hf
    exact gives_map (Q := fun _ => True) (fun _ _ => trivial) fun p _ => hf p
  have hpayload : ∀ keyword, ∀ f : Payload → Directive, (∀ p, ReadsSlot keyword tail (f p)) →
      Gives ((payload? tail).map f) (ReadsSlot keyword tail) := by
    intro keyword f hf
    exact gives_map (Q := fun _ => True) (fun _ _ => trivial) fun p _ => hf p
  have hslot : Gives (slot? tail) fun slot => slot? tail = some slot := fun _ h => h
  -- One case for each keyword; only parameters and fields are slots.
  unfold directive?
  split
  · exact gives_bind fun _ => gives_pure trivial
  · exact gives_bind fun _ => gives_bind fun _ => gives_pure trivial
  · exact gives_bind fun _ => gives_pure trivial
  · exact gives_bind fun _ => gives_pure trivial
  · exact hnote _ _ fun _ => trivial
  · exact hnote _ _ fun _ => trivial
  · exact gives_bind fun _ => gives_pure trivial
  · exact gives_bind fun _ => gives_bind fun _ => gives_pure trivial
  · exact gives_bind fun _ => gives_bind fun _ => gives_pure trivial
  · exact hnote _ _ fun _ => trivial
  · exact gives_bind fun _ => gives_bind fun _ => gives_pure trivial
  · exact hpayload _ _ fun _ => trivial
  · exact gives_pure trivial
  · exact gives_pure trivial
  · exact hsecure _
  · exact gives_bind fun _ => gives_bind fun _ => gives_pure trivial
  · exact hpayload _ _ fun _ => trivial
  · exact gives_bind fun _ => gives_bind fun _ => gives_pure trivial
  · exact gives_pure trivial
  · exact gives_map hslot fun slot h => ⟨rfl, h⟩
  · split
    · exact gives_bind fun _ => gives_bind fun _ => gives_bind fun _ => gives_pure trivial
    · rename_i place _ hplace
      have hname : place.name = keyword := by
        unfold Place.ofName? at hplace
        have hfound := List.find?_some hplace
        exact eq_of_beq hfound
      exact gives_map hslot fun slot h => ⟨hname.symm, h⟩
    · exact gives_none

theorem ReadsSlot.ordered {keyword : String} {tail : List Char} {d : Directive}
    (h : ReadsSlot keyword tail d) : d.Ordered := by
  cases d with
  | parameter place slot => exact slot?_gives tail slot h.2
  | field slot => exact slot?_gives tail slot h.2
  | _ => trivial

end Line

/-- The constraints of a directive that was read from a line are a choice of values. -/
theorem Remark.ordered_of_ofLine? {line : String} {r : Remark} (h : Remark.ofLine? line = some r) :
    r.directive.Ordered := by
  unfold Remark.ofLine? Line.remark? at h
  obtain ⟨⟨keyword, tail⟩, _, hread⟩ := Option.bind_eq_some_iff.mp h
  obtain ⟨d, hd, hr⟩ := Option.bind_eq_some_iff.mp hread
  cases hr
  exact (Line.directive?_gives keyword tail d hd).ordered

theorem Remark.ordered_of_ofText {text : String} {r : Remark} (h : r ∈ Remark.ofText text) :
    r.directive.Ordered := by
  obtain ⟨line, _, hline⟩ := List.mem_filterMap.mp h
  exact Remark.ordered_of_ofLine? hline

/-! ## Keys by kind -/

/-- The keys that every directive of a kind has, in the order of its grammar. -/
def Kind.fixedKeys : Kind → List String
  | .api => ["version"]
  | .info => ["title", "version", "description"]
  | .contact => ["name", "email", "url"]
  | .license => ["name", "url"]
  | .server => ["url", "description"]
  | .tag => ["name", "description"]
  | .tos => ["url"]
  | .security => ["name", "type", "location", "description", "url"]
  | .scope => ["security", "name", "description"]
  | .externalDocs => ["url", "description"]
  | .link => ["label", "url"]
  | .webhook => ["name", "method", "description"]
  | .webhookBody | .body => ["schema", "description", "required"]
  | .webhookResponse | .ok | .error => ["status", "schema", "description"]
  | .route => ["method", "path", "operationId", "summary"]
  | .query | .path | .header | .cookie =>
    ["in", "name", "type", "description", "required", "nullable"]
  | .secure => ["names"]
  | .model => ["description"]
  | .field => ["name", "type", "description", "required", "nullable"]

/-- The keys that directives of a kind may have besides, in the order in which they are listed. -/
def Kind.optionalKeys : Kind → List String
  | .query | .path | .header | .cookie | .field => Constraint.all.map Constraint.key
  | .model => ["extends"]
  | _ => []

/-- Keys that fit a kind: its fixed keys, then some of its optional ones, all in order. -/
def Kind.Fits (k : Kind) (keys : List String) : Prop :=
  ∃ extra, keys = k.fixedKeys ++ extra ∧ extra.Sublist k.optionalKeys

theorem Kind.nodup_keys (k : Kind) : (k.fixedKeys ++ k.optionalKeys).Nodup := by
  cases k <;> decide

theorem Kind.Fits.nodup {k : Kind} {keys : List String} (h : k.Fits keys) : keys.Nodup := by
  obtain ⟨extra, rfl, hextra⟩ := h
  exact k.nodup_keys.sublist (hextra.append_left _)

/-- The keys of a directive. -/
def Directive.keys (d : Directive) : List String :=
  d.args.map Prod.fst

theorem map_fst_slotArgs (slot : Slot) :
    (Directive.slotArgs slot).map Prod.fst =
      ["name", "type", "description", "required", "nullable"]
        ++ slot.constraints.map (·.1.key) := by
  simp [Directive.slotArgs]

theorem Slot.Ordered.keys {slot : Slot} (h : slot.Ordered) :
    (slot.constraints.map (·.1.key)).Sublist (Constraint.all.map Constraint.key) := by
  obtain ⟨value, hvalue⟩ := h
  rw [hvalue]
  exact keys_chosen value

/-- The keys of a directive fit its kind. -/
theorem Directive.Ordered.fits {d : Directive} (h : d.Ordered) : d.kind.Fits d.keys := by
  cases d with
  | parameter place slot =>
    refine ⟨slot.constraints.map (·.1.key), ?_, ?_⟩
    · rw [Directive.keys, Directive.args, List.map_cons, map_fst_slotArgs]
      cases place <;> rfl
    · cases place <;> exact Slot.Ordered.keys h
  | field slot => exact ⟨_, map_fst_slotArgs slot, Slot.Ordered.keys h⟩
  | model description parents =>
    cases parents with
    | none => exact ⟨[], rfl, List.nil_sublist _⟩
    | some text => exact ⟨["extends"], rfl, List.Sublist.refl _⟩
  | _ => exact ⟨[], rfl, List.nil_sublist _⟩

end ApiDirectives
