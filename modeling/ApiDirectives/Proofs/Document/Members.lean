import ApiDirectives.Checked
import ApiDirectives.Document.Written
import ApiDirectives.Proofs.Table

/-!
# Members that are written and read

An object is written as a row of members, each left out in some case, and read member by member, by
name. What connects the two is the look-up: `held` is what a reader finds under the names of a member,
and for a row of written members it is computed by `simp`, one rule for each kind of member. A reader
then has to be compared with a writer for one value only, the member's own; that a member which is left
out is read as its default is stated once, in `member_of_held`.
-/

namespace ApiDirectives

/-! ## Checks -/

namespace Checked

variable {α β : Type}

theorem map_of_ok (f : α → β) {x : Checked α} {a : α} (hx : x = .ok a) : f <$> x = .ok (f a) := by
  subst hx
  rfl

theorem seq_of_ok {f : Checked (α → β)} {g : α → β} {x : Checked α} {a : α} (hf : f = .ok g)
    (hx : x = .ok a) : f <*> x = .ok (g a) := by
  subst hf hx
  rfl

theorem map_eq_ok {f : α → β} {x : Checked α} {b : β} (h : f <$> x = .ok b) :
    ∃ a, x = .ok a ∧ b = f a := by
  rcases x with e | a
  · cases h
  · cases h
    exact ⟨a, rfl, rfl⟩

theorem seq_eq_ok {f : Checked (α → β)} {x : Checked α} {b : β} (h : f <*> x = .ok b) :
    ∃ g a, f = .ok g ∧ x = .ok a ∧ b = g a := by
  rcases f with e | g
  · rcases x with e' | a <;> cases h
  · rcases x with e' | a
    · cases h
    · cases h
      exact ⟨g, a, rfl, rfl, rfl⟩

@[simp]
theorem under_eq_ok {step : String} {x : Checked α} {a : α} :
    under step x = .ok a ↔ x = .ok a := by
  rcases x with e | b
  · constructor <;> intro h <;> cases h
  · exact Iff.rfl

/-- Every result satisfies `P`. -/
def Yields (x : Checked α) (P : α → Prop) : Prop :=
  ∀ a, x = .ok a → P a

theorem yields_map {f : α → β} {x : Checked α} {A : α → Prop} {P : β → Prop} (hx : x.Yields A)
    (h : ∀ a, A a → P (f a)) : (f <$> x).Yields P := by
  intro b hb
  obtain ⟨a, ha, rfl⟩ := map_eq_ok hb
  exact h a (hx a ha)

theorem yields_seq {f : Checked (α → β)} {x : Checked α} {A : α → Prop} {P : β → Prop}
    (hx : x.Yields A) (hf : f.Yields fun g => ∀ a, A a → P (g a)) : (f <*> x).Yields P := by
  intro b hb
  obtain ⟨g, a, hg, ha, rfl⟩ := seq_eq_ok hb
  exact hf g hg a (hx a ha)

theorem yields_any (x : Checked α) : x.Yields fun _ => True :=
  fun _ _ => trivial

/-- An argument that does not matter. -/
theorem yields_skip {f : Checked (α → β)} {x : Checked α} {P : β → Prop}
    (hf : f.Yields fun g => ∀ a, P (g a)) : (f <*> x).Yields P :=
  yields_seq (yields_any x) fun g hg a _ => hf g hg a

/-- Elements that are read one by one are read as a list. -/
theorem eachFrom_map {γ : Type} {check : α → Checked β} {w : γ → α} {g : γ → β} {cs : List γ}
    (h : ∀ c ∈ cs, check (w c) = .ok (g c)) (n : Nat) :
    eachFrom n check (cs.map w) = .ok (cs.map g) := by
  induction cs generalizing n with
  | nil => rfl
  | cons c cs ih =>
    obtain ⟨hfirst, hrest⟩ := List.forall_mem_cons.mp h
    exact seq_of_ok (map_of_ok _ (under_eq_ok.mpr hfirst)) (ih hrest (n + 1))

theorem members_map {γ : Type} {check : α → Checked β} {w : γ → α} {g : γ → β}
    {t : List (String × γ)} (h : ∀ entry ∈ t, check (w entry.2) = .ok (g entry.2)) :
    members check (t.map fun entry => (entry.1, w entry.2)) =
      .ok (t.map fun entry => (entry.1, g entry.2)) := by
  induction t with
  | nil => rfl
  | cons entry t ih =>
    obtain ⟨hfirst, hrest⟩ := List.forall_mem_cons.mp h
    exact seq_of_ok (map_of_ok _ (under_eq_ok.mpr hfirst)) (ih hrest)

/-- What is read from a list is read from its elements. -/
theorem mem_of_eachFrom {check : α → Checked β} {as : List α} {bs : List β} {n : Nat}
    (h : eachFrom n check as = .ok bs) : ∀ b ∈ bs, ∃ a ∈ as, check a = .ok b := by
  induction as generalizing n bs with
  | nil =>
    cases h
    simp
  | cons a as ih =>
    obtain ⟨f, rest, hf, hrest, rfl⟩ := seq_eq_ok h
    obtain ⟨first, hfirst, rfl⟩ := map_eq_ok hf
    refine List.forall_mem_cons.mpr ⟨⟨a, List.mem_cons_self, under_eq_ok.mp hfirst⟩, ?_⟩
    intro b hb
    obtain ⟨a', ha', hcheck⟩ := ih hrest b hb
    exact ⟨a', List.mem_cons_of_mem _ ha', hcheck⟩

theorem mem_of_members {check : α → Checked β} {t : List (String × α)} {u : List (String × β)}
    (h : members check t = .ok u) : ∀ entry ∈ u, ∃ a, (entry.1, a) ∈ t ∧ check a = .ok entry.2 := by
  induction t generalizing u with
  | nil =>
    cases h
    simp
  | cons member t ih =>
    obtain ⟨k, a⟩ := member
    obtain ⟨f, rest, hf, hrest, rfl⟩ := seq_eq_ok h
    obtain ⟨first, hfirst, rfl⟩ := map_eq_ok hf
    refine List.forall_mem_cons.mpr ⟨⟨a, List.mem_cons_self, under_eq_ok.mp hfirst⟩, ?_⟩
    intro entry hentry
    obtain ⟨a', ha', hcheck⟩ := ih hrest entry hentry
    exact ⟨a', List.mem_cons_of_mem _ ha', hcheck⟩

end Checked

/-! ## Look-up by names -/

/-- What a member with some names holds, the names taken in order. -/
def held (names : List String) (ms : List (String × Value)) : Option Value :=
  names.findSome? fun name => Table.get? ms name

@[simp]
theorem held_one (name : String) (ms : List (String × Value)) :
    held [name] ms = Table.get? ms name := by
  rw [held, List.findSome?_cons]
  cases Table.get? ms name <;> rfl

@[simp]
theorem held_two (name other : String) (ms : List (String × Value)) :
    held [name, other] ms = (Table.get? ms name).or (Table.get? ms other) := by
  rw [held, List.findSome?_cons, List.findSome?_cons]
  cases Table.get? ms name with
  | none => cases Table.get? ms other <;> rfl
  | some v => rfl

theorem find?_name (name : String) (ms : List (String × Value)) :
    (ms.find? fun m => m.1 == name).map Prod.snd = Table.get? ms name := by
  induction ms with
  | nil => rfl
  | cons m ms ih =>
    obtain ⟨k, v⟩ := m
    rw [Table.get?_cons]
    by_cases hk : k = name
    · rw [List.find?_cons_of_pos (by simp [hk]), if_pos hk]
      rfl
    · rw [List.find?_cons_of_neg (by simp [hk]), if_neg hk, ih]

/-- The member that is picked is the one that is held. -/
theorem pick_value (names : List String) (ms : List (String × Value)) :
    (pick names ms).map (·.val.2) = held names ms := by
  have hone : ∀ name : String, (ms.attach.find? fun m => m.val.1 == name).map (·.val.2) =
      Table.get? ms name := by
    intro name
    have hval := List.find?_map (l := ms.attach) (f := Subtype.val) (p := fun m => m.1 == name)
    rw [List.attach_map_subtype_val] at hval
    rw [← find?_name, hval, Option.map_map]
    rfl
  unfold pick held
  induction names with
  | nil => rfl
  | cons name names ih =>
    rw [List.findSome?_cons, List.findSome?_cons, ← hone]
    cases ms.attach.find? fun m => m.val.1 == name with
    | none => exact ih
    | some m => rfl

variable {α : Type} {names : List String} {ms : List (String × Value)} {check : Value → Checked α}
  {absent a : α}

/-- A member reads as what it holds, or as its default. -/
theorem member_eq_ok_iff :
    member names absent check ms = .ok a ↔
      match held names ms with
      | some v => check v = .ok a
      | none => absent = a := by
  unfold member
  rw [← pick_value]
  cases hpick : pick names ms with
  | none => exact ⟨fun h => by cases h; rfl, fun h => by cases h; rfl⟩
  | some m =>
    obtain ⟨⟨k, v⟩, hmem⟩ := m
    exact Checked.under_eq_ok

theorem needed_eq_ok_iff :
    needed names check ms = .ok a ↔ ∃ v, held names ms = some v ∧ check v = .ok a := by
  unfold needed
  rw [← pick_value]
  cases hpick : pick names ms with
  | none => exact ⟨fun h => (by cases h), fun ⟨v, hv, _⟩ => (by cases hv)⟩
  | some m =>
    obtain ⟨⟨k, v⟩, hmem⟩ := m
    rw [Checked.under_eq_ok]
    constructor
    · exact fun h => ⟨v, rfl, h⟩
    · rintro ⟨_, hv, h⟩
      cases hv
      exact h

theorem mem_of_held {v : Value} (h : held names ms = some v) : ∃ k, (k, v) ∈ ms := by
  rw [← pick_value] at h
  obtain ⟨⟨⟨k, w⟩, hmem⟩, _, rfl⟩ := Option.map_eq_some_iff.mp h
  exact ⟨k, hmem⟩

/-- What a member that may be left out is read as is its default, or is read from some member. -/
theorem of_member (h : member names absent check ms = .ok a) :
    a = absent ∨ ∃ k v, (k, v) ∈ ms ∧ check v = .ok a := by
  rw [member_eq_ok_iff] at h
  cases hheld : held names ms with
  | none =>
    rw [hheld] at h
    exact .inl h.symm
  | some v =>
    rw [hheld] at h
    obtain ⟨k, hmem⟩ := mem_of_held hheld
    exact .inr ⟨k, v, hmem, h⟩

/-! ## Members as they are written -/

/-- A value, unless it is left out. -/
def unlessLeftOut (out : Bool) (v : Value) : Option Value :=
  if out then none else some v

@[simp]
theorem map_unlessLeftOut (f : Value → Value) (out : Bool) (v : Value) :
    (unlessLeftOut out v).map f = unlessLeftOut out (f v) := by
  cases out <;> rfl

/-- A member that is left out where it has its default is read back. -/
theorem member_of_held {out : Bool} {v : Value} (hheld : held names ms = unlessLeftOut out v)
    (hout : out = true → absent = a) (hcheck : check v = .ok a) :
    member names absent check ms = .ok a := by
  rw [member_eq_ok_iff, hheld]
  cases out with
  | true => exact hout rfl
  | false => exact hcheck

theorem needed_of_held {v : Value} (hheld : held names ms = some v) (hcheck : check v = .ok a) :
    needed names check ms = .ok a :=
  needed_eq_ok_iff.mpr ⟨v, hheld, hcheck⟩

section Lookup

variable (name k : String)

@[simp]
theorem get?_optionMember (o : Option Value) :
    Table.get? (optionMember name o) k = if name = k then o else none := by
  cases o with
  | none => simp [optionMember]
  | some v => simp [optionMember, Table.get?_cons]

@[simp]
theorem get?_always (v : Value) :
    Table.get? (always name v) k = if name = k then some v else none := rfl

@[simp]
theorem get?_textMember (s : String) :
    Table.get? (textMember name s) k =
      if name = k then unlessLeftOut (s = "") (.str s) else none := by
  by_cases hs : s = ""
  · simp [textMember, unlessLeftOut, hs]
  · simp [textMember, unlessLeftOut, hs, Table.get?_cons]

@[simp]
theorem get?_flagMember (b : Bool) :
    Table.get? (flagMember name b) k =
      if name = k then unlessLeftOut (!b) (.bool b) else none := by
  cases b with
  | false => simp [flagMember, unlessLeftOut]
  | true => simp [flagMember, unlessLeftOut, Table.get?_cons]

@[simp]
theorem get?_listMember (vs : List Value) :
    Table.get? (listMember name vs) k =
      if name = k then unlessLeftOut vs.isEmpty (.list vs) else none := by
  cases hempty : vs.isEmpty with
  | false => simp [listMember, unlessLeftOut, hempty, Table.get?_cons]
  | true => simp [listMember, unlessLeftOut, hempty]

@[simp]
theorem get?_tableMember (members : List (String × Value)) :
    Table.get? (tableMember name members) k =
      if name = k then unlessLeftOut members.isEmpty (.object members) else none := by
  cases hempty : members.isEmpty with
  | false => simp [tableMember, unlessLeftOut, hempty, Table.get?_cons]
  | true => simp [tableMember, unlessLeftOut, hempty]

/-- Whether a free value is left out. -/
def Value.isNull : Value → Bool
  | .null => true
  | _ => false

@[simp]
theorem get?_valueMember (v : Value) :
    Table.get? (valueMember name v) k =
      if name = k then unlessLeftOut v.isNull v else none := by
  cases v with
  | null => simp [valueMember, unlessLeftOut, Value.isNull]
  | _ => simp [valueMember, unlessLeftOut, Value.isNull, Table.get?_cons]

end Lookup

/-! ## Kinds of members -/

/-- A text that is left out when empty. -/
theorem member_text {s : String} (h : held names ms = unlessLeftOut (s = "") (.str s)) :
    member names "" Value.text ms = .ok s :=
  member_of_held h (fun hs => (of_decide_eq_true hs).symm) rfl

theorem needed_text {s : String} (h : held names ms = some (.str s)) :
    needed names Value.text ms = .ok s :=
  needed_of_held h rfl

theorem member_flag {b : Bool} (h : held names ms = unlessLeftOut (!b) (.bool b)) :
    member names false Value.truth ms = .ok b :=
  member_of_held h (fun hb => by simpa using hb) rfl

theorem member_free {v : Value} (h : held names ms = unlessLeftOut v.isNull v) :
    member names .null Value.free ms = .ok v := by
  refine member_of_held h (fun hnull => ?_) rfl
  cases v with
  | null => rfl
  | _ => cases hnull

@[simp]
theorem isEmpty_texts (ss : List String) : (texts ss).isEmpty = ss.isEmpty :=
  List.isEmpty_map

theorem textList_texts (ss : List String) : Value.textList (.list (texts ss)) = .ok ss := by
  have hone : ∀ s ∈ ss, Value.text (.str s) = .ok (id s) := fun _ _ => rfl
  have hread := Checked.eachFrom_map hone 0
  rwa [List.map_id] at hread

theorem member_texts {ss : List String}
    (h : held names ms = unlessLeftOut ss.isEmpty (.list (texts ss))) :
    member names [] Value.textList ms = .ok ss :=
  member_of_held h (fun hempty => (List.isEmpty_iff.mp hempty).symm) (textList_texts ss)

@[simp]
theorem isEmpty_writtenTable (w : α → Value) (t : Table String α) :
    (writtenTable w t).isEmpty = t.isEmpty :=
  List.isEmpty_map

variable {β γ : Type} {read : Value → Checked β} {w : γ → Value} {g : γ → β}

/-- A list of things that are read back one by one. -/
theorem member_list {cs : List γ} (h : held names ms = unlessLeftOut cs.isEmpty (.list (cs.map w)))
    (hread : ∀ c ∈ cs, read (w c) = .ok (g c)) :
    member names [] (Value.elements read) ms = .ok (cs.map g) := by
  refine member_of_held h (fun hempty => ?_) (Checked.eachFrom_map hread 0)
  rw [List.isEmpty_iff.mp hempty]
  rfl

theorem member_list_self {w : β → Value} {bs : List β}
    (h : held names ms = unlessLeftOut bs.isEmpty (.list (bs.map w)))
    (hread : ∀ b ∈ bs, read (w b) = .ok b) : member names [] (Value.elements read) ms = .ok bs := by
  have hlist := member_list (g := id) h hread
  rwa [List.map_id] at hlist

/-- A table of things that are read back one by one. -/
theorem member_table {t : Table String γ}
    (h : held names ms = unlessLeftOut t.isEmpty (.object (writtenTable w t)))
    (hread : ∀ entry ∈ t, read (w entry.2) = .ok (g entry.2)) :
    member names [] (Value.table read) ms = .ok (t.mapValues g) := by
  refine member_of_held h (fun hempty => ?_) (Checked.members_map hread)
  rw [List.isEmpty_iff.mp hempty]
  rfl

theorem member_table_self {w : β → Value} {t : Table String β}
    (h : held names ms = unlessLeftOut t.isEmpty (.object (writtenTable w t)))
    (hread : ∀ entry ∈ t, read (w entry.2) = .ok entry.2) :
    member names [] (Value.table read) ms = .ok t := by
  have hself : t.mapValues id = t := List.map_id t
  have htable := member_table (g := id) h hread
  rwa [hself] at htable

/-- A thing that may be absent and is not written as null. -/
theorem member_option {o : Option γ} (h : held names ms = o.map w)
    (hread : ∀ c ∈ o, (w c).isNull = false ∧ read (w c) = .ok (g c)) :
    member names none (Value.optional read) ms = .ok (o.map g) := by
  rw [member_eq_ok_iff, h]
  cases o with
  | none => rfl
  | some c =>
    obtain ⟨hnull, hok⟩ := hread c rfl
    change Value.optional read (w c) = .ok (some (g c))
    cases hw : w c with
    | null =>
      rw [hw] at hnull
      cases hnull
    | _ =>
      rw [hw] at hok
      exact Checked.map_of_ok some hok

theorem member_option_self {w : β → Value} {o : Option β} (h : held names ms = o.map w)
    (hread : ∀ b ∈ o, (w b).isNull = false ∧ read (w b) = .ok b) :
    member names none (Value.optional read) ms = .ok o := by
  have hoption := member_option (g := id) h hread
  rwa [Option.map_id] at hoption

end ApiDirectives
