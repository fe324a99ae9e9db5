import ApiDirectives.Resolve.Notice

/-!
# What resolutions yield

A resolution may stop at an unreadable version. `Resolution.Yields` says of one that does not what its
result and its notices are like. There is one rule for each way of building a resolution, so that the
statement on a function of the resolver follows the function's own text; `Resolution.Only` has the same
rules for statements on notices alone. A pass over a list relates its results to the list member by
member, with the notices in order: `Resolution.Each`.
-/

namespace ApiDirectives

/-- A run of which something about the result can be told has a result. -/
theorem exists_ok_of_toOption {ε α β : Type} {x : Except ε α} {f : α → β} {v : β}
    (h : x.toOption.map f = some v) : ∃ a, x = .ok a ∧ f a = v := by
  cases x with
  | error e => cases h
  | ok a => exact ⟨a, rfl, Option.some.inj h⟩

namespace Resolution

variable {α β : Type}

/-- Every result, with the notices on the way to it, satisfies `P`. -/
def Yields (x : Resolution α) (P : α → List Notice → Prop) : Prop :=
  ∀ a ns, x = .ok (a, ns) → P a ns

/-! ## Rules -/

theorem Yields.mono {x : Resolution α} {P Q : α → List Notice → Prop} (h : x.Yields P)
    (hPQ : ∀ a ns, P a ns → Q a ns) : x.Yields Q :=
  fun a ns hx => hPQ a ns (h a ns hx)

theorem Yields.and {x : Resolution α} {P Q : α → List Notice → Prop} (h : x.Yields P)
    (h' : x.Yields Q) : x.Yields fun a ns => P a ns ∧ Q a ns :=
  fun a ns hx => ⟨h a ns hx, h' a ns hx⟩

theorem yields_self (x : Resolution α) : x.Yields fun a ns => x = .ok (a, ns) :=
  fun _ _ h => h

theorem yields_true (x : Resolution α) : x.Yields fun _ _ => True :=
  fun _ _ _ => trivial

theorem yields_pure {P : α → List Notice → Prop} {a : α} (h : P a []) :
    Yields (Pure.pure a : Resolution α) P := by
  intro b ns hb
  cases hb
  exact h

theorem yields_bind {x : Resolution α} {f : α → Resolution β} {Q : α → List Notice → Prop}
    {P : β → List Notice → Prop} (hx : x.Yields Q)
    (hf : ∀ a ns, Q a ns → (f a).Yields fun b ms => P b (ns ++ ms)) : (x >>= f).Yields P := by
  intro b ns hb
  change bind x f = .ok (b, ns) at hb
  unfold bind at hb
  split at hb
  · cases hb
  · rename_i a before
    split at hb
    · cases hb
    · rename_i b' later hlater
      cases hb
      exact hf a before (hx a before rfl) b later hlater

theorem yields_notice {P : Unit → List Notice → Prop} {n : Notice} (h : P () [n]) :
    (notice n).Yields P := by
  intro a ns ha
  cases ha
  exact h

theorem yields_report {P : Unit → List Notice → Prop} {cause : Cause} {location : Option Location}
    (h : P () [.finding ⟨cause, location⟩]) : (report cause location).Yields P :=
  yields_notice h

/-- Asking for the dialect notices nothing, and its answer is the dialect. -/
theorem yields_typeSets {P : Bool → List Notice → Prop} {d : Dialect}
    (h : ∀ b, d = .ok b → P b []) : (typeSets d).Yields P := by
  intro b ns hb
  cases d with
  | error e => cases hb
  | ok b' =>
    cases hb
    exact h b rfl

/-- What holds in both dialects holds after asking for the dialect. -/
theorem yields_typeSets_bind {P : β → List Notice → Prop} {d : Dialect} {f : Bool → Resolution β}
    (h : ∀ b, (f b).Yields P) : (typeSets d >>= f).Yields P := by
  refine yields_bind (Q := fun _ ns => ns = []) (yields_typeSets fun _ _ => rfl) ?_
  rintro b _ rfl
  exact h b

/-- What holds in the dialect that there is holds after asking for it. -/
theorem yields_known_bind {P : β → List Notice → Prop} {b : Bool} {f : Bool → Resolution β}
    (h : (f b).Yields P) : (typeSets (.ok b) >>= f).Yields P := by
  refine yields_bind (Q := fun answer ns => answer = b ∧ ns = []) ?_ ?_
  · exact yields_typeSets fun answer hanswer => ⟨(Except.ok.inj hanswer).symm, rfl⟩
  · rintro _ _ ⟨rfl, rfl⟩
    exact h

/-! ## Notices alone -/

/-- Every notice satisfies `P`, whatever the result. -/
def Only (P : Notice → Prop) (x : Resolution α) : Prop :=
  x.Yields fun _ ns => ∀ n ∈ ns, P n

variable {P Q : Notice → Prop}

theorem Only.mono {x : Resolution α} (h : x.Only P) (hPQ : ∀ n, P n → Q n) : x.Only Q :=
  Yields.mono h fun _ _ hns n hn => hPQ n (hns n hn)

theorem only_pure (a : α) : Only P (Pure.pure a : Resolution α) :=
  yields_pure (by simp)

theorem only_bind {x : Resolution α} {f : α → Resolution β} (hx : x.Only P)
    (hf : ∀ a, (f a).Only P) : (x >>= f).Only P := by
  refine yields_bind hx fun a ns hns => Yields.mono (hf a) fun b ms hms => ?_
  exact List.forall_mem_append.mpr ⟨hns, hms⟩

theorem only_report {cause : Cause} {location : Option Location}
    (h : P (.finding ⟨cause, location⟩)) : (report cause location).Only P :=
  yields_report (List.forall_mem_singleton.mpr h)

/-! ## Passes over a list -/

/-- The results of a pass over a list, each related to its member and to its own notices. -/
inductive Each (R : α → β → List Notice → Prop) : List α → List β → List Notice → Prop
  | nil : Each R [] [] []
  | cons {a : α} {b : β} {as : List α} {bs : List β} {ns ms : List Notice} :
      R a b ns → Each R as bs ms → Each R (a :: as) (b :: bs) (ns ++ ms)

theorem yields_each {R : α → β → List Notice → Prop} {f : α → Resolution β} (xs : List α)
    (hf : ∀ a ∈ xs, (f a).Yields (R a)) : (each f xs).Yields (Each R xs) := by
  induction xs with
  | nil => exact yields_pure .nil
  | cons a xs ih =>
    refine yields_bind (hf a List.mem_cons_self) ?_
    intro b ns hb
    refine yields_bind (ih fun a' ha' => hf a' (List.mem_cons_of_mem _ ha')) ?_
    intro bs ms hbs
    refine yields_pure ?_
    rw [List.append_nil]
    exact .cons hb hbs

theorem only_each {f : α → Resolution β} (xs : List α) (hf : ∀ a ∈ xs, (f a).Only P) :
    (each f xs).Only P := by
  refine (yields_each xs hf).mono ?_
  intro bs ns heach
  clear hf
  induction heach with
  | nil => simp
  | cons hns _ ih => exact List.forall_mem_append.mpr ⟨hns, ih⟩

/-- What each result shares with its member, the lists share. -/
theorem Each.map_eq {γ : Type} {R : α → β → List Notice → Prop} {f : α → γ} {g : β → γ}
    {as : List α} {bs : List β} {ns : List Notice} (h : Each R as bs ns)
    (hfg : ∀ a b ns, R a b ns → g b = f a) : bs.map g = as.map f := by
  induction h with
  | nil => rfl
  | cons hab _ ih => rw [List.map_cons, List.map_cons, ih, hfg _ _ _ hab]

/-- Every result is that of a member. -/
theorem Each.exists_of_mem {R : α → β → List Notice → Prop} {as : List α} {bs : List β}
    {ns : List Notice} (h : Each R as bs ns) {b : β} (hb : b ∈ bs) : ∃ a ∈ as, ∃ ms, R a b ms := by
  induction h with
  | nil => cases hb
  | @cons a b' as bs ns ms hab _ ih =>
    rcases List.mem_cons.mp hb with rfl | hrest
    · exact ⟨a, List.mem_cons_self, ns, hab⟩
    · obtain ⟨a', ha', hR⟩ := ih hrest
      exact ⟨a', List.mem_cons_of_mem _ ha', hR⟩

/-- What holds of the result of each member holds of all results. -/
theorem yields_each_forall {P : β → Prop} {f : α → Resolution β} (xs : List α)
    (hf : ∀ a ∈ xs, (f a).Yields fun b _ => P b) : (each f xs).Yields fun bs _ => ∀ b ∈ bs, P b := by
  refine (yields_each (R := fun _ b _ => P b) xs hf).mono ?_
  intro bs ns heach b hb
  obtain ⟨_, _, _, hP⟩ := heach.exists_of_mem hb
  exact hP

/-- A pass has one result for each member. -/
theorem yields_each_length (f : α → Resolution β) (xs : List α) :
    (each f xs).Yields fun bs _ => bs.length = xs.length := by
  refine (yields_each (R := fun _ _ _ => True) xs fun _ _ => yields_true _).mono ?_
  intro bs ns heach
  clear f
  induction heach with
  | nil => rfl
  | cons _ _ ih => rw [List.length_cons, List.length_cons, ih]

end Resolution

end ApiDirectives
