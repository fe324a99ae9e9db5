import ApiDirectives.Proofs.Resolve.Yields

/-!
# Resolutions that go through parts

Much of the resolver is a pass over parts of a draft that have nothing to do with each other. To say
that a function is such a pass, `Resolution.Performs` compares it with `Resolution.through`, the plain
pass over a list: both stop at the same fault, or notice the same and have results that are related.
There is one rule for each way of building a resolution, as for `Resolution.Yields`. From a comparison
it can be read off when the function returns and where its results and notices come from.
-/

namespace ApiDirectives

namespace Resolution

variable {α β : Type}

/-! ## Laws of the monad -/

theorem map_id (x : Resolution α) : id <$> x = x := by
  rcases x with e | ⟨a, ns⟩
  · rfl
  · change Except.ok (a, ns ++ []) = Except.ok (a, ns)
    rw [List.append_nil]

theorem pure_bind_eq (a : α) (f : α → Resolution β) : (Pure.pure a >>= f) = f a := by
  change bind (.ok (a, [])) f = f a
  unfold bind
  dsimp only
  rcases f a with e | ⟨b, ns⟩
  · rfl
  · rfl

theorem bind_assoc_eq {γ : Type} (x : Resolution α) (f : α → Resolution β)
    (g : β → Resolution γ) : (x >>= f >>= g) = x >>= fun a => f a >>= g := by
  rcases x with e | ⟨a, ns⟩
  · rfl
  · change bind (bind (.ok (a, ns)) f) g = bind (.ok (a, ns)) fun a => bind (f a) g
    unfold bind
    dsimp only
    rcases f a with e | ⟨b, ms⟩
    · rfl
    · dsimp only
      rcases g b with e | ⟨c, ls⟩
      · rfl
      · dsimp only
        rw [List.append_assoc]

instance : LawfulMonad Resolution :=
  LawfulMonad.mk' Resolution map_id pure_bind_eq bind_assoc_eq

/-! ## Resolutions that go together -/

/-- Both resolutions stop at one fault, or both have results, related ones, and notice the same. -/
inductive Agree (R : α → β → Prop) : Resolution α → Resolution β → Prop
  | stop (e : VersionFault) : Agree R (.error e) (.error e)
  | done {a : α} {b : β} (ns : List Notice) : R a b → Agree R (.ok (a, ns)) (.ok (b, ns))

theorem agree_pure {R : α → β → Prop} {a : α} {b : β} (h : R a b) :
    Agree R (Pure.pure a : Resolution α) (Pure.pure b : Resolution β) :=
  .done [] h

theorem agree_refl (x : Resolution α) : Agree Eq x x := by
  cases x with
  | error e => exact .stop e
  | ok r => exact .done r.2 rfl

theorem Agree.mono {R S : α → β → Prop} {x : Resolution α} {y : Resolution β} (h : Agree R x y)
    (hRS : ∀ a b, R a b → S a b) : Agree S x y := by
  cases h with
  | stop e => exact .stop e
  | done ns hab => exact .done ns (hRS _ _ hab)

theorem Agree.and_left {R : α → β → Prop} {Q : α → Prop} {x : Resolution α} {y : Resolution β}
    (h : Agree R x y) (hx : x.Yields fun a _ => Q a) : Agree (fun a b => Q a ∧ R a b) x y := by
  cases h with
  | stop e => exact .stop e
  | done ns hab => exact .done ns ⟨hx _ _ rfl, hab⟩

theorem agree_bind {α' β' : Type} {R : α → β → Prop} {S : α' → β' → Prop} {x : Resolution α}
    {y : Resolution β} {f : α → Resolution α'} {g : β → Resolution β'} (h : Agree R x y)
    (hfg : ∀ a b, R a b → Agree S (f a) (g b)) : Agree S (x >>= f) (y >>= g) := by
  cases h with
  | stop e => exact .stop e
  | @done a b ns hab =>
    have hnext := hfg a b hab
    change Agree S (bind (.ok (a, ns)) f) (bind (.ok (b, ns)) g)
    unfold bind
    dsimp only
    generalize f a = x at hnext ⊢
    generalize g b = y at hnext ⊢
    cases hnext with
    | stop e => exact .stop e
    | done ms hab' => exact .done (ns ++ ms) hab'

/-! ## Going through parts -/

/-- Resolves parts in order, and joins the lists that they give. -/
def through {π σ : Type} (run : π → Resolution (List σ)) (parts : List π) : Resolution (List σ) := do
  let lists ← each run parts
  return lists.flatten

variable {π σ : Type} {run : π → Resolution (List σ)}

theorem each_cons (f : α → Resolution β) (a : α) (xs : List α) :
    each f (a :: xs) = do
      let b ← f a
      let bs ← each f xs
      return b :: bs := rfl

theorem each_append {f : α → Resolution β} (xs ys : List α) :
    each f (xs ++ ys) = do
      let as ← each f xs
      let bs ← each f ys
      return as ++ bs := by
  induction xs with
  | nil =>
    change each f ys = Pure.pure [] >>= _
    simp
  | cons x xs ih => simp [each_cons, ih]

theorem through_append (ps qs : List π) :
    through run (ps ++ qs) = do
      let ss ← through run ps
      let ts ← through run qs
      return ss ++ ts := by
  simp [through, each_append]

/-- A resolution is going through parts: it stops where they stop and notices what they notice, and its
result is related to the list that they give. -/
def Performs (x : Resolution α) (run : π → Resolution (List σ)) (parts : List π)
    (P : α → List σ → Prop) : Prop :=
  Agree P x (through run parts)

variable {x : Resolution α} {ps qs : List π}

theorem performs_pure {P : α → List σ → Prop} {a : α} (h : P a []) :
    (Pure.pure a : Resolution α).Performs run [] P :=
  agree_pure h

theorem Performs.mono {P Q : α → List σ → Prop} (h : x.Performs run ps P)
    (hPQ : ∀ a ss, P a ss → Q a ss) : x.Performs run ps Q :=
  Agree.mono h hPQ

theorem Performs.and_yields {P : α → List σ → Prop} {Q : α → Prop} (h : x.Performs run ps P)
    (hx : x.Yields fun a _ => Q a) : x.Performs run ps fun a ss => Q a ∧ P a ss :=
  Agree.and_left h hx

theorem performs_bind {f : α → Resolution β} {Q : α → List σ → Prop} {P : β → List σ → Prop}
    (hx : x.Performs run ps Q)
    (hf : ∀ a ss, Q a ss → (f a).Performs run qs fun b ts => P b (ss ++ ts)) :
    (x >>= f).Performs run (ps ++ qs) P := by
  unfold Performs
  rw [through_append]
  refine agree_bind hx fun a ss hss => ?_
  rw [← bind_pure (f a)]
  exact agree_bind (hf a ss hss) fun b ts hts => agree_pure hts

/-- A last step that only puts results in shape. -/
theorem performs_map {f : α → β} {Q : α → List σ → Prop} {P : β → List σ → Prop}
    (hx : x.Performs run ps Q) (hf : ∀ a ss, Q a ss → P (f a) ss) :
    (do let a ← x; return f a : Resolution β).Performs run ps P := by
  rw [← List.append_nil ps]
  refine performs_bind hx fun a ss hss => performs_pure ?_
  rw [List.append_nil]
  exact hf a ss hss

/-- A resolution that is a single part, up to the shape of its result. -/
theorem performs_part {v : α → List σ} {p : π} (h : run p = do let a ← x; return v a) :
    x.Performs run [p] fun a ss => ss = v a := by
  have hone : through run [p] = run p := by
    simp only [through, each_cons]
    change (do let lists ← (do let b ← run p; let bs ← Pure.pure []; Pure.pure (b :: bs))
               Pure.pure lists.flatten) = run p
    simp
  have hx : Agree (fun a ss => ss = v a) (x >>= Pure.pure) (x >>= fun a => Pure.pure (v a)) :=
    agree_bind (agree_refl x) fun a b hab => agree_pure (by rw [hab])
  rw [bind_pure, ← h, ← hone] at hx
  exact hx

theorem performs_each {f : α → Resolution β} {parts : α → List π} {R : β → List σ → Prop}
    {S : List β → List σ → Prop} (hnil : S [] [])
    (hcons : ∀ b bs ss ts, R b ss → S bs ts → S (b :: bs) (ss ++ ts)) (xs : List α)
    (hf : ∀ a ∈ xs, (f a).Performs run (parts a) R) :
    (each f xs).Performs run (xs.flatMap parts) S := by
  induction xs with
  | nil => exact performs_pure hnil
  | cons a xs ih =>
    refine performs_bind (hf a List.mem_cons_self) fun b ss hb => ?_
    refine performs_map (ih fun a' ha' => hf a' (List.mem_cons_of_mem _ ha')) fun bs ts hbs => ?_
    exact hcons b bs ss ts hb hbs

/-- A pass over a list gives the lists of its results, joined. -/
theorem performs_flatMap {f : α → Resolution β} {parts : α → List π} {v : β → List σ}
    (xs : List α) (hf : ∀ a ∈ xs, (f a).Performs run (parts a) fun b ss => ss = v b) :
    (each f xs).Performs run (xs.flatMap parts) fun bs ss => ss = bs.flatMap v := by
  refine performs_each (R := fun b ss => ss = v b) (S := fun bs ss => ss = bs.flatMap v) rfl ?_ xs hf
  rintro b bs _ _ rfl rfl
  rfl

/-! ## Results -/

theorem bind_eq_ok_iff {f : α → Resolution β} {b : β} {ns : List Notice} :
    (x >>= f) = .ok (b, ns) ↔
      ∃ a before later, x = .ok (a, before) ∧ f a = .ok (b, later) ∧ ns = before ++ later := by
  constructor
  · intro h
    change bind x f = .ok (b, ns) at h
    unfold bind at h
    split at h
    · cases h
    · rename_i a before
      split at h
      · cases h
      · rename_i b' later hlater
        cases h
        exact ⟨a, before, later, rfl, hlater, rfl⟩
  · rintro ⟨a, before, later, rfl, hf, rfl⟩
    change bind (.ok (a, before)) f = .ok (b, before ++ later)
    simp only [bind, hf]
    rfl

/-- A resolution that does not stop. -/
def Returns (x : Resolution α) : Prop :=
  ∃ a ns, x = .ok (a, ns)

theorem returns_pure (a : α) : (Pure.pure a : Resolution α).Returns :=
  ⟨a, [], rfl⟩

theorem returns_report (cause : Cause) (location : Option Location) :
    (report cause location).Returns :=
  ⟨(), _, rfl⟩

/-- The dialect can be asked for if there is one. -/
theorem returns_typeSets_iff {d : Dialect} : (typeSets d).Returns ↔ ∃ b, d = .ok b := by
  constructor
  · rintro ⟨b, ns, h⟩
    cases d with
    | error e => cases h
    | ok b' => exact ⟨b', rfl⟩
  · rintro ⟨b, rfl⟩
    exact ⟨b, [], rfl⟩

theorem returns_bind_iff {f : α → Resolution β} :
    (x >>= f).Returns ↔ ∃ a ns, x = .ok (a, ns) ∧ (f a).Returns := by
  constructor
  · rintro ⟨b, ns, h⟩
    obtain ⟨a, before, later, hx, hf, _⟩ := bind_eq_ok_iff.mp h
    exact ⟨a, before, hx, b, later, hf⟩
  · rintro ⟨a, before, hx, b, later, hf⟩
    exact ⟨b, _, bind_eq_ok_iff.mpr ⟨a, before, later, hx, hf, rfl⟩⟩

/-- Where the rest returns whatever came before, the first step decides. -/
theorem returns_bind_left_iff {f : α → Resolution β} (hf : ∀ a, (f a).Returns) :
    (x >>= f).Returns ↔ x.Returns := by
  rw [returns_bind_iff]
  constructor
  · rintro ⟨a, ns, h, _⟩
    exact ⟨a, ns, h⟩
  · rintro ⟨a, ns, h⟩
    exact ⟨a, ns, h, hf a⟩

theorem returns_bind {f : α → Resolution β} (hx : x.Returns) (hf : ∀ a, (f a).Returns) :
    (x >>= f).Returns :=
  (returns_bind_left_iff hf).mpr hx

theorem returns_each_iff {f : α → Resolution β} {xs : List α} :
    (each f xs).Returns ↔ ∀ a ∈ xs, (f a).Returns := by
  induction xs with
  | nil => exact ⟨fun _ => by simp, fun _ => returns_pure []⟩
  | cons a xs ih =>
    rw [List.forall_mem_cons, ← ih, each_cons]
    constructor
    · intro h
      obtain ⟨b, ns, hb, hrest⟩ := returns_bind_iff.mp h
      exact ⟨⟨b, ns, hb⟩, (returns_bind_left_iff fun _ => returns_pure _).mp hrest⟩
    · rintro ⟨⟨b, ns, hb⟩, hrest⟩
      exact returns_bind_iff.mpr
        ⟨b, ns, hb, (returns_bind_left_iff fun _ => returns_pure _).mpr hrest⟩

/-! ## What a pass gives -/

/-- A resolution that has a result with some member in its list. -/
def Gives (y : Resolution (List σ)) (s : σ) : Prop :=
  ∃ ss ns, y = .ok (ss, ns) ∧ s ∈ ss

/-- A resolution that has a result and notices something on the way. -/
def Notices (x : Resolution α) (n : Notice) : Prop :=
  ∃ a ns, x = .ok (a, ns) ∧ n ∈ ns

theorem gives_iff {y : Resolution (List σ)} {ss : List σ} {ns : List Notice} (h : y = .ok (ss, ns))
    {s : σ} : y.Gives s ↔ s ∈ ss := by
  subst h
  constructor
  · rintro ⟨ss', ns', heq, hs⟩
    cases heq
    exact hs
  · intro hs
    exact ⟨ss, ns, rfl, hs⟩

theorem Yields.of_gives {y : Resolution (List σ)} {A : σ → Prop}
    (h : y.Yields fun ss _ => ∀ s ∈ ss, A s) {s : σ} (hs : y.Gives s) : A s := by
  obtain ⟨ss, ns, hy, hmem⟩ := hs
  exact h ss ns hy s hmem

theorem notices_iff {a : α} {ns : List Notice} (h : x = .ok (a, ns)) {n : Notice} :
    x.Notices n ↔ n ∈ ns := by
  subst h
  constructor
  · rintro ⟨a', ns', heq, hn⟩
    cases heq
    exact hn
  · intro hn
    exact ⟨a, ns, rfl, hn⟩

/-- What is noticed on the way to a result. -/
def noted (x : Resolution α) : List Notice :=
  match x with
  | .error _ => []
  | .ok (_, ns) => ns

theorem Yields.noted {P : List Notice → Prop} (h : x.Yields fun _ ns => P ns) (hnil : P []) :
    P x.noted := by
  rcases x with e | ⟨a, ns⟩
  · exact hnil
  · exact h a ns rfl

/-- A pass notices what its members notice, one after another. -/
theorem each_noted {f : α → Resolution β} {xs : List α} {bs : List β} {ns : List Notice}
    (h : each f xs = .ok (bs, ns)) : ns = xs.flatMap fun a => (f a).noted := by
  induction xs generalizing bs ns with
  | nil =>
    cases h
    rfl
  | cons a xs ih =>
    rw [each_cons] at h
    obtain ⟨b, before, later, ha, hrest, rfl⟩ := bind_eq_ok_iff.mp h
    obtain ⟨rest, ms, last, hxs, hlast, rfl⟩ := bind_eq_ok_iff.mp hrest
    cases hlast
    rw [List.flatMap_cons, ← ih hxs, ha, List.append_nil]
    rfl

/-- A pass gives what some part gives, and notices what some part notices. -/
theorem each_flatten {run : π → Resolution (List σ)} {lists : List (List σ)} {ns : List Notice}
    (h : each run ps = .ok (lists, ns)) :
    (∀ s, s ∈ lists.flatten ↔ ∃ p ∈ ps, (run p).Gives s) ∧
      ∀ n, n ∈ ns ↔ ∃ p ∈ ps, (run p).Notices n := by
  induction ps generalizing lists ns with
  | nil =>
    cases h
    simp
  | cons p ps ih =>
    rw [each_cons] at h
    obtain ⟨ss, before, later, hp, hrest, rfl⟩ := bind_eq_ok_iff.mp h
    obtain ⟨rest, ms, last, hps, hlast, rfl⟩ := bind_eq_ok_iff.mp hrest
    cases hlast
    obtain ⟨hgives, hnotices⟩ := ih hps
    simp [gives_iff hp, notices_iff hp, hgives, hnotices]

namespace Performs

variable {P : α → List σ → Prop}

/-- A pass returns exactly if all its parts do. -/
theorem returns_iff (h : x.Performs run ps P) : x.Returns ↔ ∀ p ∈ ps, (run p).Returns := by
  rw [← returns_each_iff, ← returns_bind_left_iff fun lists => returns_pure (List.flatten lists)]
  unfold Performs through at h
  constructor
  · rintro ⟨a, ns, rfl⟩
    generalize (each run ps >>= _) = y at h ⊢
    cases h with
    | done ns hab => exact ⟨_, _, rfl⟩
  · rintro ⟨ss, ns, hss⟩
    rw [hss] at h
    cases h with
    | done ns hab => exact ⟨_, _, rfl⟩

/-- What a pass results in and what it notices comes from its parts. -/
theorem of_ok (h : x.Performs run ps P) {a : α} {ns : List Notice} (hx : x = .ok (a, ns)) :
    ∃ ss, P a ss ∧ (∀ s, s ∈ ss ↔ ∃ p ∈ ps, (run p).Gives s) ∧
      ∀ n, n ∈ ns ↔ ∃ p ∈ ps, (run p).Notices n := by
  subst hx
  unfold Performs at h
  generalize hthrough : through run ps = y at h
  cases h with
  | @done _ ss _ hP =>
    obtain ⟨lists, before, later, heach, hflat, rfl⟩ := bind_eq_ok_iff.mp hthrough
    cases hflat
    rw [List.append_nil]
    exact ⟨_, hP, each_flatten heach⟩

/-- A resolution that goes through parts notices what they notice, one after another. -/
theorem noted_eq (h : x.Performs run ps P) {a : α} {ns : List Notice} (hx : x = .ok (a, ns)) :
    ns = ps.flatMap fun p => (run p).noted := by
  subst hx
  unfold Performs at h
  generalize hthrough : through run ps = y at h
  cases h with
  | @done _ ss _ hP =>
    obtain ⟨lists, before, later, heach, hflat, rfl⟩ := bind_eq_ok_iff.mp hthrough
    cases hflat
    rw [List.append_nil]
    exact each_noted heach

end Performs

end Resolution

end ApiDirectives
