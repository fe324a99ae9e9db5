import ApiDirectives.Proofs.Assembly.Run
import Mathlib.Data.List.Perm.Basic

/-!
# Independence of the roles

The blocks of a role read and write one part of an assembly and nothing else: two assemblies that
agree on this part (`Assembly.AgreeOn`) still agree on it after a block of the role, which finds the
same in both, and a block of another role leaves the part alone. So a run does to each part what the
blocks of its role do by themselves, and how the blocks of different roles are interleaved decides
nothing but the order in which their findings are reported.
-/

namespace ApiDirectives

namespace Assembly

/-! ## Who finds what -/

/-- The findings that a block adds. -/
def added (a : Assembly) (block : Block) : List Diagnostic :=
  (a.step block).diagnostics.drop a.diagnostics.length

/-- The findings that the blocks of a role add in a run, in order. -/
def causedBy (role : Role) (a : Assembly) : List Block → List Diagnostic
  | [] => []
  | block :: rest =>
    (if block.role = role then a.added block else []) ++ causedBy role (a.step block) rest

theorem step_diagnostics (a : Assembly) (block : Block) :
    (a.step block).diagnostics = a.diagnostics ++ a.added block := by
  obtain ⟨found, hfound, _⟩ := step_diagnostics_scope a block
  simp [added, hfound]

theorem added_within (a : Assembly) (block : Block) : Within block.role (a.added block) := by
  obtain ⟨found, hfound, hwithin⟩ := step_diagnostics_scope a block
  simpa [added, hfound] using hwithin

/-- The findings whose cause belongs to a role are those that the blocks of the role add. -/
theorem filter_scope_run (role : Role) (a : Assembly) (blocks : List Block) :
    (a.run blocks).diagnostics.filter (·.cause.scope = role) =
      a.diagnostics.filter (·.cause.scope = role) ++ a.causedBy role blocks := by
  induction blocks generalizing a with
  | nil => simp [run, causedBy]
  | cons block rest ih =>
    have hown : (a.added block).filter (·.cause.scope = role) =
        if block.role = role then a.added block else [] := by
      have hwithin := added_within a block
      split
      · rename_i hrole
        rw [List.filter_eq_self]
        intro d hd
        simp [hwithin d hd, hrole]
      · rename_i hrole
        rw [List.filter_eq_nil_iff]
        intro d hd
        simp [hwithin d hd, hrole]
    have hrest := ih (a.step block)
    rw [step_diagnostics, List.filter_append, hown, List.append_assoc] at hrest
    exact hrest

/-! ## The part of a role -/

/-- Two assemblies have the same part of a role: what its blocks read and write. -/
def AgreeOn (a b : Assembly) : Role → Prop
  | .api => a.draft.header = b.draft.header
  | .operation => a.draft.operations = b.draft.operations
  | .schema => a.draft.models = b.draft.models ∧ a.rejected = b.rejected
  | .none => True

theorem AgreeOn.symm {a b : Assembly} {role : Role} (h : a.AgreeOn b role) : b.AgreeOn a role := by
  cases role with
  | none => trivial
  | api => exact Eq.symm h
  | operation => exact Eq.symm h
  | schema => exact ⟨h.1.symm, h.2.symm⟩

theorem AgreeOn.trans {a b c : Assembly} {role : Role} (hab : a.AgreeOn b role)
    (hbc : b.AgreeOn c role) : a.AgreeOn c role := by
  cases role with
  | none => trivial
  | api => exact Eq.trans hab hbc
  | operation => exact Eq.trans hab hbc
  | schema => exact ⟨hab.1.trans hbc.1, hab.2.trans hbc.2⟩

/-- A draft has no other parts. -/
theorem draft_eq_of_agreeOn {a b : Assembly} (h : ∀ role, role ≠ .none → a.AgreeOn b role) :
    a.draft = b.draft := by
  have hheader : a.draft.header = b.draft.header := h .api (by decide)
  have hoperations : a.draft.operations = b.draft.operations := h .operation (by decide)
  have hmodels : a.draft.models = b.draft.models := (h .schema (by decide)).1
  cases hdraft : a.draft
  cases hdraft' : b.draft
  simp_all

variable {a b : Assembly} {block : Block} {role : Role}

/-- What a block does depends only on the part of its role. -/
theorem AgreeOn.step (h : a.AgreeOn b block.role) :
    (a.step block).AgreeOn (b.step block) block.role ∧ a.added block = b.added block := by
  unfold added
  cases hrole : block.role with
  | none => exact ⟨trivial, by simp [step_none hrole]⟩
  | api =>
    rw [hrole] at h
    have hheader : a.draft.header = b.draft.header := h
    exact ⟨by simp [AgreeOn, step_api hrole, hheader], by simp [step_api hrole, hheader]⟩
  | operation =>
    rw [hrole] at h
    have hoperations : a.draft.operations = b.draft.operations := h
    exact ⟨by simp [AgreeOn, step_operation hrole, hoperations],
      by simp [step_operation hrole, hoperations]⟩
  | schema =>
    rw [hrole] at h
    obtain ⟨hmodels, hrejected⟩ : a.draft.models = b.draft.models ∧ a.rejected = b.rejected := h
    exact ⟨by simp [AgreeOn, step_schema hrole, hmodels, hrejected],
      by simp [step_schema hrole, hmodels, hrejected]⟩

/-- A block leaves the parts of the other roles alone. -/
theorem agreeOn_step_of_role_ne (h : block.role ≠ role) : (a.step block).AgreeOn a role := by
  cases hrole : block.role with
  | none =>
    rw [step_none hrole]
    cases role <;> simp [AgreeOn]
  | api => cases role <;> simp_all [AgreeOn, step_api hrole]
  | operation => cases role <;> simp_all [AgreeOn, step_operation hrole]
  | schema => cases role <;> simp_all [AgreeOn, step_schema hrole]

/-- A run does to the part of a role what the blocks of the role do by themselves. -/
theorem AgreeOn.run (h : a.AgreeOn b role) (blocks : List Block) :
    (a.run blocks).AgreeOn (b.run (blocks.filter (·.role = role))) role ∧
      a.causedBy role blocks = b.causedBy role (blocks.filter (·.role = role)) := by
  induction blocks generalizing a b with
  | nil => exact ⟨h, rfl⟩
  | cons block rest ih =>
    by_cases hrole : block.role = role
    · subst hrole
      obtain ⟨hpart, hadded⟩ := h.step
      obtain ⟨hruns, hcaused⟩ := ih hpart
      rw [List.filter_cons_of_pos (by simp)]
      exact ⟨hruns, by simp only [causedBy, if_pos, hadded, hcaused]⟩
    · obtain ⟨hruns, hcaused⟩ := ih ((agreeOn_step_of_role_ne hrole).trans h)
      rw [List.filter_cons_of_neg (by simpa using hrole)]
      exact ⟨hruns, by simpa only [causedBy, if_neg hrole, List.nil_append] using hcaused⟩

/-- A block without a role finds nothing. -/
theorem causedBy_none (a : Assembly) (blocks : List Block) : a.causedBy .none blocks = [] := by
  induction blocks generalizing a with
  | nil => rfl
  | cons block rest ih =>
    by_cases hrole : block.role = .none
    · simp [causedBy, hrole, added, step_none hrole, ih]
    · simp [causedBy, hrole, ih]

end Assembly

/-! ## Interleavings -/

/-- How the blocks of different roles are interleaved, and where blocks without a role stand, changes
nothing in the draft. The findings are the same up to order, and in the same order for each role. -/
theorem assemble_interleaving {xs ys : List Block}
    (h : ∀ role, role ≠ .none →
      xs.filter (·.role = role) = ys.filter (·.role = role)) :
    (assemble xs).draft = (assemble ys).draft ∧
      (assemble xs).diagnostics.Perm (assemble ys).diagnostics ∧
      ∀ role, Assembly.causedBy role {} xs = Assembly.causedBy role {} ys := by
  have hself : ∀ role, Assembly.AgreeOn {} {} role := by
    intro role
    cases role <;> simp [Assembly.AgreeOn]
  -- Both runs are compared with the run over the blocks of one role, which they have in common.
  have hparts : ∀ role, role ≠ .none → (assemble xs).AgreeOn (assemble ys) role := by
    intro role hrole
    have hxs := ((hself role).run xs).1
    have hys := ((hself role).run ys).1
    rw [h role hrole] at hxs
    exact hxs.trans hys.symm
  have hcaused : ∀ role, Assembly.causedBy role {} xs = Assembly.causedBy role {} ys := by
    intro role
    by_cases hrole : role = .none
    · rw [hrole, Assembly.causedBy_none, Assembly.causedBy_none]
    · rw [((hself role).run xs).2, ((hself role).run ys).2, h role hrole]
  refine ⟨Assembly.draft_eq_of_agreeOn hparts, ?_, hcaused⟩
  have hscopes : ∀ role, (assemble xs).diagnostics.filter (·.cause.scope = role) =
      (assemble ys).diagnostics.filter (·.cause.scope = role) := by
    intro role
    have hxs := Assembly.filter_scope_run role {} xs
    have hys := Assembly.filter_scope_run role {} ys
    rw [hcaused role, ← hys] at hxs
    exact hxs
  rw [List.perm_iff_count]
  intro d
  have hcount : ∀ ds : List Diagnostic,
      (ds.filter (·.cause.scope = d.cause.scope)).count d = ds.count d := by
    intro ds
    exact List.count_filter (by simp)
  rw [← hcount (assemble xs).diagnostics, hscopes, hcount]

/-- A finding in each role: other interleavings report them in another order. -/
theorem assemble_interleaving_at_three_findings :
    let header := Block.ofComment "!api 3.1.0\n!model" "api" .module ⟨"api.py", 1⟩
    let first := Block.ofComment "!GET /pets -> pets" "pets" .function ⟨"api.py", 4⟩
    let again := Block.ofComment "!GET /pets -> all" "all" .function ⟨"api.py", 8⟩
    let model := Block.ofComment "!model\n!model" "Pet" .classBody ⟨"api.py", 12⟩
    let plain := Block.ofComment "no directive" "main" .function ⟨"api.py", 20⟩
    let xs := [header, first, model, again]
    let ys := [first, plain, again, model, header, plain]
    (∀ role, role ≠ .none → xs.filter (·.role = role) = ys.filter (·.role = role)) ∧
      (assemble xs).draft = (assemble ys).draft ∧
      (assemble xs).diagnostics.Perm (assemble ys).diagnostics ∧
      (assemble xs).diagnostics ≠ (assemble ys).diagnostics ∧
      (assemble xs).diagnostics.length = 3 := by
  intro header first again model plain xs ys
  obtain ⟨hroles, horder, hthree⟩ :
      (∀ role, role ≠ .none → xs.filter (·.role = role) = ys.filter (·.role = role)) ∧
      (assemble xs).diagnostics ≠ (assemble ys).diagnostics ∧
      (assemble xs).diagnostics.length = 3 := by
    dsimp only [xs, ys, header, first, again, model, plain]
    iterate 5 rw [Block.ofComment_ofList]
    refine ⟨fun role hrole => ?_, by decide, by decide⟩
    cases role with
    | none => exact absurd rfl hrole
    | api => decide
    | operation => decide
    | schema => decide
  obtain ⟨hdraft, hperm, _⟩ := assemble_interleaving hroles
  exact ⟨hroles, hdraft, hperm, horder, hthree⟩

end ApiDirectives
