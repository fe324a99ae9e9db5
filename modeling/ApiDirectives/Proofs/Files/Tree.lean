import ApiDirectives.Proofs.Files.Path
import Mathlib.Data.List.Forall2

/-!
# Trees of files

In a tree of files the names in a directory differ and are parts of paths: `Entry.WellNamed`.
Nothing is said of the order in which a directory lists its entries. `Entry.Relisted` compares two
trees that differ in nothing else: sorted by name, their directories list the same names, and a
path leads to the same entry in both, up to the order in which that entry lists its own.
-/

namespace ApiDirectives

namespace Entry

/-- A tree in which the names of each directory differ and are parts of paths. -/
inductive WellNamed : Entry → Prop
  | file (bytes : List UInt8) : WellNamed (.file bytes)
  | directory {entries : List (String × Entry)} :
      (entries.map Prod.fst).Nodup → (∀ entry ∈ entries, IsPart entry.1) →
        (∀ entry ∈ entries, WellNamed entry.2) → WellNamed (.directory entries)

/-- The same tree, its directories listed in another order: the names are the same, and under one
name there is the same tree in this sense. -/
inductive Relisted : Entry → Entry → Prop
  | file (bytes : List UInt8) : Relisted (.file bytes) (.file bytes)
  | directory {entries entries' : List (String × Entry)} :
      (entries.map Prod.fst).Perm (entries'.map Prod.fst) →
        (∀ name e e', (name, e) ∈ entries → (name, e') ∈ entries' → Relisted e e') →
          Relisted (.directory entries) (.directory entries')

/-- What stands at the end of a chain of names. -/
def at? (e : Entry) : List String → Option Entry
  | [] => some e
  | name :: rest =>
    match e.child? name with
    | none => none
    | some c => c.at? rest

theorem at?_cons_eq_some_iff {e t : Entry} {name : String} {rest : List String} :
    e.at? (name :: rest) = some t ↔ ∃ c, e.child? name = some c ∧ c.at? rest = some t := by
  rw [at?]
  cases e.child? name with
  | none => simp
  | some c => simp

section WellNamed

variable {entries : List (String × Entry)}

theorem WellNamed.nodup (h : (Entry.directory entries).WellNamed) :
    (entries.map Prod.fst).Nodup := by
  cases h with
  | directory hnodup _ _ => exact hnodup

theorem WellNamed.isPart (h : (Entry.directory entries).WellNamed) {name : String} {e : Entry}
    (hmem : (name, e) ∈ entries) : IsPart name := by
  cases h with
  | directory _ hparts _ => exact hparts _ hmem

theorem WellNamed.inner (h : (Entry.directory entries).WellNamed) {name : String} {e : Entry}
    (hmem : (name, e) ∈ entries) : e.WellNamed := by
  cases h with
  | directory _ _ hinner => exact hinner _ hmem

theorem WellNamed.oneFile {name : String} (h : IsPart name) (bytes : List UInt8) :
    (Entry.directory [(name, .file bytes)]).WellNamed := by
  refine .directory (List.pairwise_singleton _ _) ?_ ?_
  · exact List.forall_mem_singleton.mpr h
  · exact List.forall_mem_singleton.mpr (.file bytes)

/-- Where names differ, an entry is found under its name. -/
theorem child?_eq_some_iff (h : (entries.map Prod.fst).Nodup) {name : String} {e : Entry} :
    (Entry.directory entries).child? name = some e ↔ (name, e) ∈ entries := by
  unfold child?
  induction entries with
  | nil => simp
  | cons entry entries ih =>
    obtain ⟨first, c⟩ := entry
    rw [List.map_cons, List.nodup_cons] at h
    obtain ⟨hfirst, hrest⟩ := h
    by_cases hname : name = first
    · subst hname
      have hno : (name, e) ∉ entries := fun hmem =>
        hfirst (List.mem_map.mpr ⟨(name, e), hmem, rfl⟩)
      simp [hno, eq_comm]
    · have hbeq : (name == first) = false := beq_false_of_ne hname
      simp only [List.lookup_cons, hbeq, ih hrest, List.mem_cons, Prod.mk.injEq, hname, false_and,
        false_or]

theorem WellNamed.child? {e c : Entry} (h : e.WellNamed) {name : String}
    (hchild : e.child? name = some c) : IsPart name ∧ c.WellNamed := by
  cases e with
  | file bytes => cases hchild
  | directory entries =>
    have hmem := (child?_eq_some_iff h.nodup).mp hchild
    exact ⟨h.isPart hmem, h.inner hmem⟩

/-- The names on the way to an entry are parts of paths. -/
theorem WellNamed.isPart_of_at? {e t : Entry} (h : e.WellNamed) {parts : List String}
    (hat : e.at? parts = some t) : ∀ part ∈ parts, IsPart part := by
  induction parts generalizing e with
  | nil => simp
  | cons name rest ih =>
    obtain ⟨c, hchild, hrest⟩ := at?_cons_eq_some_iff.mp hat
    obtain ⟨hname, hc⟩ := h.child? hchild
    exact List.forall_mem_cons.mpr ⟨hname, ih hc hrest⟩

end WellNamed

/-! ## Depth -/

theorem depthOfAll_le_iff {entries : List (String × Entry)} {n : Nat} :
    depthOfAll entries ≤ n ↔ ∀ entry ∈ entries, entry.2.depth ≤ n := by
  induction entries with
  | nil => simp [depthOfAll]
  | cons entry entries ih =>
    rw [depthOfAll, List.forall_mem_cons, ← ih]
    exact Nat.max_le

/-- The depth does not depend on the order of listing. -/
theorem Relisted.depth_eq {e e' : Entry} (h : e.Relisted e') : e.depth = e'.depth := by
  induction h with
  | file bytes => rfl
  | @directory entries entries' hnames _ ih =>
    have hle : depthOfAll entries ≤ depthOfAll entries' := by
      refine depthOfAll_le_iff.mpr fun entry hentry => ?_
      obtain ⟨entry', hentry', hname⟩ :=
        List.mem_map.mp (hnames.mem_iff.mp (List.mem_map_of_mem hentry))
      rw [ih entry.1 entry.2 entry'.2 hentry (hname ▸ hentry')]
      exact depthOfAll_le_iff.mp (Nat.le_refl _) entry' hentry'
    have hge : depthOfAll entries' ≤ depthOfAll entries := by
      refine depthOfAll_le_iff.mpr fun entry' hentry' => ?_
      obtain ⟨entry, hentry, hname⟩ :=
        List.mem_map.mp (hnames.mem_iff.mpr (List.mem_map_of_mem hentry'))
      rw [← ih entry'.1 entry.2 entry'.2 (hname ▸ hentry) hentry']
      exact depthOfAll_le_iff.mp (Nat.le_refl _) entry hentry
    rw [depth, depth, Nat.le_antisymm hle hge]

end Entry

/-! ## Entries by name -/

theorem byName_perm (entries : List (String × Entry)) : (byName entries).Perm entries :=
  List.mergeSort_perm ..

theorem mem_byName {entries : List (String × Entry)} {entry : String × Entry} :
    entry ∈ byName entries ↔ entry ∈ entries :=
  (byName_perm entries).mem_iff

theorem byName_of_pairwise {entries : List (String × Entry)}
    (h : entries.Pairwise fun a b => a.1 ≤ b.1) : byName entries = entries :=
  List.mergeSort_of_pairwise (h.imp decide_eq_true)

/-- Different names are sorted strictly. -/
theorem byName_pairwise {entries : List (String × Entry)} (h : (entries.map Prod.fst).Nodup) :
    (byName entries).Pairwise fun a b => a.1 < b.1 := by
  have hle : (byName entries).Pairwise fun a b => decide (a.1 ≤ b.1) = true := by
    refine List.pairwise_mergeSort (fun a b c hab hbc => ?_) (fun a b => ?_) entries
    · exact decide_eq_true (String.le_trans (of_decide_eq_true hab) (of_decide_eq_true hbc))
    · simpa using String.le_total a.1 b.1
  have hne : (byName entries).Pairwise fun a b => a.1 ≠ b.1 :=
    List.pairwise_map.mp (((byName_perm entries).map Prod.fst).nodup_iff.mpr h)
  refine (hle.and hne).imp fun hab => String.not_le.mp fun hba => ?_
  exact hab.2 (String.le_antisymm (of_decide_eq_true hab.1) hba)

namespace Entry.Relisted

variable {entries entries' : List (String × Entry)}

theorem refl {e : Entry} (h : e.WellNamed) : e.Relisted e := by
  induction h with
  | file bytes => exact .file bytes
  | @directory entries hnodup hparts hinner ih =>
    refine .directory (.refl _) fun name e e' he he' => ?_
    have hchild := (child?_eq_some_iff hnodup).mpr he
    have hchild' := (child?_eq_some_iff hnodup).mpr he'
    rw [hchild] at hchild'
    cases hchild'
    exact ih (name, e) he

theorem of_perm (h : (Entry.directory entries).WellNamed) (hperm : entries.Perm entries') :
    (Entry.directory entries).Relisted (.directory entries') := by
  cases refl h with
  | directory _ hinner =>
    refine .directory (hperm.map _) fun name e e' he he' => ?_
    exact hinner name e e' he (hperm.mem_iff.mpr he')

theorem nodup (h : (Entry.directory entries).Relisted (.directory entries'))
    (hnodup : (entries.map Prod.fst).Nodup) : (entries'.map Prod.fst).Nodup := by
  cases h with
  | directory hnames _ => exact hnames.nodup_iff.mp hnodup

/-- Sorted, the names of two listings are the same. -/
theorem names_byName (h : (Entry.directory entries).Relisted (.directory entries'))
    (hnodup : (entries.map Prod.fst).Nodup) :
    (byName entries).map Prod.fst = (byName entries').map Prod.fst := by
  have hsorted : ∀ {es : List (String × Entry)}, (es.map Prod.fst).Nodup →
      ((byName es).map Prod.fst).Pairwise (· < ·) :=
    fun hes => List.pairwise_map.mpr (byName_pairwise hes)
  refine List.Perm.eq_of_pairwise ?_ (hsorted hnodup) (hsorted (h.nodup hnodup)) ?_
  · intro a b _ _ hab hba
    exact absurd (String.lt_trans hab hba) (String.lt_irrefl a)
  · cases h with
    | directory hnames _ =>
      exact ((byName_perm entries).map _).trans (hnames.trans ((byName_perm entries').map _).symm)

/-- Sorted by name, two listings of a directory correspond one to one. -/
theorem byName (h : (Entry.directory entries).Relisted (.directory entries'))
    (hnodup : (entries.map Prod.fst).Nodup) :
    List.Forall₂ (fun a b => a.1 = b.1 ∧ a.2.Relisted b.2) (byName entries) (byName entries') := by
  have hnames := h.names_byName hnodup
  have hsame : ∀ a ∈ ApiDirectives.byName entries, ∀ b ∈ ApiDirectives.byName entries',
      a.1 = b.1 → a.2.Relisted b.2 := by
    intro a ha b hb hab
    cases h with
    | directory _ hinner =>
      exact hinner a.1 a.2 b.2 (mem_byName.mp ha) (hab ▸ mem_byName.mp hb)
  generalize ApiDirectives.byName entries = es at hnames hsame
  generalize ApiDirectives.byName entries' = es' at hnames hsame
  induction es generalizing es' with
  | nil =>
    rw [List.map_eq_nil_iff.mp hnames.symm]
    exact .nil
  | cons a es ih =>
    cases es' with
    | nil => cases hnames
    | cons b es' =>
      injection hnames with hab hrest
      refine .cons ⟨hab, hsame a List.mem_cons_self b List.mem_cons_self hab⟩ (ih es' hrest ?_)
      intro a' ha' b' hb'
      exact hsame a' (List.mem_cons_of_mem _ ha') b' (List.mem_cons_of_mem _ hb')

/-! ## Walks -/

theorem child? {e e' c : Entry} (h : e.Relisted e') (hnamed : e.WellNamed) {name : String}
    (hchild : e.child? name = some c) : ∃ c', e'.child? name = some c' ∧ c.Relisted c' := by
  cases h with
  | file bytes => cases hchild
  | @directory entries entries' hnames hinner =>
    have hmem := (child?_eq_some_iff hnamed.nodup).mp hchild
    obtain ⟨entry', hentry', hname⟩ :=
      List.mem_map.mp (hnames.mem_iff.mp (List.mem_map_of_mem hmem))
    have hmem' : (name, entry'.2) ∈ entries' := by
      rw [← show entry'.1 = name from hname]
      exact hentry'
    refine ⟨entry'.2, ?_, hinner name c entry'.2 hmem hmem'⟩
    exact (child?_eq_some_iff (hnames.nodup_iff.mp hnamed.nodup)).mpr hmem'

/-- A walk leads to the same entry in both trees, also where it leads back up. -/
theorem walk? {e e' t : Entry} {above above' : List Entry} (h : e.Relisted e')
    (hnamed : e.WellNamed)
    (habove : List.Forall₂ (fun a b => a.WellNamed ∧ a.Relisted b) above above')
    {parts : List String} (hwalk : walk? above e parts = some t) :
    ∃ t', Entry.walk? above' e' parts = some t' ∧ t.WellNamed ∧ t.Relisted t' := by
  induction parts generalizing e e' above above' with
  | nil =>
    cases hwalk
    exact ⟨e', rfl, hnamed, h⟩
  | cons part parts ih =>
    rw [Entry.walk?.eq_def] at hwalk
    rw [Entry.walk?.eq_def]
    dsimp only at hwalk ⊢
    by_cases hup : part = ".."
    · rw [if_pos hup] at hwalk ⊢
      cases h with
      | file bytes => cases hwalk
      | directory hnames hinner =>
        cases habove with
        | nil => exact ih (.directory hnames hinner) hnamed .nil hwalk
        | cons hfirst hrest => exact ih hfirst.2 hfirst.1 hrest hwalk
    · rw [if_neg hup] at hwalk ⊢
      split at hwalk
      · cases hwalk
      · rename_i c hchild
        obtain ⟨c', hchild', hc⟩ := h.child? hnamed hchild
        rw [hchild']
        exact ih hc (hnamed.child? hchild).2 (.cons ⟨hnamed, h⟩ habove) hwalk

end Entry.Relisted

end ApiDirectives
