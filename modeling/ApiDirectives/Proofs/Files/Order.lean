import ApiDirectives.Proofs.Files.Discovery
import Mathlib.Data.List.Pairwise

/-!
# The order of a search

A search goes through the files of a directory before it goes into any of its directories. This is
not the order of the paths: `b.py` is found before `a/x.py`, and what is inside `a` before what is
inside `a-b`, although `a-b/` is the smaller text. `Misplaced` says of two places that they are
found the wrong way round, by their first parts that differ. The paths of a search are in order
exactly if no two places are misplaced (`discovery_order`).
-/

namespace ApiDirectives

open Text Entry

/-! ## Texts with more behind them -/

section Tails

variable {a b : List Char}

/-- What follows a text does not matter where the text itself is no beginning of the other. -/
theorem append_lt_iff (h : ¬ b <+: a) (t : List Char) : b ++ t < a ↔ b < a := by
  induction b generalizing a with
  | nil => exact absurd List.nil_prefix h
  | cons c b ih =>
    cases a with
    | nil => simp
    | cons d a =>
      rw [List.cons_append, List.cons_lt_cons_iff, List.cons_lt_cons_iff]
      refine or_congr_right (and_congr_right fun hcd => ?_)
      exact ih fun hprefix => h (List.cons_prefix_cons.mpr ⟨hcd, hprefix⟩)

theorem lt_append_iff (h : ¬ a <+: b) (t : List Char) : b < a ++ t ↔ b < a := by
  induction a generalizing b with
  | nil => exact absurd List.nil_prefix h
  | cons c a ih =>
    cases b with
    | nil => simp
    | cons d b =>
      rw [List.cons_append, List.cons_lt_cons_iff, List.cons_lt_cons_iff]
      refine or_congr_right (and_congr_right fun hdc => ?_)
      exact ih fun hprefix => h (List.cons_prefix_cons.mpr ⟨hdc.symm, hprefix⟩)

theorem append_left_lt_iff (c : List Char) : c ++ b < c ++ a ↔ b < a := by
  induction c with
  | nil => rfl
  | cons d c ih => simp [ih]

/-- A part of a path ends at the first slash. -/
theorem part_eq_of_begins (ha : '/' ∉ a) (hb : '/' ∉ b) {t : List Char}
    (h : b ++ ['/'] <+: a ++ '/' :: t) : b = a := by
  obtain ⟨r, hr⟩ := h
  rw [List.append_assoc, List.singleton_append] at hr
  have hpieces := congrArg (piecesFrom '/' []) hr
  rw [piecesFrom_append hb, piecesFrom_append ha] at hpieces
  simpa using (List.cons.inj hpieces).1

end Tails

/-! ## Two places -/

/-- Two places that a search goes through the wrong way round: a file and a directory with a smaller
path, or two directories whose names have another order with a slash behind them. -/
inductive Misplaced : List String → List String → Prop
  | file {x y : String} {q : List String} : q ≠ [] → y ++ "/" < x → Misplaced [x] (y :: q)
  | directories {x y : String} {p q : List String} :
      p ≠ [] → q ≠ [] → x < y → y ++ "/" < x ++ "/" → Misplaced (x :: p) (y :: q)
  | inside (x : String) {p q : List String} : Misplaced p q → Misplaced (x :: p) (x :: q)

theorem Misplaced.walkBefore {p q : List String} (h : Misplaced p q) : WalkBefore p q := by
  induction h with
  | file hq _ => exact .fileFirst _ _ hq
  | directories hp hq hxy _ => exact .directories hp hq hxy
  | inside x _ ih => exact .inside x ih

section Paths

variable {p q : List String} {x y : String}

/-- A name has no slash, so what follows the slash of a path does not matter to their order. -/
theorem joined_cons_lt_part_iff (hx : IsPart x) (hq : q ≠ []) :
    joined "/" (y :: q) < x ↔ y ++ "/" < x := by
  have hno : ¬ (y ++ "/").toList <+: x.toList := by
    intro hprefix
    apply hx.2
    exact hprefix.subset (by simp)
  rw [joined_cons hq, String.lt_iff, String.lt_iff, String.toList_append]
  exact append_lt_iff hno _

/-- The order of two paths is that of their first parts, with the slashes, if these differ. -/
theorem joined_cons_lt_iff_of_ne (hx : IsPart x) (hy : IsPart y) (hne : x ≠ y) (hp : p ≠ [])
    (hq : q ≠ []) : joined "/" (y :: q) < joined "/" (x :: p) ↔ y ++ "/" < x ++ "/" := by
  rw [joined_cons hp, joined_cons hq]
  simp only [String.lt_iff, String.toList_append]
  rw [append_lt_iff, lt_append_iff]
  · intro hprefix
    exact hne (String.toList_inj.mp (part_eq_of_begins (t := []) hy.2 hx.2 hprefix))
  · intro hprefix
    rw [List.append_assoc] at hprefix
    exact hne (String.toList_inj.mp (part_eq_of_begins hx.2 hy.2 hprefix)).symm

theorem joined_cons_lt_cons_iff (hp : p ≠ []) (hq : q ≠ []) :
    joined "/" (x :: q) < joined "/" (x :: p) ↔ joined "/" q < joined "/" p := by
  rw [joined_cons hp, joined_cons hq]
  simp only [String.lt_iff, String.toList_append]
  exact append_left_lt_iff _

/-- Of two places in the order of a walk, the second has the smaller path if they are misplaced. -/
theorem WalkBefore.joined_lt_iff (h : WalkBefore p q) (hp : ∀ part ∈ p, IsPart part)
    (hq : ∀ part ∈ q, IsPart part) : joined "/" q < joined "/" p ↔ Misplaced p q := by
  -- The rules of the two relations stand in pairs: a pair of places in one walk is misplaced by the rule
  -- of the same shape or not at all.
  induction h with
  | files hxy =>
    rw [joined_singleton, joined_singleton]
    constructor
    · intro hyx
      exact absurd hxy (String.lt_asymm hyx)
    · intro hmis
      cases hmis with
      | file hne _ => exact absurd rfl hne
      | directories hne _ _ _ => exact absurd rfl hne
      | inside _ hnil => exact absurd hnil.walkBefore (not_nil_walkBefore _)
  | @fileFirst x y q hne =>
    obtain ⟨hx, _⟩ := List.forall_mem_cons.mp hp
    rw [joined_singleton, joined_cons_lt_part_iff hx hne]
    constructor
    · intro hyx
      exact .file hne hyx
    · intro hmis
      cases hmis with
      | file _ hyx => exact hyx
      | directories hnil _ _ _ => exact absurd rfl hnil
      | inside _ hnil => exact absurd hnil.walkBefore (not_nil_walkBefore _)
  | @directories x y p q hpne hqne hxy =>
    obtain ⟨hx, _⟩ := List.forall_mem_cons.mp hp
    obtain ⟨hy, _⟩ := List.forall_mem_cons.mp hq
    have hne : x ≠ y := by
      rintro rfl
      exact String.lt_irrefl x hxy
    rw [joined_cons_lt_iff_of_ne hx hy hne hpne hqne]
    constructor
    · intro hyx
      exact .directories hpne hqne hxy hyx
    · intro hmis
      cases hmis with
      | file _ _ => exact absurd rfl hpne
      | directories _ _ _ hyx => exact hyx
      | inside _ _ => exact absurd rfl hne
  | @inside x p q hpq ih =>
    obtain ⟨_, hp⟩ := List.forall_mem_cons.mp hp
    obtain ⟨_, hq⟩ := List.forall_mem_cons.mp hq
    have hpne : p ≠ [] := by
      rintro rfl
      exact not_nil_walkBefore _ hpq
    have hqne : q ≠ [] := by
      rintro rfl
      exact not_walkBefore_nil _ hpq
    rw [joined_cons_lt_cons_iff hpne hqne, ih hp hq]
    constructor
    · intro hmis
      exact .inside x hmis
    · intro hmis
      cases hmis with
      | file _ _ => exact absurd rfl hpne
      | directories _ _ hxx _ => exact absurd hxx (String.lt_irrefl x)
      | inside _ hmis => exact hmis

end Paths

/-! ## All places -/

/-- The paths of a search are in order if no two of its places are misplaced. -/
theorem Selection.paths_pairwise_iff (s : Selection) {entries : List (String × Entry)}
    (hnamed : (Entry.directory entries).WellNamed) :
    (s.places entries).Pairwise (fun p q => joined "/" p.parts < joined "/" q.parts) ↔
      ∀ p ∈ s.places entries, ∀ q ∈ s.places entries, ¬ Misplaced p.parts q.parts := by
  have hwalk : (s.places entries).Pairwise fun p q => WalkBefore p.parts q.parts :=
    placesBelow_pairwise hnamed _ []
  have hparts : ∀ p ∈ s.places entries, ∀ part ∈ p.parts, IsPart part :=
    fun p hp => isPart_of_mem_places hnamed hp
  constructor
  · -- A place is misplaced neither against itself nor against one that is found before it.
    intro hlt
    refine List.Pairwise.forall_of_forall_of_flip ?_ ?_ ?_
    · intro p _ hmis
      exact hmis.walkBefore.ne rfl
    · refine (hwalk.and hlt).imp_of_mem ?_
      rintro p q hp hq ⟨hpq, hpath⟩ hmis
      exact String.lt_asymm hpath ((hpq.joined_lt_iff (hparts p hp) (hparts q hq)).mpr hmis)
    · refine hwalk.imp ?_
      intro p q hpq hmis
      exact hpq.asymm hmis.walkBefore
  · intro hnone
    refine hwalk.imp_of_mem fun {p q} hp hq hpq => ?_
    have hle : ¬ joined "/" q.parts < joined "/" p.parts := by
      rw [hpq.joined_lt_iff (hparts p hp) (hparts q hq)]
      exact hnone p hp q hq
    refine String.not_le.mp fun hge => hpq.ne ?_
    rw [← pieces_path hnamed hp, ← pieces_path hnamed hq, String.le_antisymm hle hge]

/-- A search goes through the files of each directory before it goes into its directories. Its paths
are in ascending order exactly if no two places are misplaced. -/
theorem discovery_order {f : Files} (hnamed : f.top.WellNamed) {root : FilePath}
    {entries : List (String × Entry)} (hroot : f.entry? root = some (.directory entries))
    (s : Selection) :
    ∃ found records, f.sources? root s = some (found, records) ∧
      found.Pairwise (fun a b => WalkBefore (pieces '/' a.path) (pieces '/' b.path)) ∧
      (found.Pairwise (fun a b => a.path < b.path) ↔
        ∀ a ∈ found, ∀ b ∈ found, ¬ Misplaced (pieces '/' a.path) (pieces '/' b.path)) := by
  have hwell := Files.wellNamed_of_entry? hnamed hroot
  obtain ⟨records, hsources⟩ := Files.sources?_eq_places hwell hroot s
  have hpieces : ∀ p ∈ s.places entries,
      pieces '/' (sourceAt root p.parts p.bytes).path = p.parts :=
    fun p hp => Selection.pieces_path hwell hp
  refine ⟨_, records, hsources, ?_, ?_⟩
  · rw [List.pairwise_map]
    refine (Selection.placesBelow_pairwise hwell _ []).imp_of_mem fun hp hq hwalk => ?_
    rw [hpieces _ hp, hpieces _ hq]
    exact hwalk
  · rw [List.pairwise_map, List.forall_mem_map]
    refine (s.paths_pairwise_iff hwell).trans (forall₂_congr fun p hp => ?_)
    rw [List.forall_mem_map, hpieces p hp]
    refine forall₂_congr fun q hq => ?_
    rw [hpieces q hq]

theorem discovery_order_at_file_and_directory :
    ∃ found records,
      Files.sources? { top := .directory [("a.py", .file []),
        ("b", .directory [("x.py", .file [])])] } {} {} = some (found, records) ∧
      found.Pairwise fun a b => a.path < b.path := by
  have hnamed : (Entry.directory [("a.py", .file []),
      ("b", .directory [("x.py", .file [])])]).WellNamed := by
    refine .directory (by decide) (by decide) ?_
    simpa using ⟨.file [], .oneFile (by decide) []⟩
  have hplaces : Selection.places {} [("a.py", .file []), ("b", .directory [("x.py", .file [])])] =
      [⟨["a.py"], []⟩, ⟨["b", "x.py"], []⟩] := by
    change Selection.placesBelow {} 3 _ _ = _
    rw [Selection.placesBelow_of_pairwise (by simp)]
    simp only [List.flatMap_cons, List.flatMap_nil, Selection.directoryHere,
      Selection.placesBelow_of_pairwise (List.pairwise_singleton _ _)]
    rfl
  obtain ⟨found, records, hsources, _, hordered⟩ := @discovery_order { top := _ } hnamed {} _ rfl {}
  refine ⟨found, records, hsources, hordered.mpr ?_⟩
  obtain ⟨_, hfound⟩ := @Files.sources?_eq_places { top := _ } {} _ hnamed rfl {}
  rw [hsources, hplaces] at hfound
  have hpieces : ∀ a ∈ found, pieces '/' a.path = ["a.py"] ∨ pieces '/' a.path = ["b", "x.py"] := by
    rw [(Prod.mk.inj (Option.some.inj hfound)).1]
    decide
  intro a ha b hb hmis
  rcases hpieces a ha with hpa | hpa <;> rcases hpieces b hb with hpb | hpb <;>
    rw [hpa, hpb] at hmis
  · exact hmis.walkBefore.ne rfl
  · have hlt := (hmis.walkBefore.joined_lt_iff (by decide) (by decide)).mpr hmis
    exact absurd hlt (by decide)
  · exact hmis.walkBefore.asymm (.fileFirst _ _ (by decide))
  · exact hmis.walkBefore.ne rfl

theorem discovery_reversed :
    ∃ found records,
      Files.sources? { top := .directory [("a", .directory [("x.py", .file [])]),
        ("a-b", .directory [("y.py", .file [])]), ("b.py", .file [])] } {} {} =
          some (found, records) ∧
      found.map (·.path) = ["b.py", "a/x.py", "a-b/y.py"] ∧
      ¬ found.Pairwise fun a b => a.path < b.path := by
  have hplaces : Selection.places {} [("a", .directory [("x.py", .file [])]),
      ("a-b", .directory [("y.py", .file [])]), ("b.py", .file [])] =
        [⟨["b.py"], []⟩, ⟨["a", "x.py"], []⟩, ⟨["a-b", "y.py"], []⟩] := by
    change Selection.placesBelow {} 3 _ _ = _
    rw [Selection.placesBelow_of_pairwise (by simp)]
    simp only [List.flatMap_cons, List.flatMap_nil, Selection.directoryHere,
      Selection.placesBelow_of_pairwise (List.pairwise_singleton _ _)]
    rfl
  have hnamed : (Entry.directory [("a", .directory [("x.py", .file [])]),
      ("a-b", .directory [("y.py", .file [])]), ("b.py", .file [])]).WellNamed := by
    refine .directory (by decide) (by decide) ?_
    simpa using ⟨.oneFile (by decide) [], .oneFile (by decide) [], .file []⟩
  obtain ⟨records, hsources⟩ := @Files.sources?_eq_places { top := _ } {} _ hnamed rfl {}
  rw [hplaces] at hsources
  exact ⟨_, records, hsources, rfl, by decide⟩

end ApiDirectives
