import ApiDirectives.Proofs.Files.Tree

/-!
# What a search finds

A search goes through a tree one directory at a time, drops what it leaves out on the way, and
makes paths longer as it goes down. What it finds can be said without the walk: the files whose
name and path are admitted and all of whose directories are searched, each once, with the text that
its bytes stand for (`discovery_exact`). Directories are sorted before they are searched, so the
order in which they list their entries makes no difference, neither to what is found nor to what is
noted.

The proof goes through `Selection.placesBelow`, the same search with parts in place of paths and
bytes in place of texts. It goes through its places in the order `WalkBefore`, in which no place
comes twice.
-/

namespace ApiDirectives

open Text Entry

/-! ## One directory -/

/-- What a search finds in an entry that is itself a directory. -/
def searchInside (depth : Nat) (s : Selection) (path : FilePath) (shown : String) :
    String × Entry → List SourceFile × List Record
  | (_, .file _) => ([], [])
  | (name, .directory inner) =>
    if skipsDirectory s.includeTests name || isExcluded (below shown name) s.exclude then ([], [])
    else sourcesBelow depth s (path.join { parts := [name] }) (below shown name) inner

/-- The sources of a directory are those among its files and those inside its directories. -/
theorem sourcesBelow_succ (depth : Nat) (s : Selection) (path : FilePath) (shown : String)
    (entries : List (String × Entry)) :
    sourcesBelow (depth + 1) s path shown entries =
      ((sourcesOfFiles s path shown (byName entries)).1 ++
          (byName entries).flatMap fun e => (searchInside depth s path shown e).1,
        (sourcesOfFiles s path shown (byName entries)).2 ++
          (byName entries).flatMap fun e => (searchInside depth s path shown e).2) := by
  rw [sourcesBelow]
  dsimp only
  -- The fold adds to what it has found, so the files that it starts from may be anything.
  generalize sourcesOfFiles s path shown (byName entries) = start
  generalize byName entries = es
  induction es generalizing start with
  | nil => simp
  | cons entry es ih =>
    obtain ⟨name, e⟩ := entry
    rw [List.foldl_cons, ih]
    cases e with
    | file bytes => simp [searchInside]
    | directory inner =>
      dsimp only
      split
      · rename_i hleft
        simp only [searchInside, List.flatMap_cons, if_pos hleft, List.nil_append]
      · rename_i hsearched
        simp only [searchInside, List.flatMap_cons, if_neg hsearched, List.append_assoc]

/-! ## The order of listing -/

section Relisting

variable {s : Selection}

theorem sourcesOfFiles_relisted {es es' : List (String × Entry)}
    (h : List.Forall₂ (fun a b => a.1 = b.1 ∧ a.2.Relisted b.2) es es') (path : FilePath)
    (shown : String) : sourcesOfFiles s path shown es = sourcesOfFiles s path shown es' := by
  induction h with
  | nil => rfl
  | @cons a b es es' hab _ ih =>
    obtain ⟨name, e⟩ := a
    obtain ⟨name', e'⟩ := b
    obtain ⟨hname, he⟩ := hab
    dsimp only at hname he
    subst hname
    cases he with
    | file bytes => rw [sourcesOfFiles, sourcesOfFiles, ih]
    | directory _ _ => rw [sourcesOfFiles, sourcesOfFiles, ih]

theorem flatMap_eq_of_forall₂ {α β : Type} {R : α → α → Prop} {as bs : List α} {f : α → List β}
    (h : List.Forall₂ R as bs) (hf : ∀ a ∈ as, ∀ b, R a b → f a = f b) :
    as.flatMap f = bs.flatMap f := by
  induction h with
  | nil => rfl
  | cons hab _ ih =>
    obtain ⟨hfirst, hrest⟩ := List.forall_mem_cons.mp hf
    rw [List.flatMap_cons, List.flatMap_cons, hfirst _ hab, ih hrest]

/-- A search does not depend on the order in which directories list their entries. -/
theorem sourcesBelow_relisted {entries entries' : List (String × Entry)}
    (h : (Entry.directory entries).Relisted (.directory entries'))
    (hnamed : (Entry.directory entries).WellNamed) (depth : Nat) (path : FilePath)
    (shown : String) :
    sourcesBelow depth s path shown entries = sourcesBelow depth s path shown entries' := by
  induction depth generalizing path shown entries entries' with
  | zero => rfl
  | succ depth ih =>
    -- Sorted by name, the two listings stand side by side.
    have hsorted := h.byName hnamed.nodup
    have hinside : ∀ a ∈ byName entries, ∀ b, a.1 = b.1 ∧ a.2.Relisted b.2 →
        searchInside depth s path shown a = searchInside depth s path shown b := by
      rintro ⟨name, e⟩ hmem ⟨name', e'⟩ ⟨hname, he⟩
      dsimp only at hname he
      subst hname
      have hinner : e.WellNamed := hnamed.inner (mem_byName.mp hmem)
      cases he with
      | file bytes => rfl
      | directory hnames hrest =>
        rw [searchInside, searchInside, ih (.directory hnames hrest) hinner]
    rw [sourcesBelow_succ, sourcesBelow_succ, sourcesOfFiles_relisted hsorted,
      flatMap_eq_of_forall₂ hsorted fun a ha b hab => congrArg Prod.fst (hinside a ha b hab),
      flatMap_eq_of_forall₂ hsorted fun a ha b hab => congrArg Prod.snd (hinside a ha b hab)]

end Relisting

/-! ## The places of a search -/

/-- A file that is found: the names that lead to it, and its bytes. -/
structure FoundPlace where
  parts : List String
  bytes : List UInt8

/-- The source at a place below a directory. -/
def sourceAt (root : FilePath) (parts : List String) (bytes : List UInt8) : SourceFile where
  path := joined "/" parts
  content := (decodeSource (root.join { parts }).render bytes).mapError EncodingFault.message

theorem readSource_fst (path : FilePath) (shown : String) (bytes : List UInt8) :
    (readSource path shown bytes).1 =
      ⟨shown, (decodeSource path.render bytes).mapError EncodingFault.message⟩ := by
  unfold readSource
  cases decodeSource path.render bytes with
  | error e => rfl
  | ok text => rfl

namespace Selection

variable (s : Selection)

/-- Whether a file is taken; the names above it lead to its directory. -/
def takes (above : List String) (name : String) : Bool :=
  !(!endsWith ".py" name || skipsFile s.includeTests name)
    && !isExcluded (joined "/" (above ++ [name])) s.exclude

/-- Whether a directory is searched. -/
def enters (above : List String) (name : String) : Bool :=
  !(skipsDirectory s.includeTests name || isExcluded (joined "/" (above ++ [name])) s.exclude)

/-- Whether a search gets to the end of a chain of names, the last of which is a file. -/
def reaches (above : List String) : List String → Bool
  | [] => false
  | [name] => s.takes above name
  | name :: rest => s.enters above name && reaches (above ++ [name]) rest

/-- The place of a file of a directory, if it is taken. -/
def fileHere (above : List String) : String × Entry → List FoundPlace
  | (name, .file bytes) => if s.takes above name then [⟨[name], bytes⟩] else []
  | (_, .directory _) => []

/-- The places inside a directory of a directory, if it is searched. -/
def directoryHere (search : List String → List (String × Entry) → List FoundPlace)
    (above : List String) : String × Entry → List FoundPlace
  | (_, .file _) => []
  | (name, .directory inner) =>
    if s.enters above name then
      (search (above ++ [name]) inner).map fun p => ⟨name :: p.parts, p.bytes⟩
    else []

/-- The places of a search: those of the files by name, then those inside the directories by name.
-/
def placesBelow : Nat → List String → List (String × Entry) → List FoundPlace
  | 0, _, _ => []
  | depth + 1, above, entries =>
    (byName entries).flatMap (s.fileHere above) ++
      (byName entries).flatMap (s.directoryHere (placesBelow depth) above)

variable {s} {above : List String} {entries : List (String × Entry)}

theorem placesBelow_of_pairwise (h : entries.Pairwise fun a b => a.1 ≤ b.1) (depth : Nat) :
    s.placesBelow (depth + 1) above entries =
      entries.flatMap (s.fileHere above) ++
        entries.flatMap (s.directoryHere (s.placesBelow depth) above) := by
  rw [placesBelow, byName_of_pairwise h]

theorem mem_fileHere {entry : String × Entry} {p : FoundPlace} :
    p ∈ s.fileHere above entry ↔
      ∃ name, entry = (name, .file p.bytes) ∧ p.parts = [name] ∧ s.takes above name = true := by
  obtain ⟨name, e⟩ := entry
  obtain ⟨parts, bytes⟩ := p
  cases e with
  | directory inner => simp [fileHere]
  | file found =>
    rw [fileHere]
    by_cases htakes : s.takes above name = true
    · rw [if_pos htakes, List.mem_singleton]
      constructor
      · intro h
        cases h
        exact ⟨name, rfl, rfl, htakes⟩
      · rintro ⟨_, hentry, hparts, _⟩
        cases hentry
        rw [← hparts]
    · rw [if_neg htakes]
      constructor
      · exact fun h => absurd h List.not_mem_nil
      · rintro ⟨_, hentry, _, htakes'⟩
        cases hentry
        exact absurd htakes' htakes

theorem mem_directoryHere {search : List String → List (String × Entry) → List FoundPlace}
    {entry : String × Entry} {p : FoundPlace} :
    p ∈ s.directoryHere search above entry ↔
      ∃ name inner parts, entry = (name, .directory inner) ∧ s.enters above name = true ∧
        p.parts = name :: parts ∧ ⟨parts, p.bytes⟩ ∈ search (above ++ [name]) inner := by
  obtain ⟨name, e⟩ := entry
  obtain ⟨parts, bytes⟩ := p
  cases e with
  | file found => simp [directoryHere]
  | directory inner =>
    rw [directoryHere]
    by_cases henters : s.enters above name = true
    · rw [if_pos henters, List.mem_map]
      constructor
      · rintro ⟨q, hq, hp⟩
        cases hp
        exact ⟨name, inner, q.parts, rfl, henters, rfl, hq⟩
      · rintro ⟨_, _, rest, hentry, _, hparts, hq⟩
        cases hentry
        exact ⟨_, hq, by rw [← hparts]⟩
    · rw [if_neg henters]
      constructor
      · exact fun h => absurd h List.not_mem_nil
      · rintro ⟨_, _, _, hentry, henters', _⟩
        cases hentry
        exact absurd henters' henters

/-- A place is that of a file, or it is a place inside a directory. -/
theorem mem_placesBelow_succ {depth : Nat} {p : FoundPlace} :
    p ∈ s.placesBelow (depth + 1) above entries ↔
      (∃ name, (name, .file p.bytes) ∈ entries ∧ p.parts = [name] ∧ s.takes above name = true) ∨
      ∃ name inner parts, (name, .directory inner) ∈ entries ∧ s.enters above name = true ∧
        p.parts = name :: parts ∧
          ⟨parts, p.bytes⟩ ∈ s.placesBelow depth (above ++ [name]) inner := by
  rw [placesBelow, List.mem_append, List.mem_flatMap, List.mem_flatMap]
  refine or_congr ?_ ?_
  · constructor
    · rintro ⟨entry, hentry, hp⟩
      obtain ⟨name, rfl, hparts, htakes⟩ := mem_fileHere.mp hp
      exact ⟨name, mem_byName.mp hentry, hparts, htakes⟩
    · rintro ⟨name, hmem, hparts, htakes⟩
      exact ⟨_, mem_byName.mpr hmem, mem_fileHere.mpr ⟨name, rfl, hparts, htakes⟩⟩
  · constructor
    · rintro ⟨entry, hentry, hp⟩
      obtain ⟨name, inner, parts, rfl, henters, hparts, hq⟩ := mem_directoryHere.mp hp
      exact ⟨name, inner, parts, mem_byName.mp hentry, henters, hparts, hq⟩
    · rintro ⟨name, inner, parts, hmem, henters, hparts, hq⟩
      exact ⟨_, mem_byName.mpr hmem,
        mem_directoryHere.mpr ⟨name, inner, parts, rfl, henters, hparts, hq⟩⟩

theorem parts_ne_nil {depth : Nat} {p : FoundPlace} (h : p ∈ s.placesBelow depth above entries) :
    p.parts ≠ [] := by
  cases depth with
  | zero => cases h
  | succ depth =>
    obtain ⟨name, _, hparts, _⟩ | ⟨name, _, _, _, _, hparts, _⟩ := mem_placesBelow_succ.mp h
    · simp [hparts]
    · simp [hparts]

/-- A search that goes deep enough finds the files that it reaches. -/
theorem mem_placesBelow (hnamed : (Entry.directory entries).WellNamed) {depth : Nat}
    (hdepth : depthOfAll entries < depth) {p : FoundPlace} :
    p ∈ s.placesBelow depth above entries ↔
      (Entry.directory entries).at? p.parts = some (.file p.bytes) ∧
        s.reaches above p.parts = true := by
  induction depth generalizing above entries p with
  | zero => omega
  | succ depth ih =>
    rw [mem_placesBelow_succ]
    have hdeep : ∀ {name inner}, (name, Entry.directory inner) ∈ entries →
        depthOfAll inner < depth := by
      intro name inner hmem
      have hle := depthOfAll_le_iff.mp (Nat.le_refl _) _ hmem
      rw [Entry.depth] at hle
      omega
    constructor
    · rintro (⟨name, hmem, hparts, htakes⟩ | ⟨name, inner, parts, hmem, henters, hparts, hq⟩)
      · have hchild := (child?_eq_some_iff hnamed.nodup).mpr hmem
        rw [hparts]
        exact ⟨at?_cons_eq_some_iff.mpr ⟨_, hchild, rfl⟩, htakes⟩
      · have hchild := (child?_eq_some_iff hnamed.nodup).mpr hmem
        have hne : parts ≠ [] := parts_ne_nil hq
        obtain ⟨hat, hreaches⟩ := (ih (hnamed.inner hmem) (hdeep hmem)).mp hq
        rw [hparts]
        refine ⟨at?_cons_eq_some_iff.mpr ⟨_, hchild, hat⟩, ?_⟩
        rw [reaches]
        · rw [henters, hreaches]
          rfl
        · exact fun h => hne h
    · rintro ⟨hat, hreaches⟩
      cases hparts : p.parts with
      | nil =>
        rw [hparts] at hreaches
        cases hreaches
      | cons name rest =>
        rw [hparts] at hat hreaches
        obtain ⟨c, hchild, hrest⟩ := at?_cons_eq_some_iff.mp hat
        have hmem := (child?_eq_some_iff hnamed.nodup).mp hchild
        cases rest with
        | nil =>
          cases hrest
          exact .inl ⟨name, hmem, rfl, hreaches⟩
        | cons next rest =>
          -- Names are left, so the first one is a directory, and it is searched.
          rw [reaches, Bool.and_eq_true] at hreaches
          · cases c with
            | file bytes => cases hrest
            | directory inner =>
              refine .inr ⟨name, inner, next :: rest, hmem, hreaches.1, rfl, ?_⟩
              exact (ih (hnamed.inner hmem) (hdeep hmem)).mpr ⟨hrest, hreaches.2⟩
          · simp

end Selection

/-! ## The order of a walk -/

/-- One place before another in a walk: in a directory the files come first, by name, and then what
is inside its directories, by name. -/
inductive WalkBefore : List String → List String → Prop
  | files {x y : String} : x < y → WalkBefore [x] [y]
  | fileFirst (x y : String) {q : List String} : q ≠ [] → WalkBefore [x] (y :: q)
  | directories {x y : String} {p q : List String} :
      p ≠ [] → q ≠ [] → x < y → WalkBefore (x :: p) (y :: q)
  | inside (x : String) {p q : List String} : WalkBefore p q → WalkBefore (x :: p) (x :: q)

theorem not_walkBefore_nil (p : List String) : ¬ WalkBefore p [] := by
  intro h
  cases h

theorem not_nil_walkBefore (p : List String) : ¬ WalkBefore [] p := by
  intro h
  cases h

/-- No place comes both before and after another. -/
theorem WalkBefore.asymm {p q : List String} (h : WalkBefore p q) : ¬ WalkBefore q p := by
  induction h with
  | files hxy =>
    intro hback
    cases hback with
    | files hyx => exact String.lt_irrefl _ (String.lt_trans hxy hyx)
    | fileFirst _ _ hne => exact hne rfl
    | directories hne _ _ => exact hne rfl
    | inside _ hnil => exact not_nil_walkBefore _ hnil
  | fileFirst x y hq =>
    intro hback
    cases hback with
    | files _ => exact hq rfl
    | fileFirst _ _ hne => exact hne rfl
    | directories _ hne _ => exact hne rfl
    | inside _ hnil => exact not_walkBefore_nil _ hnil
  | directories hp hq hxy =>
    intro hback
    cases hback with
    | files _ => exact hp rfl
    | fileFirst _ _ _ => exact hq rfl
    | directories _ _ hyx => exact String.lt_irrefl _ (String.lt_trans hxy hyx)
    | inside _ _ => exact String.lt_irrefl _ hxy
  | inside x hpq ih =>
    intro hback
    cases hback with
    | files hxx => exact String.lt_irrefl _ hxx
    | fileFirst _ _ _ => exact not_walkBefore_nil _ hpq
    | directories _ _ hxx => exact String.lt_irrefl _ hxx
    | inside _ hqp => exact ih hqp

theorem WalkBefore.ne {p q : List String} (h : WalkBefore p q) : p ≠ q := by
  rintro rfl
  exact h.asymm h

namespace Selection

variable {s : Selection}

/-- A search goes through its places in the order of a walk. -/
theorem placesBelow_pairwise {entries : List (String × Entry)}
    (hnamed : (Entry.directory entries).WellNamed) (depth : Nat) (above : List String) :
    (s.placesBelow depth above entries).Pairwise fun p q => WalkBefore p.parts q.parts := by
  induction depth generalizing above entries with
  | zero => exact .nil
  | succ depth ih =>
    have hsorted := byName_pairwise hnamed.nodup
    rw [placesBelow, List.pairwise_append, List.pairwise_flatMap, List.pairwise_flatMap]
    refine ⟨⟨?_, ?_⟩, ⟨?_, ?_⟩, ?_⟩
    · -- An entry is at most one file.
      rintro ⟨name, e⟩ _
      cases e with
      | directory inner => exact .nil
      | file bytes =>
        rw [fileHere]
        split <;> simp
    · -- Two files are in the order of their names.
      refine hsorted.imp fun hlt p hp q hq => ?_
      obtain ⟨x, rfl, hx, _⟩ := mem_fileHere.mp hp
      obtain ⟨y, rfl, hy, _⟩ := mem_fileHere.mp hq
      rw [hx, hy]
      exact .files hlt
    · -- Inside one directory the order is that of its own search.
      rintro ⟨name, e⟩ hmem
      cases e with
      | file bytes => exact .nil
      | directory inner =>
        rw [directoryHere]
        split
        · refine List.pairwise_map.mpr ((ih (hnamed.inner (mem_byName.mp hmem)) _).imp ?_)
          exact fun hpq => .inside name hpq
        · exact .nil
    · -- Places inside two directories are in the order of the directories.
      refine hsorted.imp fun hlt p hp q hq => ?_
      obtain ⟨x, _, p', rfl, _, hx, hp'⟩ := mem_directoryHere.mp hp
      obtain ⟨y, _, q', rfl, _, hy, hq'⟩ := mem_directoryHere.mp hq
      rw [hx, hy]
      exact .directories (parts_ne_nil hp') (parts_ne_nil hq') hlt
    · -- All files come before all that is inside directories.
      intro p hp q hq
      obtain ⟨_, _, hp⟩ := List.mem_flatMap.mp hp
      obtain ⟨_, _, hq⟩ := List.mem_flatMap.mp hq
      obtain ⟨x, _, hx, _⟩ := mem_fileHere.mp hp
      obtain ⟨y, _, q', _, _, hy, hq'⟩ := mem_directoryHere.mp hq
      rw [hx, hy]
      exact .fileFirst x y (parts_ne_nil hq')

end Selection

/-! ## The sources of a search -/

section Sources

variable (s : Selection) (root : FilePath)

theorem sourcesOfFiles_eq {above : List String} (habove : ∀ part ∈ above, IsPart part)
    (es : List (String × Entry)) :
    (sourcesOfFiles s (root.join { parts := above }) (joined "/" above) es).1 =
      (es.flatMap (s.fileHere above)).map fun p => sourceAt root (above ++ p.parts) p.bytes := by
  induction es with
  | nil => rfl
  | cons entry es ih =>
    obtain ⟨name, e⟩ := entry
    cases e with
    | directory inner =>
      rw [sourcesOfFiles, ih]
      rfl
    | file bytes =>
      rw [sourcesOfFiles, List.flatMap_cons, List.map_append, ← ih, Selection.fileHere]
      dsimp only
      rw [below_joined habove, FilePath.join_join]
      -- The two tests of a file, its name and its path, are one test of its place.
      by_cases hname : (!endsWith ".py" name || skipsFile s.includeTests name) = true
      · rw [if_pos hname, if_neg (by simp [Selection.takes, hname])]
        rfl
      · by_cases hpath : isExcluded (joined "/" (above ++ [name])) s.exclude = true
        · rw [if_neg hname, if_pos hpath, if_neg (by simp [Selection.takes, hpath])]
          rfl
        · rw [if_neg hname, if_neg hpath, if_pos (by simp [Selection.takes, hname, hpath]),
            readSource_fst]
          rfl

/-- A search reads the sources at its places. -/
theorem sourcesBelow_eq {above : List String} (habove : ∀ part ∈ above, IsPart part)
    {entries : List (String × Entry)} (hnamed : (Entry.directory entries).WellNamed) (depth : Nat) :
    (sourcesBelow depth s (root.join { parts := above }) (joined "/" above) entries).1 =
      (s.placesBelow depth above entries).map fun p =>
        sourceAt root (above ++ p.parts) p.bytes := by
  induction depth generalizing above entries with
  | zero => rfl
  | succ depth ih =>
    -- Below a directory that is entered the search goes on with the longer path; any other is left out.
    have hinside : ∀ entry ∈ byName entries,
        (searchInside depth s (root.join { parts := above }) (joined "/" above) entry).1 =
          (s.directoryHere (s.placesBelow depth) above entry).map fun p =>
            sourceAt root (above ++ p.parts) p.bytes := by
      rintro ⟨name, e⟩ hmem
      cases e with
      | file bytes => rfl
      | directory inner =>
        have hpart : ∀ part ∈ above ++ [name], IsPart part :=
          List.forall_mem_append.mpr
            ⟨habove, List.forall_mem_singleton.mpr (hnamed.isPart (mem_byName.mp hmem))⟩
        rw [searchInside, Selection.directoryHere, below_joined habove, FilePath.join_join]
        by_cases hleft : (skipsDirectory s.includeTests name ||
            isExcluded (joined "/" (above ++ [name])) s.exclude) = true
        · rw [if_pos hleft, if_neg (by rw [Selection.enters, hleft]; decide)]
          rfl
        · rw [if_neg hleft, if_pos (by rw [Selection.enters, Bool.eq_false_iff.mpr hleft]; rfl),
            ih hpart (hnamed.inner (mem_byName.mp hmem)), List.map_map]
          refine List.map_congr_left fun p _ => ?_
          simp
    rw [sourcesBelow_succ, Selection.placesBelow, List.map_append, sourcesOfFiles_eq s root habove,
      List.flatMap_congr hinside, ← List.map_flatMap]

end Sources

/-! ## Searches from the top -/

namespace Selection

variable {s : Selection}

/-- The places of a search that goes as deep as the tree. -/
def places (s : Selection) (entries : List (String × Entry)) : List FoundPlace :=
  s.placesBelow ((Entry.directory entries).depth + 1) [] entries

/-- A file that is admitted: its own name and path are, and so is every directory on the way. -/
structure Admits (s : Selection) (dirs : List String) (name : String) : Prop where
  isSource : endsWith ".py" name = true
  kept : skipsFile s.includeTests name = false
  included : isExcluded (joined "/" (dirs ++ [name])) s.exclude = false
  searched : ∀ above dir, above ++ [dir] <+: dirs →
    skipsDirectory s.includeTests dir = false ∧
      isExcluded (joined "/" (above ++ [dir])) s.exclude = false

theorem reaches_concat_iff {above dirs : List String} {name : String} :
    s.reaches above (dirs ++ [name]) = true ↔
      s.takes (above ++ dirs) name = true ∧
        ∀ higher dir, higher ++ [dir] <+: dirs → s.enters (above ++ higher) dir = true := by
  -- The directory to enter first is the head of the way; those further down are entered from below it.
  induction dirs generalizing above with
  | nil => simp [reaches]
  | cons first dirs ih =>
    have hstep : s.reaches above (first :: (dirs ++ [name])) =
        (s.enters above first && s.reaches (above ++ [first]) (dirs ++ [name])) := by
      rw [reaches]
      simp
    rw [List.cons_append, hstep, Bool.and_eq_true, ih, List.append_assoc, List.singleton_append]
    constructor
    · rintro ⟨hfirst, htakes, henters⟩
      refine ⟨htakes, fun higher dir hdir => ?_⟩
      cases higher with
      | nil =>
        obtain ⟨rfl, _⟩ := List.cons_prefix_cons.mp hdir
        rw [List.append_nil]
        exact hfirst
      | cons next higher =>
        obtain ⟨rfl, hrest⟩ := List.cons_prefix_cons.mp hdir
        rw [List.append_cons]
        exact henters higher dir hrest
    · rintro ⟨htakes, henters⟩
      refine ⟨?_, htakes, fun higher dir hdir => ?_⟩
      · have hfirst := henters [] first (List.cons_prefix_cons.mpr ⟨rfl, List.nil_prefix⟩)
        rwa [List.append_nil] at hfirst
      · have hnext := henters (first :: higher) dir (List.cons_prefix_cons.mpr ⟨rfl, hdir⟩)
        rwa [List.append_cons] at hnext

/-- A search reaches the files that it admits. -/
theorem reaches_iff_admits {dirs : List String} {name : String} :
    s.reaches [] (dirs ++ [name]) = true ↔ s.Admits dirs name := by
  rw [reaches_concat_iff]
  simp only [takes, enters, List.nil_append, Bool.and_eq_true, Bool.not_eq_true',
    Bool.or_eq_false_iff, Bool.not_eq_false']
  constructor
  · rintro ⟨⟨⟨hsource, hkept⟩, hincluded⟩, hsearched⟩
    exact ⟨hsource, hkept, hincluded, hsearched⟩
  · intro h
    exact ⟨⟨⟨h.isSource, h.kept⟩, h.included⟩, h.searched⟩

variable {entries : List (String × Entry)}

theorem mem_places (hnamed : (Entry.directory entries).WellNamed) {p : FoundPlace} :
    p ∈ s.places entries ↔ ∃ dirs name, p.parts = dirs ++ [name] ∧
      (Entry.directory entries).at? (dirs ++ [name]) = some (.file p.bytes) ∧
        s.Admits dirs name := by
  have hdepth : depthOfAll entries < (Entry.directory entries).depth + 1 := by
    rw [Entry.depth]
    omega
  rw [places, mem_placesBelow hnamed hdepth]
  constructor
  · rintro ⟨hat, hreaches⟩
    obtain hnil | ⟨dirs, name, hparts⟩ := List.eq_nil_or_concat p.parts
    · rw [hnil] at hreaches
      cases hreaches
    · rw [List.concat_eq_append] at hparts
      rw [hparts] at hat hreaches
      exact ⟨dirs, name, hparts, hat, reaches_iff_admits.mp hreaches⟩
  · rintro ⟨dirs, name, hparts, hat, hadmits⟩
    rw [hparts]
    exact ⟨hat, reaches_iff_admits.mpr hadmits⟩

theorem isPart_of_mem_places (hnamed : (Entry.directory entries).WellNamed) {p : FoundPlace}
    (h : p ∈ s.places entries) : ∀ part ∈ p.parts, IsPart part := by
  obtain ⟨dirs, name, hparts, hat, _⟩ := (mem_places hnamed).mp h
  rw [hparts]
  exact hnamed.isPart_of_at? hat

/-- The path of a place is cut into its parts again. -/
theorem pieces_path (hnamed : (Entry.directory entries).WellNamed) {p : FoundPlace}
    (h : p ∈ s.places entries) : pieces '/' (joined "/" p.parts) = p.parts :=
  pieces_joined (parts_ne_nil h) (isPart_of_mem_places hnamed h)

end Selection

namespace Files

variable {f : Files} {root : FilePath} {entries : List (String × Entry)}

/-- In another listing of the files there is the same directory, in another listing. -/
theorem entry?_relisted (hnamed : f.top.WellNamed) {top : Entry} (h : f.top.Relisted top)
    (hroot : f.entry? root = some (.directory entries)) :
    ∃ entries', Files.entry? { f with top } root = some (.directory entries') ∧
      (Entry.directory entries).WellNamed ∧
        (Entry.directory entries).Relisted (.directory entries') := by
  obtain ⟨t, ht, hwell, hrelisted⟩ := h.walk? hnamed .nil hroot
  cases hrelisted with
  | @directory _ entries' hnames hinner => exact ⟨entries', ht, hwell, .directory hnames hinner⟩

theorem wellNamed_of_entry? (hnamed : f.top.WellNamed)
    (hroot : f.entry? root = some (.directory entries)) : (Entry.directory entries).WellNamed := by
  obtain ⟨_, _, hwell, _⟩ := entry?_relisted hnamed (.refl hnamed) hroot
  exact hwell

/-- The sources at a directory are those at the places of a search. -/
theorem sources?_eq_places (hnamed : (Entry.directory entries).WellNamed)
    (hroot : f.entry? root = some (.directory entries)) (s : Selection) :
    ∃ records, f.sources? root s =
      some ((s.places entries).map fun p => sourceAt root p.parts p.bytes, records) := by
  have htop : ∀ part ∈ ([] : List String), IsPart part := by simp
  have hbelow := sourcesBelow_eq s root htop hnamed ((Entry.directory entries).depth + 1)
  rw [FilePath.join_nil] at hbelow
  unfold sources?
  rw [hroot]
  dsimp only
  rw [show ("" : String) = joined "/" [] from rfl, hbelow]
  exact ⟨_, rfl⟩

theorem sources?_relisted (hnamed : f.top.WellNamed) {top : Entry} (h : f.top.Relisted top)
    (hroot : f.entry? root = some (.directory entries)) (s : Selection) :
    Files.sources? { f with top } root s = f.sources? root s := by
  obtain ⟨entries', hroot', hwell, hrelisted⟩ := entry?_relisted hnamed h hroot
  unfold sources?
  rw [hroot, hroot']
  dsimp only
  rw [hrelisted.depth_eq, sourcesBelow_relisted hrelisted hwell]

end Files

end ApiDirectives
