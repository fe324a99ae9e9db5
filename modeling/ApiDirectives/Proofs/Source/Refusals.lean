import ApiDirectives.Proofs.Source.Matching
import ApiDirectives.Proofs.Source.Scan
import ApiDirectives.Proofs.Sources

/-!
# What stops a run that reads sources

A source is read twice, by the parser and by the scan for comments, and only a source that is no valid
module is reported. What the parser takes closes all it opens, and a text that does is scanned to its end,
so in texts whose lines end in line feeds the scan adds no fault of its own that would stop a run. Texts
that are read from files are such. A null character does stop a run, and so do some carriage returns,
which end a line for the parser and not for the scan.
-/

namespace ApiDirectives

open Source

/-! ## One source -/

/-- A source with neither null characters nor carriage returns gives blocks or is no valid module. -/
theorem Source.blocks_or_invalid {source : String} (file : String) (hnull : '\x00' ∉ source.toList)
    (hreturn : '\r' ∉ source.toList) :
    (∃ found, Source.blocks source file = .ok found) ∨
      ∃ line, Source.blocks source file = .error (.invalid line) := by
  unfold Source.blocks
  rw [if_neg (by simpa using hnull)]
  cases hparse : parseModule source.toList with
  | error line => exact .inr ⟨line, rfl⟩
  | ok tree =>
    obtain ⟨found, hfound⟩ | ⟨line, hline⟩ :=
      comments_of_closes hreturn (closes_of_parseModule hreturn hparse)
    · exact .inl ⟨_, by rw [hfound]; rfl⟩
    · exact .inr ⟨line, by rw [hline]; rfl⟩

/-- A bracket that is left open is a mistake of the module, and no fault of the scan. -/
example : Source.blocks "(\n" "api.py" = .error (.invalid 1) := by decide +kernel

theorem Source.blocks_of_null {source : String} (file : String) (hnull : '\x00' ∈ source.toList) :
    Source.blocks source file = .error .nullCharacter := by
  unfold Source.blocks
  rw [if_pos (by simpa using hnull)]

/-! ## All sources -/

namespace SourceFile

/-- Whether a source has a text with a certain character in it. -/
def holds (f : SourceFile) (c : Char) : Bool :=
  match f.content with
  | .error _ => false
  | .ok text => text.toList.contains c

/-- Without null characters and carriage returns a source is sound or reported. -/
theorem sound_or_reported {f : SourceFile} (hnull : f.holds '\x00' = false)
    (hreturn : f.holds '\r' = false) : f.isSound = true ∨ ∃ d, f.Reported d := by
  cases hcontent : f.content with
  | error reason => exact .inr ⟨_, .undecodable hcontent⟩
  | ok text =>
    have hnone : ∀ {c}, f.holds c = false → c ∉ text.toList := by
      intro c hc
      simpa [holds, hcontent] using hc
    obtain ⟨found, hfound⟩ | ⟨line, hline⟩ :=
      blocks_or_invalid f.path (hnone hnull) (hnone hreturn)
    · refine .inl ?_
      rw [isSound, hcontent]
      dsimp only
      rw [hfound]
      rfl
    · exact .inr ⟨_, .invalid hcontent hline⟩

theorem harvest_of_null {f : SourceFile} (hnull : f.holds '\x00' = true) :
    f.harvest = .error .nullCharacter := by
  unfold holds at hnull
  split at hnull
  · cases hnull
  · rename_i text hcontent
    rw [harvest, hcontent]
    dsimp only
    rw [blocks_of_null f.path (by simpa using hnull)]

end SourceFile

/-- A source that cannot be harvested stops the harvest of all. -/
theorem harvestAll_of_error {files : List SourceFile} {f : SourceFile} {fault : SourceFault}
    (hf : f ∈ files) (h : f.harvest = .error fault) :
    ∃ fault', (harvestAll files).2 = .error fault' := by
  induction files with
  | nil => cases hf
  | cons g rest ih =>
    cases hg : g.harvest with
    | error fault' => exact ⟨fault', by rw [harvestAll, hg]⟩
    | ok taken =>
      have hrest : f ∈ rest := by
        rcases List.mem_cons.mp hf with rfl | hrest
        · rw [h] at hg
          cases hg
        · exact hrest
      obtain ⟨fault', hfault⟩ := ih hrest
      refine ⟨fault', ?_⟩
      cases taken with
      | blocks found =>
        rw [harvestAll_of_blocks hg, hfault]
        rfl
      | finding d =>
        rw [harvestAll_of_finding hg, hfault]
        rfl

/-- A run is given up for a source exactly if the harvest is. -/
theorem compile_eq_source_error {files : List SourceFile} {version : String} {fault : SourceFault} :
    (compile files version).2 = .error (.source fault) ↔ (harvestAll files).2 = .error fault := by
  unfold compile
  obtain ⟨records, taken⟩ := harvestAll files
  cases taken with
  | error fault' => simp
  | ok taken =>
    dsimp only
    cases (assemble taken.1).draft.resolve version <;> simp

/-- Sources without null characters and carriage returns are all read or reported. -/
theorem harvestAll_of_feeds {files : List SourceFile} (hnull : ∀ f ∈ files, f.holds '\x00' = false)
    (hreturn : ∀ f ∈ files, f.holds '\r' = false) :
    ∃ blocks found, (harvestAll files).2 = .ok (blocks, found) ∧
      (harvestAll (files.filter (·.isSound))).2 = .ok (blocks, []) ∧
      List.Forall₂ SourceFile.Reported (files.filter (!·.isSound)) found :=
  harvestAll_of_reported fun f hf => SourceFile.sound_or_reported (hnull f hf) (hreturn f hf)

/-- Only a null character makes a run give up for a source. -/
theorem compile_gives_up_iff {files : List SourceFile} {version : String}
    (hreturn : ∀ f ∈ files, f.holds '\r' = false) :
    (∃ fault, (compile files version).2 = .error (.source fault)) ↔
      ∃ f ∈ files, f.holds '\x00' = true := by
  constructor
  · rintro ⟨fault, hfault⟩
    rw [compile_eq_source_error] at hfault
    by_contra hnone
    have hnull : ∀ f ∈ files, f.holds '\x00' = false := fun f hf =>
      Bool.eq_false_iff.mpr fun hnull => hnone ⟨f, hf, hnull⟩
    obtain ⟨blocks, found, hall, -⟩ := harvestAll_of_feeds hnull hreturn
    rw [hfault] at hall
    cases hall
  · rintro ⟨f, hf, hnull⟩
    obtain ⟨fault, hfault⟩ := harvestAll_of_error hf (SourceFile.harvest_of_null hnull)
    exact ⟨fault, compile_eq_source_error.mpr hfault⟩

/-! ## Sources that are found -/

theorem return_not_mem_withLineFeeds (cs : List Char) : '\r' ∉ withLineFeeds cs := by
  fun_induction withLineFeeds cs with
  | case1 => exact List.not_mem_nil
  | case2 r ih => simpa using ih
  | case3 r _ ih => simpa using ih
  | case4 c r _ hc ih => simpa [ih] using fun h => hc h.symm

theorem readSource_holds (path : FilePath) (shown : String) (bytes : List UInt8) :
    (readSource path shown bytes).1.holds '\r' = false := by
  unfold readSource
  cases hdecode : decodeSource path.render bytes with
  | error e => rfl
  | ok text =>
    unfold decodeSource at hdecode
    dsimp only at hdecode
    split at hdecode
    · cases hdecode
    · split at hdecode
      · cases hdecode
      · cases hdecode
        simpa [SourceFile.holds] using return_not_mem_withLineFeeds _

theorem sourcesOfFiles_holds (s : Selection) (path : FilePath) (shown : String)
    (entries : List (String × Entry)) :
    ∀ f ∈ (sourcesOfFiles s path shown entries).1, f.holds '\r' = false := by
  induction entries with
  | nil => simp [sourcesOfFiles]
  | cons entry r ih =>
    obtain ⟨name, inner⟩ := entry
    cases inner with
    | directory _ =>
      rw [sourcesOfFiles]
      exact ih
    | file bytes =>
      rw [sourcesOfFiles]
      dsimp only
      split
      · exact ih
      · split
        · exact ih
        · exact List.forall_mem_cons.mpr ⟨readSource_holds _ _ bytes, ih⟩

theorem sourcesBelow_holds (depth : Nat) (s : Selection) (path : FilePath) (shown : String)
    (entries : List (String × Entry)) :
    ∀ f ∈ (sourcesBelow depth s path shown entries).1, f.holds '\r' = false := by
  induction depth generalizing path shown entries with
  | zero => simp [sourcesBelow]
  | succ depth ih =>
    rw [sourcesBelow]
    refine List.foldlRecOn (motive := fun found : List SourceFile × List Record =>
      ∀ f ∈ found.1, f.holds '\r' = false) _ _ (sourcesOfFiles_holds s path shown _) ?_
    rintro found hfound ⟨name, entry⟩ _
    cases entry with
    | file bytes => exact hfound
    | directory inner =>
      dsimp only
      split
      · exact hfound
      · exact List.forall_mem_append.mpr ⟨hfound, ih _ _ _⟩

/-- Reading a file turns all its line ends into line feeds. -/
theorem Files.sources?_holds {tree : Files} {root : FilePath} {s : Selection}
    {found : List SourceFile × List Record} (h : tree.sources? root s = some found) :
    ∀ f ∈ found.1, f.holds '\r' = false := by
  unfold Files.sources? at h
  split at h
  · cases h
  · rename_i bytes _
    have hread := readSource_holds root root.name bytes
    generalize readSource root root.name bytes = read at h hread
    cases h
    simpa using hread
  · rename_i entries _
    have hbelow := sourcesBelow_holds (Entry.depth (.directory entries) + 1) s root "" entries
    generalize sourcesBelow (Entry.depth (.directory entries) + 1) s root "" entries = all
      at h hbelow
    cases h
    exact hbelow

/-! ## Refusals -/

/-- Among texts without carriage returns, a null character is all that makes a source neither sound nor
reported, and all that stops a run. Without one every bad source is reported and passed over, and the
blocks of the others are taken as if it were not there. The sources that are found at a path have no
carriage returns. -/
theorem refusals_are_reports (source file : String) (files : List SourceFile) (version : String)
    (hsource : '\r' ∉ source.toList) (hfiles : ∀ f ∈ files, f.holds '\r' = false) :
    (((∃ found, Source.blocks source file = .ok found) ∨
        ∃ line, Source.blocks source file = .error (.invalid line)) ↔ '\x00' ∉ source.toList) ∧
      ((∃ fault, (compile files version).2 = .error (.source fault)) ↔
        ∃ f ∈ files, f.holds '\x00' = true) ∧
      ((∀ f ∈ files, f.holds '\x00' = false) →
        ∃ blocks found, (harvestAll files).2 = .ok (blocks, found) ∧
          (harvestAll (files.filter (·.isSound))).2 = .ok (blocks, []) ∧
          List.Forall₂ SourceFile.Reported (files.filter (!·.isSound)) found) ∧
      ∀ (tree : Files) (root : FilePath) (s : Selection) (found : List SourceFile × List Record),
        tree.sources? root s = some found → ∀ f ∈ found.1, f.holds '\r' = false := by
  refine ⟨⟨?_, fun hnull => Source.blocks_or_invalid file hnull hsource⟩,
    compile_gives_up_iff hfiles, fun hnull => harvestAll_of_feeds hnull hfiles,
    fun tree root s found => Files.sources?_holds⟩
  intro hread hnull
  rw [Source.blocks_of_null file hnull] at hread
  rcases hread with ⟨_, h⟩ | ⟨_, h⟩ <;> cases h

/-- A source that ends in an open string is reported, and the one beside it is read. -/
theorem refusals_are_reports_at_open_string :
    let bad : SourceFile := ⟨"bad.py", .ok "x = '''\n"⟩
    let good : SourceFile := ⟨"good.py", .ok "# !GET /a -> x\n"⟩
    (∃ line, Source.blocks "x = '''\n" "bad.py" = .error (.invalid line)) ∧
      (¬ ∃ fault, (compile [bad, good]).2 = .error (.source fault)) ∧
      ∃ blocks d, (harvestAll [bad, good]).2 = .ok (blocks, [d]) ∧
        (harvestAll [good]).2 = .ok (blocks, []) ∧ bad.Reported d := by
  intro bad good
  have hreturn : ∀ f ∈ [bad, good], f.holds '\r' = false := by decide
  have hnull : ∀ f ∈ [bad, good], f.holds '\x00' = false := by decide
  have hbad : bad.isSound = false := by decide +kernel
  have hgood : good.isSound = true := by decide +kernel
  obtain ⟨hread, hstop, hharvest, -⟩ := refusals_are_reports "x = '''\n" "bad.py" [bad, good]
    defaultVersion (by decide) hreturn
  obtain ⟨blocks, found, hall, hrest, hreports⟩ := hharvest hnull
  simp only [List.filter_cons, List.filter_nil, hbad, hgood, Bool.not_true, Bool.not_false, if_true,
    Bool.false_eq_true, if_false] at hrest hreports
  refine ⟨?_, ?_, ?_⟩
  · refine (hread.mpr (by decide)).resolve_left ?_
    rintro ⟨found, hfound⟩
    have hrefused : (Source.blocks "x = '''\n" "bad.py").isOk = false := hbad
    rw [hfound] at hrefused
    cases hrefused
  · rw [hstop]
    rintro ⟨f, hf, hf'⟩
    rw [hnull f hf] at hf'
    cases hf'
  · obtain _ | ⟨hd, _ | _⟩ := hreports
    exact ⟨blocks, _, hall, hrest, hd⟩

/-- A source with a null character is neither read nor reported, and stops a run that would compile a
good source beside it. -/
theorem null_character_stops_run :
    let good : SourceFile := ⟨"good.py", .ok "# !GET /a -> x\n"⟩
    let bad : SourceFile := ⟨"bad.py", .ok "\x00"⟩
    good.isSound = true ∧ Source.blocks "\x00" "bad.py" = .error .nullCharacter ∧
      (compile [bad, good]).2 = .error (.source .nullCharacter) ∧
      Source.blocks "\r'''\n'''\n" "bad.py" = .error (.openString 2 0) := by
  intro good bad
  have hbad : bad.harvest = .error .nullCharacter := SourceFile.harvest_of_null (by decide)
  refine ⟨by decide +kernel, by decide, ?_, by decide +kernel⟩
  unfold compile
  rw [harvestAll, hbad]

end ApiDirectives
