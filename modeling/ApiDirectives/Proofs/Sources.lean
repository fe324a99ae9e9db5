import ApiDirectives.Proofs.Compilation
import Mathlib.Data.List.Forall2

/-!
# Sources that cannot be read

A source gives blocks, or it gives one finding that says why it gives none (`SourceFile.Reported`). The
blocks of several sources are then those of the sound ones, as if the others were not there, and the
findings stand one for one with the others. A bad source therefore costs its own report and nothing
else: what is compiled beside it stays the same.
-/

namespace ApiDirectives

open Source

/-! ## One source -/

namespace SourceFile

/-- Whether blocks can be taken from a source. -/
def isSound (f : SourceFile) : Bool :=
  match f.content with
  | .error _ => false
  | .ok text => (Source.blocks text f.path).isOk

/-- The finding on a source that gives no blocks: it has no text, or its text is no valid module. -/
inductive Reported (f : SourceFile) : Diagnostic → Prop
  | undecodable {reason : String} : f.content = .error reason →
      Reported f ⟨.undecodable reason, some ⟨f.path, 1⟩⟩
  | invalid {text : String} {line : Nat} : f.content = .ok text →
      Source.blocks text f.path = .error (.invalid line) →
      Reported f ⟨.unparsable, some ⟨f.path, max line 1⟩⟩

theorem isSound_iff {f : SourceFile} :
    f.isSound = true ↔ ∃ found, f.harvest = .ok (.blocks found) := by
  unfold isSound harvest
  cases f.content with
  | error reason => simp
  | ok text =>
    dsimp only
    cases hblocks : Source.blocks text f.path with
    | ok found => simp [Except.isOk, Except.toBool]
    | error fault => cases fault <;> simp [Except.isOk, Except.toBool]

theorem Reported.harvest {f : SourceFile} {d : Diagnostic} (h : f.Reported d) :
    f.harvest = .ok (.finding d) := by
  unfold SourceFile.harvest
  cases h with
  | undecodable hcontent => rw [hcontent]
  | invalid hcontent hblocks =>
    rw [hcontent]
    dsimp only
    rw [hblocks]

theorem reported_of_harvest {f : SourceFile} {d : Diagnostic} (h : f.harvest = .ok (.finding d)) :
    f.Reported d := by
  unfold harvest at h
  cases hcontent : f.content with
  | error reason =>
    rw [hcontent] at h
    cases h
    exact .undecodable hcontent
  | ok text =>
    rw [hcontent] at h
    dsimp only at h
    cases hblocks : Source.blocks text f.path with
    | ok found =>
      rw [hblocks] at h
      cases h
    | error fault =>
      rw [hblocks] at h
      cases fault with
      | invalid line =>
        cases h
        exact .invalid hcontent hblocks
      | _ => cases h

/-- What is reported of a source is an error, and placed in it. -/
theorem Reported.located {f : SourceFile} {d : Diagnostic} (h : f.Reported d) :
    d.isError = true ∧ ∃ line, d.location = some ⟨f.path, line⟩ := by
  cases h with
  | undecodable _ => exact ⟨rfl, _, rfl⟩
  | invalid _ _ => exact ⟨rfl, _, rfl⟩

theorem Reported.unique {f : SourceFile} {d e : Diagnostic} (hd : f.Reported d)
    (he : f.Reported e) : d = e := by
  have hharvest := hd.harvest
  rw [he.harvest] at hharvest
  cases hharvest
  rfl

theorem Reported.not_sound {f : SourceFile} {d : Diagnostic} (h : f.Reported d) :
    f.isSound = false := by
  rw [Bool.eq_false_iff]
  intro hsound
  obtain ⟨found, hfound⟩ := isSound_iff.mp hsound
  rw [h.harvest] at hfound
  cases hfound

end SourceFile

/-! ## All sources -/

/-- Sources that are sound or reported give the blocks of the sound ones, and a finding for each of
the others. -/
theorem harvestAll_of_reported {files : List SourceFile}
    (h : ∀ f ∈ files, f.isSound = true ∨ ∃ d, f.Reported d) :
    ∃ blocks found, (harvestAll files).2 = .ok (blocks, found) ∧
      (harvestAll (files.filter (·.isSound))).2 = .ok (blocks, []) ∧
      List.Forall₂ SourceFile.Reported (files.filter (!·.isSound)) found := by
  induction files with
  | nil => exact ⟨[], [], rfl, rfl, .nil⟩
  | cons f rest ih =>
    obtain ⟨blocks, found, hall, hgood, hreports⟩ := ih fun g hg => h g (List.mem_cons_of_mem _ hg)
    rcases h f List.mem_cons_self with hsound | ⟨d, hd⟩
    · obtain ⟨own, hown⟩ := SourceFile.isSound_iff.mp hsound
      refine ⟨own ++ blocks, found, ?_, ?_, ?_⟩
      · rw [harvestAll_of_blocks hown, hall]
        rfl
      · rw [List.filter_cons_of_pos hsound, harvestAll_of_blocks hown, hgood]
        rfl
      · rw [List.filter_cons_of_neg (by simp [hsound])]
        exact hreports
    · have hbad := hd.not_sound
      refine ⟨blocks, d :: found, ?_, ?_, ?_⟩
      · rw [harvestAll_of_finding hd.harvest, hall]
        rfl
      · rw [List.filter_cons_of_neg (by simp [hbad])]
        exact hgood
      · rw [List.filter_cons_of_pos (by simp [hbad])]
        exact .cons hd hreports

/-- Whatever is compiled without the bad sources is compiled with them, to the same document. The
findings are then one error for each bad source, in order and placed in it, before all others. -/
theorem compile_isolates_faults {files : List SourceFile} {version : String} {c : Compilation}
    (hfiles : ∀ f ∈ files, f.isSound = true ∨ ∃ d, f.Reported d)
    (h : (compile (files.filter (·.isSound)) version).2 = .ok c) :
    ∃ found,
      (compile files version).2 =
        .ok { document := c.document, diagnostics := found ++ c.diagnostics } ∧
      List.Forall₂ (fun f d => f.Reported d ∧ d.isError = true ∧
          ∃ line, d.location = some ⟨f.path, line⟩)
        (files.filter (!·.isSound)) found := by
  obtain ⟨blocks, found, hall, hgood, hreports⟩ := harvestAll_of_reported hfiles
  obtain ⟨blocks', found', warnings, hharvest, hresolve, hdiagnostics⟩ := compile_eq_ok h
  rw [hgood] at hharvest
  cases hharvest
  refine ⟨found, ?_, hreports.imp fun f d hd => ⟨hd, hd.located⟩⟩
  rw [compile_of_stages hall hresolve, hdiagnostics]
  simp

/-- Bad sources before and between two good ones, the second of which repeats an operation. -/
theorem compile_isolates_faults_between_two :
    let noText : SourceFile := ⟨"a.py", .error "invalid start byte"⟩
    let first : SourceFile := ⟨"b.py", .ok "# !GET /a -> x\n"⟩
    let noModule : SourceFile := ⟨"c.py", .ok "\n)\n"⟩
    let again : SourceFile := ⟨"d.py", .ok "# !GET /a -> y\n"⟩
    ∃ c found, (compile [first, again]).2 = .ok c ∧ c.diagnostics.length = 1 ∧
      (compile [noText, first, noModule, again]).2 =
        .ok { document := c.document, diagnostics := found ++ c.diagnostics } ∧
      found.map (·.location) = [some ⟨"a.py", 1⟩, some ⟨"c.py", 2⟩] := by
  intro noText first noModule again
  have hnoText : noText.Reported ⟨.undecodable "invalid start byte", some ⟨"a.py", 1⟩⟩ :=
    .undecodable rfl
  have hinvalid : Source.blocks "\n)\n" "c.py" = .error (.invalid 2) := by
    decide +kernel
  have hnoModule : noModule.Reported ⟨.unparsable, some ⟨"c.py", 2⟩⟩ := .invalid rfl hinvalid
  have hfirst : first.isSound = true := by decide +kernel
  have hagain : again.isSound = true := by decide +kernel
  have hfiles : ∀ f ∈ [noText, first, noModule, again],
      f.isSound = true ∨ ∃ d, f.Reported d := by
    simp only [List.forall_mem_cons, List.not_mem_nil, false_implies, implies_true, and_true]
    exact ⟨.inr ⟨_, hnoText⟩, .inl hfirst, .inr ⟨_, hnoModule⟩, .inl hagain⟩
  have hgood : [noText, first, noModule, again].filter (·.isSound) = [first, again] := by
    simp [hnoText.not_sound, hfirst, hnoModule.not_sound, hagain]
  have hbad : [noText, first, noModule, again].filter (!·.isSound) = [noText, noModule] := by
    simp [hnoText.not_sound, hfirst, hnoModule.not_sound, hagain]
  have hone : (compile [first, again]).2.toOption.map (·.diagnostics.length) = some 1 := by
    decide +kernel
  obtain ⟨c, hc, hlength⟩ := exists_ok_of_toOption hone
  obtain ⟨found, hall, hreports⟩ := compile_isolates_faults hfiles (hgood ▸ hc)
  rw [hbad] at hreports
  obtain _ | ⟨⟨hd, _⟩, _ | ⟨⟨he, _⟩, _ | _⟩⟩ := hreports
  refine ⟨c, _, hc, hlength, hall, ?_⟩
  rw [hd.unique hnoText, he.unique hnoModule]
  rfl

end ApiDirectives
