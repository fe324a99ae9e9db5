import ApiDirectives.Compilation
import ApiDirectives.Proofs.Document.Operations
import ApiDirectives.Proofs.Resolve.Findings

/-!
# Compilations

A compilation that is not given up went through all its stages: blocks were taken from the sources,
assembled, and resolved (`compile_eq_ok`). What holds of every assembled draft and of every resolved
document so holds of what is compiled from sources.
-/

namespace ApiDirectives

/-- The stages of a compilation that has a result. -/
theorem compile_eq_ok {files : List SourceFile} {version : String} {c : Compilation}
    (h : (compile files version).2 = .ok c) :
    ∃ blocks found warnings, (harvestAll files).2 = .ok (blocks, found) ∧
      (assemble blocks).draft.resolve version = .ok (c.document, warnings) ∧
      c.diagnostics = found ++ (assemble blocks).diagnostics ++ warnings := by
  unfold compile at h
  split at h
  · cases h
  · rename_i records blocks found hharvest
    dsimp only at h
    split at h
    · cases h
    · rename_i document warnings hresolve
      cases h
      exact ⟨blocks, found, warnings, by rw [hharvest], hresolve, rfl⟩

/-- Stages that succeed make a compilation. -/
theorem compile_of_stages {files : List SourceFile} {version : String} {blocks : List Block}
    {found warnings : List Diagnostic} {document : Document}
    (hharvest : (harvestAll files).2 = .ok (blocks, found))
    (hresolve : (assemble blocks).draft.resolve version = .ok (document, warnings)) :
    (compile files version).2 =
      .ok { document, diagnostics := found ++ (assemble blocks).diagnostics ++ warnings } := by
  unfold compile
  split
  · rename_i records fault hfault
    rw [hfault] at hharvest
    cases hharvest
  · rename_i records blocks' found' hblocks
    rw [hblocks] at hharvest
    cases hharvest
    dsimp only
    rw [hresolve]

/-! ## Operations -/

/-- A compiled document has exactly the operations that the assembly of its blocks accepted, and no
two of them have one identifier. -/
theorem compile_operations_perm {files : List SourceFile} {version : String} {c : Compilation}
    (h : (compile files version).2 = .ok c) :
    ∃ blocks found, (harvestAll files).2 = .ok (blocks, found) ∧
      (c.document.operations.map fun t => (t.1, t.2.1.lower, t.2.2.operationId)).Perm
        ((assemble blocks).draft.operations.values.map fun o =>
          (o.path, o.method.lower, o.operationId)) ∧
      (c.document.operations.map fun t => t.2.2.operationId).Nodup := by
  obtain ⟨blocks, found, warnings, hharvest, hresolve, _⟩ := compile_eq_ok h
  obtain ⟨notices, hresolution, _⟩ := Draft.resolve_eq_ok hresolve
  have hwell := assemble_operations_wellFormed blocks
  have hperm := Draft.resolution_operations_perm hwell version _ _ hresolution
  refine ⟨blocks, found, hharvest, ?_, ?_⟩
  · have hlower := hperm.map fun t : String × Method × String => (t.1, t.2.1.lower, t.2.2)
    have hkeyed : (assemble blocks).draft.operations.values.map
        (fun o => (o.path, o.method.lower, o.operationId)) =
        (assemble blocks).draft.operations.map
          (fun entry => (entry.1.1, entry.1.2.lower, entry.2.operationId)) := by
      simp only [Table.values, List.map_map]
      apply List.map_congr_left
      intro entry hentry
      simp [hwell.keyed entry hentry]
    rw [hkeyed]
    simpa [Function.comp_def] using hlower
  · have hids := hperm.map fun t : String × Method × String => t.2.2
    have hnodup := hwell.ids_nodup
    simp only [Operations.ids, Table.values, List.map_map, Function.comp_def] at hids hnodup
    exact hids.nodup_iff.mpr hnodup

/-- Two operations on one path, and a third one whose identifier is taken. -/
theorem compile_operations_perm_at_shared_path :
    let text := "# !GET /a -> x\ndef f(): 0\n# !PUT /a -> y\ndef g(): 0\n"
      ++ "# !GET /b -> x\ndef h(): 0\n"
    ∃ c, (compile [⟨"api.py", .ok text⟩]).2 = .ok c ∧
      (c.document.operations.map fun t => (t.1, t.2.1.lower, t.2.2.operationId)) =
        [("/a", "get", "x"), ("/a", "put", "y")] ∧
      (c.document.operations.map fun t => t.2.2.operationId).Nodup := by
  intro text
  let found : List Block := [⟨[], "api", .module, ⟨"api.py", 1⟩, none⟩,
    .ofComment "!GET /a -> x" "f" .function ⟨"api.py", 2⟩,
    .ofComment "!PUT /a -> y" "g" .function ⟨"api.py", 4⟩,
    .ofComment "!GET /b -> x" "h" .function ⟨"api.py", 6⟩]
  have hparse : (Source.parseModule text.toList).toOption.map
      (fun tree => (tree.declarations, tree.docstring)) =
        some ([⟨"f", .function, 2, none⟩, ⟨"g", .function, 4, none⟩, ⟨"h", .function, 6, none⟩], "") := by
    dsimp only [text]
    rw [← String.ofList_append, String.toList_ofList]
    decide +kernel
  have hcomments : Source.comments text =
      .ok [⟨1, "!GET /a -> x"⟩, ⟨3, "!PUT /a -> y"⟩, ⟨5, "!GET /b -> x"⟩] := by
    dsimp only [text]
    rw [← String.ofList_append, Source.comments_ofList]
    decide
  have hblocks : Source.blocks text "api.py" = .ok found := by
    refine (Source.blocks_of_parse "api.py" ?_ hparse hcomments).trans rfl
    dsimp only [text]
    rw [← String.ofList_append, String.toList_ofList]
    decide
  have hharvest : (harvestAll [⟨"api.py", .ok text⟩]).2 = .ok (found, []) := by
    rw [harvestAll_of_blocks (SourceFile.harvest_of_blocks rfl hblocks)]
    rfl
  have htriples : (assemble found).draft.resolve.toOption.map (fun resolved =>
      resolved.1.operations.map fun t => (t.1, t.2.1.lower, t.2.2.operationId)) =
      some [("/a", "get", "x"), ("/a", "put", "y")] := by
    dsimp only [found]
    rw [Block.ofComment_ofList, Block.ofComment_ofList, Block.ofComment_ofList]
    decide
  obtain ⟨⟨document, warnings⟩, hresolve, hoperations⟩ := exists_ok_of_toOption htriples
  have hc := compile_of_stages hharvest hresolve
  obtain ⟨_, _, _, _, hnodup⟩ := compile_operations_perm hc
  exact ⟨_, hc, hoperations, hnodup⟩

end ApiDirectives
