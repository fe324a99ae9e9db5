import ApiDirectives.Proofs.Assembly.FileOrder
import ApiDirectives.Proofs.Assembly.Places
import ApiDirectives.Proofs.Resolve.Notes
import ApiDirectives.Proofs.Sources

/-!
# Where findings come from

A finding is made in one of three stages: on a source that gives no blocks, on a block that is
assembled, or on a part of the draft that is resolved, long after its source was read. Each stage
places what it finds by the places it was given, and these are those of the sources. So every finding
of a compilation can be traced to one of its sources.
-/

namespace ApiDirectives

/-! ## Sources -/

/-- The blocks of a source are placed in its file. -/
theorem Source.blocks_file {text file : String} {found : List Block}
    (h : Source.blocks text file = .ok found) : ∀ b ∈ found, b.location.file = file := by
  have hmodule : ∀ tree comments, ∀ b ∈ moduleBlocks file tree comments,
      b.location.file = file := by
    intro tree comments b hb
    rcases List.mem_cons.mp hb with rfl | hb
    · rfl
    · obtain ⟨d, _, rfl⟩ := List.mem_map.mp hb
      rfl
  unfold Source.blocks at h
  dsimp only at h
  split at h
  · cases h
  · split at h
    · cases h
    · rename_i tree _
      cases hcomments : comments text with
      | error fault =>
        rw [hcomments] at h
        cases h
      | ok cs =>
        rw [hcomments] at h
        cases h
        exact hmodule tree cs

theorem SourceFile.harvest_file {f : SourceFile} {found : List Block}
    (h : f.harvest = .ok (.blocks found)) : ∀ b ∈ found, b.location.file = f.path := by
  unfold harvest at h
  split at h
  · cases h
  · split at h
    · rename_i hblocks
      cases h
      exact Source.blocks_file hblocks
    · cases h
    · cases h

/-- A place in one of some files. -/
def Location.In (files : List SourceFile) (l : Location) : Prop :=
  ∃ f ∈ files, l.file = f.path

theorem Location.In.cons {files : List SourceFile} {l : Location} (h : l.In files)
    (f : SourceFile) : l.In (f :: files) := by
  obtain ⟨g, hg, hfile⟩ := h
  exact ⟨g, List.mem_cons_of_mem _ hg, hfile⟩

theorem Located.mono {P Q : Location → Prop} {found : List Diagnostic} (h : Located P found)
    (hPQ : ∀ l, P l → Q l) : Located Q found := by
  intro d hd
  obtain ⟨l, hl, hP⟩ := h d hd
  exact ⟨l, hl, hPQ l hP⟩

theorem Block.Placed.mono {P Q : Location → Prop} {b : Block} (h : b.Placed P)
    (hPQ : ∀ l, P l → Q l) : b.Placed Q :=
  ⟨hPQ _ h.own, hPQ _ h.model⟩

/-- What is taken from sources is placed in them, blocks and findings. -/
theorem harvestAll_placed {files : List SourceFile} {blocks : List Block}
    {found : List Diagnostic} (h : (harvestAll files).2 = .ok (blocks, found)) :
    (∀ b ∈ blocks, b.Placed (Location.In files)) ∧ Located (Location.In files) found := by
  induction files generalizing blocks found with
  | nil =>
    cases h
    exact ⟨by simp, located_nil⟩
  | cons f rest ih =>
    cases hharvest : f.harvest with
    | error fault =>
      rw [harvestAll, hharvest] at h
      cases h
    | ok harvest =>
      have hown : ∀ l : Location, l.file = f.path → l.In (f :: rest) :=
        fun l hl => ⟨f, List.mem_cons_self, hl⟩
      have hmono : ∀ l : Location, l.In rest → l.In (f :: rest) := fun l hl => hl.cons f
      cases hrest : (harvestAll rest).2 with
      | error fault =>
        cases harvest with
        | blocks own => rw [harvestAll_of_blocks hharvest, hrest] at h; cases h
        | finding d => rw [harvestAll_of_finding hharvest, hrest] at h; cases h
      | ok taken =>
        obtain ⟨hblocks, hfound⟩ := ih hrest
        have hblocks' := fun b hb => (hblocks b hb).mono hmono
        cases harvest with
        | blocks own =>
          rw [harvestAll_of_blocks hharvest, hrest] at h
          cases h
          refine ⟨List.forall_mem_append.mpr ⟨?_, hblocks'⟩, hfound.mono hmono⟩
          intro b hb
          have hfile := SourceFile.harvest_file hharvest b hb
          exact ⟨hown _ hfile, hown _ (b.modelLocation_file.trans hfile)⟩
        | finding d =>
          rw [harvestAll_of_finding hharvest, hrest] at h
          cases h
          refine ⟨hblocks', List.forall_mem_cons.mpr ⟨?_, hfound.mono hmono⟩⟩
          obtain ⟨_, line, hline⟩ := (SourceFile.reported_of_harvest hharvest).located
          exact ⟨_, hline, hown _ rfl⟩

/-! ## Parts of a draft -/

section Parts

variable {P : Location → Prop}

/-- The place of a part is in a set. The schemes have their places in the header. -/
def Part.Placed (P : Location → Prop) : Part → Prop
  | .schemes => True
  | .slot _ _ _ _ location | .written _ location | .requirement _ location => P location
  | .webhooks first => P first

theorem contentParts_placed {location : Location} (hl : P location) (body : Option Payload)
    (responses : Table String Reply) : ∀ p ∈ contentParts location body responses, p.Placed P := by
  refine List.forall_mem_append.mpr ⟨?_, ?_⟩
  · rintro _ hp
    obtain ⟨payload, _, rfl⟩ := List.mem_map.mp hp
    exact hl
  · rintro p hp
    obtain ⟨⟨status, reply⟩, _, hreply⟩ := List.mem_flatMap.mp hp
    dsimp only [Reply.parts] at hreply
    split at hreply
    · cases hreply
    · rw [List.mem_singleton.mp hreply]
      exact hl

theorem OperationDraft.parts_placed {o : OperationDraft} (ho : P o.location) :
    ∀ p ∈ o.parts, p.Placed P := by
  refine List.forall_mem_append.mpr ⟨?_, List.forall_mem_append.mpr ⟨?_, ?_⟩⟩
  · rintro _ hp
    obtain ⟨parameter, _, rfl⟩ := List.mem_map.mp hp
    exact ho
  · exact contentParts_placed ho o.body o.responses
  · rintro _ hp
    obtain ⟨name, _, rfl⟩ := List.mem_map.mp hp
    exact ho

theorem webhookParts_placed {webhooks : Table String WebhookDraft}
    (hw : ∀ w ∈ webhooks.values, P w.location) : ∀ p ∈ webhookParts webhooks, p.Placed P := by
  cases webhooks with
  | nil => simp [webhookParts]
  | cons entry rest =>
    obtain ⟨name, first⟩ := entry
    refine List.forall_mem_cons.mpr ⟨hw first (by simp [Table.values]), ?_⟩
    rintro p hp
    obtain ⟨⟨key, w⟩, hmem, hparts⟩ := List.mem_flatMap.mp hp
    exact contentParts_placed (hw w (List.mem_map.mpr ⟨_, hmem, rfl⟩)) w.body w.responses p hparts

theorem ModelDraft.parts_placed {m : ModelDraft} (hm : m.Placed P) :
    ∀ p ∈ m.parts, p.Placed P := by
  refine List.forall_mem_append.mpr ⟨?_, ?_⟩
  · rintro _ hp
    obtain ⟨⟨key, field⟩, hfield, rfl⟩ := List.mem_map.mp hp
    exact hm.fields field (List.mem_map.mpr ⟨_, hfield, rfl⟩)
  · rintro _ hp
    obtain ⟨parent, _, rfl⟩ := List.mem_map.mp hp
    exact hm.model

/-- The parts of a placed draft are placed. -/
theorem Draft.Placed.parts {draft : Draft} (h : draft.Placed P) :
    ∀ p ∈ draft.parts, p.Placed P := by
  refine List.forall_mem_cons.mpr ⟨trivial, ?_⟩
  refine List.forall_mem_append.mpr ⟨?_, List.forall_mem_append.mpr ⟨?_, ?_⟩⟩
  · rintro p hp
    obtain ⟨⟨key, o⟩, hmem, hparts⟩ := List.mem_flatMap.mp hp
    exact OperationDraft.parts_placed (h.operations o (List.mem_map.mpr ⟨_, hmem, rfl⟩)) p hparts
  · exact webhookParts_placed h.header.webhooks
  · rintro p hp
    obtain ⟨⟨key, m⟩, hmem, hparts⟩ := List.mem_flatMap.mp hp
    exact ModelDraft.parts_placed (h.models m (List.mem_map.mpr ⟨_, hmem, rfl⟩)) p hparts

/-! ## Notices -/

/-- A notice has a place, and it is in a set. -/
def Notice.Placed (P : Location → Prop) : Notice → Prop
  | .reference _ location => ∃ l, location = some l ∧ P l
  | .finding d => ∃ l, d.location = some l ∧ P l

theorem Notice.RefersAt.placed {l : Location} {n : Notice} (h : n.RefersAt (some l)) (hl : P l) :
    n.Placed P := by
  obtain ⟨name, rfl⟩ := h
  exact ⟨l, rfl, hl⟩

theorem Notice.FoundAt.placed {kind : Cause → Prop} {l : Location} {n : Notice}
    (h : n.FoundAt kind (some l)) (hl : P l) : n.Placed P := by
  obtain ⟨cause, _, rfl⟩ := h
  exact ⟨l, rfl, hl⟩

/-- What a placed part notices is placed, given that the header is. -/
theorem Part.Placed.notes {e : Setting} (he : e.header.Placed P) {p : Part} (hp : p.Placed P)
    {n : Notice} (hn : p.Notes e n) : n.Placed P := by
  cases p with
  | schemes =>
    obtain ⟨l, hl, hfound⟩ := hn
    refine hfound.placed ?_
    rcases List.mem_append.mp hl with hscope | hscheme
    · exact he.scopes l hscope
    · obtain ⟨s, hs, rfl⟩ := List.mem_map.mp hscheme
      exact he.schemes s hs
  | slot type constraints description nullable location =>
    rcases hn with href | hfound
    · exact href.placed hp
    · exact hfound.placed hp
  | written type location => exact Notice.RefersAt.placed hn hp
  | requirement name location => exact Notice.FoundAt.placed hn hp
  | webhooks first =>
    cases hn
    exact ⟨first, rfl, hp⟩

/-- What a placed draft is warned of when it is resolved is placed. -/
theorem Draft.Placed.resolve_located {draft : Draft} (h : draft.Placed P)
    (hwell : draft.operations.WellFormed) {fallback : String} {document : Document}
    {warnings : List Diagnostic} (hresolve : draft.resolve fallback = .ok (document, warnings)) :
    Located P warnings := by
  obtain ⟨notices, hresolution, rfl⟩ := Draft.resolve_eq_ok hresolve
  have hnotices : ∀ n ∈ notices, n.Placed P := by
    intro n hn
    obtain ⟨p, hp, hnotes⟩ := Draft.notes_of_mem hwell hresolution hn
    exact (h.parts p hp).notes h.header hnotes
  refine forall_mem_settle _ _ ?_ ?_
  · exact fun d hd => hnotices _ hd
  · exact fun name location href => hnotices _ href

end Parts

/-! ## Compilations -/

/-- Every finding of a compilation has a place, and the place is in one of the compiled files. -/
theorem diagnostics_traceable {files : List SourceFile} {version : String} {c : Compilation}
    (h : (compile files version).2 = .ok c) :
    ∀ d ∈ c.diagnostics, ∃ l, d.location = some l ∧ ∃ f ∈ files, l.file = f.path := by
  obtain ⟨blocks, found, warnings, hharvest, hresolve, hdiagnostics⟩ := compile_eq_ok h
  obtain ⟨hblocks, hfound⟩ := harvestAll_placed hharvest
  have hassembled := assemble_placed hblocks
  have hwarnings := hassembled.draft.resolve_located (assemble_operations_wellFormed blocks) hresolve
  rw [hdiagnostics]
  exact located_append.mpr ⟨located_append.mpr ⟨hfound, hassembled.found⟩, hwarnings⟩

/-- A file without text, a class that repeats a model of another file, and a reference to a schema
that no file declares. -/
theorem diagnostics_traceable_at_three_stages :
    let files : List SourceFile := [⟨"a.py", .error "invalid start byte"⟩,
      ⟨"b.py", .ok "# !model\nclass A:\n    # !field b:Gone\n    b = 0\n"⟩,
      ⟨"c.py", .ok "\n# !model\nclass A: 0\n"⟩]
    ∃ c, (compile files).2 = .ok c ∧
      c.diagnostics.map (·.location) = [some ⟨"a.py", 1⟩, some ⟨"c.py", 3⟩, some ⟨"b.py", 4⟩] ∧
      ∀ d ∈ c.diagnostics, ∃ l, d.location = some l ∧ ∃ f ∈ files, l.file = f.path := by
  intro files
  have hplaces : (compile files).2.toOption.map (fun c => c.diagnostics.map (·.location)) =
      some [some ⟨"a.py", 1⟩, some ⟨"c.py", 3⟩, some ⟨"b.py", 4⟩] := by
    decide +kernel
  obtain ⟨c, hc, hlocations⟩ := exists_ok_of_toOption hplaces
  exact ⟨c, hc, hlocations, diagnostics_traceable hc⟩

end ApiDirectives
