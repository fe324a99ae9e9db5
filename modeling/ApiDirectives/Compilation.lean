import ApiDirectives.Draft.Assembly
import ApiDirectives.Files.Discovery
import ApiDirectives.Resolve.Document
import ApiDirectives.Source.Blocks

/-!
# Compilation

Sources, in order, become blocks, the blocks one draft, and the draft a document. A source that
cannot be decoded or is no valid module is reported and left out; the others still count. Each stage
notes what it does, and what was noted stays known when a run is given up.
-/

namespace ApiDirectives

open Source

/-- A document and all findings: those on sources, then on the draft, then on the document. -/
structure Compilation where
  document : Document
  diagnostics : List Diagnostic

namespace Compilation

/-- The findings that are errors. -/
def errors (c : Compilation) : List Diagnostic := c.diagnostics.filter (·.isError)

/-- The findings that are warnings. -/
def warnings (c : Compilation) : List Diagnostic := c.diagnostics.filter (!·.isError)

/-- Whether some finding is an error. -/
def hasErrors (c : Compilation) : Bool := anyError (c.diagnostics.map (·.severity))

/-- Whether a run counts as failed; a strict one fails for warnings too. -/
def failed (c : Compilation) (strict : Bool) : Bool :=
  c.hasErrors || (strict && !c.warnings.isEmpty)

end Compilation

/-- Why a run is given up. -/
inductive CompileFault where
  /-- A source that can be neither read nor reported. -/
  | source (fault : SourceFault)
  /-- A version that is no version. -/
  | version (fault : VersionFault)

/-- What is taken from one source: its blocks, or a finding. -/
inductive Harvest where
  | blocks (found : List Block)
  | finding (diagnostic : Diagnostic)

/-- The records of a source whose blocks were found. -/
def harvestRecords (path : String) (found : List Block) : List Record :=
  let documented := found.filter fun b => !b.remarks.isEmpty
  [note "associator" (path ++ ": " ++ toString found.length ++ " declarations, "
      ++ toString documented.length ++ " annotated"),
    note "compiler" ("associated " ++ path)]

/-- Takes the blocks of a source. -/
def SourceFile.harvest (f : SourceFile) : Except SourceFault Harvest :=
  match f.content with
  | .error reason => .ok (.finding ⟨.undecodable reason, some ⟨f.path, 1⟩⟩)
  | .ok text =>
    match Source.blocks text f.path with
    | .ok found => .ok (.blocks found)
    | .error (.invalid line) => .ok (.finding ⟨.unparsable, some ⟨f.path, max line 1⟩⟩)
    | .error fault => .error fault

theorem SourceFile.harvest_of_blocks {f : SourceFile} {text : String} {found : List Block}
    (hcontent : f.content = .ok text) (h : Source.blocks text f.path = .ok found) :
    f.harvest = .ok (.blocks found) := by
  rw [harvest, hcontent]
  dsimp only
  rw [h]

/-- What is taken from all sources: blocks, findings and records. The records are those up to the
fault if there is one. -/
def harvestAll : List SourceFile → List Record × Except SourceFault (List Block × List Diagnostic)
  | [] => ([], .ok ([], []))
  | f :: r =>
    match f.harvest with
    | .error fault => ([], .error fault)
    | .ok (.finding d) =>
      let (records, rest) := harvestAll r
      (records, rest.map fun (blocks, found) => (blocks, d :: found))
    | .ok (.blocks found) =>
      let (records, rest) := harvestAll r
      (harvestRecords f.path found ++ records,
        rest.map fun (blocks, findings) => (found ++ blocks, findings))

theorem harvestAll_of_blocks {f : SourceFile} {found : List Block}
    (h : f.harvest = .ok (.blocks found)) (rest : List SourceFile) :
    (harvestAll (f :: rest)).2 =
      (harvestAll rest).2.map fun taken => (found ++ taken.1, taken.2) := by
  rw [harvestAll, h]

theorem harvestAll_of_finding {f : SourceFile} {d : Diagnostic}
    (h : f.harvest = .ok (.finding d)) (rest : List SourceFile) :
    (harvestAll (f :: rest)).2 =
      (harvestAll rest).2.map fun taken => (taken.1, d :: taken.2) := by
  rw [harvestAll, h]

/-- The records of an assembly. -/
def Assembly.records (a : Assembly) : List Record :=
  a.draft.operations.values.map (fun o =>
    note "assembler" ("operation " ++ o.method.upper ++ " " ++ o.path ++ " -> " ++ o.operationId
      ++ " at " ++ o.location.render))
    ++ [note "assembler" ("assembled " ++ toString a.draft.operations.length ++ " operations, "
      ++ toString a.draft.models.length ++ " schemas, " ++ toString a.diagnostics.length
      ++ " diagnostics")]

/-- The records of a finished run. -/
def resolutionRecords (document : Document) (warnings all : List Diagnostic) : List Record :=
  note "resolver" ("resolved document with " ++ toString document.paths.length ++ " paths, "
      ++ toString warnings.length ++ " warnings")
    :: all.map fun d => note "diagnostics" d.render

/-- Compiles sources, in order; `version` is for sources that declare none. -/
def compile (files : List SourceFile) (version : String := defaultVersion) :
    List Record × Except CompileFault Compilation :=
  match harvestAll files with
  | (records, .error fault) => (records, .error (.source fault))
  | (records, .ok (blocks, findings)) =>
    let a := assemble blocks
    let records := records ++ a.records
    match a.draft.resolve version with
    | .error fault => (records, .error (.version fault))
    | .ok (document, warnings) =>
      let diagnostics := findings ++ a.diagnostics ++ warnings
      (records ++ resolutionRecords document warnings diagnostics,
        .ok { document, diagnostics })

/-- Compiles the sources at a path; none if there is nothing. -/
def Files.compile? (f : Files) (root : FilePath) (s : Selection)
    (version : String := defaultVersion) :
    Option (List Record × Except CompileFault Compilation) :=
  (f.sources? root s).map fun (files, found) =>
    let (records, result) := compile files version
    (found ++ note "compiler" ("compiling " ++ toString files.length ++ " files from "
      ++ root.render) :: records, result)

end ApiDirectives
