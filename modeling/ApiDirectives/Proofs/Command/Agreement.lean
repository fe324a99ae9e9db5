import ApiDirectives.Proofs.Command.Arguments

/-!
# The two commands that compile

One command writes the document of the sources and one only reports on them. Both load settings,
compile and report before they end; between these they differ, in the switches they know and in
what they write. None of this makes a difference to the findings and the exit code:
`check_agrees_with_generate` says that, where the sources compile and the document can be written,
both print the same lines and end in the same way.
-/

namespace ApiDirectives

/-! ## Runs of a session -/

namespace Session

variable {α β : Type} {before after : Console}

/-- What follows a step that is done starts where the step has left the console. -/
theorem run_bind_of_ok {x : Session α} {a : α} (h : x.run.run before = (.ok a, after))
    (f : α → Session β) : (x >>= f).run.run before = (f a).run.run after := by
  rw [ExceptT.run_bind, StateT.run_bind, h]
  rfl

/-- Lines as they are printed. -/
def printed : List String → String
  | [] => ""
  | line :: rest => line ++ "\n" ++ printed rest

theorem printed_append (lines more : List String) :
    printed (lines ++ more) = printed lines ++ printed more := by
  induction lines with
  | nil => simp [printed]
  | cons line rest ih => simp [printed, ih, String.append_assoc]

theorem run_print (text : String) (k : Console) :
    (print text).run.run k = (.ok (), { k with out := k.out ++ text }) :=
  rfl

theorem run_tell (line : String) (k : Console) :
    (tell line).run.run k = (.ok (), { k with err := k.err ++ printed [line] }) := by
  have hend : k.err ++ printed [line] = k.err ++ line ++ "\n" := by
    simp [printed, String.append_assoc]
  rw [hend]
  rfl

theorem run_forM_tell (shown : α → String) (items : List α) (k : Console) :
    (items.forM fun item => tell (shown item)).run.run k =
      (.ok (), { k with err := k.err ++ printed (items.map shown) }) := by
  induction items generalizing k with
  | nil =>
    rw [List.map_nil, printed, String.append_empty]
    rfl
  | cons item rest ih =>
    change (tell (shown item) >>= fun _ => rest.forM fun item => tell (shown item)).run.run k = _
    have hrest : printed (shown item :: rest.map shown) =
        printed [shown item] ++ printed (rest.map shown) := printed_append [shown item] _
    rw [run_bind_of_ok (run_tell (shown item) k), ih, List.map_cons, hrest, String.append_assoc]

theorem run_tellAll (lines : List String) (k : Console) :
    (lines.forM tell).run.run k = (.ok (), { k with err := k.err ++ printed lines }) := by
  have hlines := run_forM_tell id lines k
  rw [List.map_id] at hlines
  exact hlines

end Session

/-! ## Reports -/

namespace Compilation

variable (c : Compilation)

/-- The lines of a report: all findings, and their numbers if there are any. -/
def reportLines : List String :=
  c.diagnostics.map (·.render) ++
    if c.diagnostics.isEmpty then []
    else [toString c.errors.length ++ " error(s), " ++ toString c.warnings.length ++ " warning(s)"]

/-- A run fails for an error, and for a warning if it is strict. -/
theorem failed_iff (strict : Bool) :
    c.failed strict = true ↔
      (∃ d ∈ c.diagnostics, d.severity = .error) ∨
        strict = true ∧ ∃ d ∈ c.diagnostics, d.severity = .warning := by
  have herror : c.hasErrors = true ↔ ∃ d ∈ c.diagnostics, d.severity = .error := by
    simp [hasErrors, anyError]
  have hwarning : (!c.warnings.isEmpty) = true ↔ ∃ d ∈ c.diagnostics, d.severity = .warning := by
    have hkind : ∀ d : Diagnostic, d.isError = false ↔ d.severity = .warning := by
      intro d
      unfold Diagnostic.isError
      cases d.severity <;> decide
    simp [warnings, hkind]
  rw [failed, Bool.or_eq_true, Bool.and_eq_true, herror, hwarning]

end Compilation

namespace Session

theorem run_report (c : Compilation) (k : Console) :
    (report c).run.run k = (.ok (), { k with err := k.err ++ printed c.reportLines }) := by
  unfold report Compilation.reportLines
  rw [run_bind_of_ok (run_forM_tell (·.render) c.diagnostics k)]
  by_cases hnone : c.diagnostics.isEmpty = true
  · rw [if_pos hnone, if_pos hnone, List.append_nil]
    rfl
  · rw [if_neg hnone, if_neg hnone, run_tell, printed_append, String.append_assoc]

theorem run_conclude (c : Compilation) (strict : Bool) (k : Console) :
    (conclude c strict).run.run k =
      (if c.failed strict then .error (.exit 1) else .ok (), k) := by
  unfold conclude
  split <;> rfl

/-- What both commands do first: they load settings and compile. -/
def compiled (r : Request) : Session (Config × Compilation) := do
  startLog r
  let loaded ← Session.config r
  let c ← Session.compile r (r.over loaded)
  return (loaded, c)

end Session

open Session

/-- What a check does with a compilation. -/
def finishCheck (r : Request) (found : Config × Compilation) : Session Unit := do
  report found.2
  print (toString found.2.document.operations.length ++ " operations, "
    ++ toString found.2.document.components.schemas.length ++ " schemas\n")
  conclude found.2 (r.over found.1).strict

theorem checkSources_eq (r : Request) : checkSources r = compiled r >>= finishCheck r := by
  simp [checkSources, compiled, finishCheck]

/-- The line that says where a document was written. -/
def wroteLines (output : Option FilePath) (document : Document) : List String :=
  match output with
  | none => []
  | some path =>
    ["Wrote " ++ path.render ++ " (" ++ toString document.paths.length ++ " paths, "
      ++ toString document.components.schemas.length ++ " schemas)"]

/-- Puts a document where it belongs. -/
def deliver (output : Option FilePath) (text : String) (document : Document) : Session Unit := do
  match output with
  | none => print text
  | some path => write path text
  (wroteLines output document).forM tell

/-- What is done with a compilation to write its document. -/
def finishDocument (r : Request) (found : Config × Compilation) : Session Unit := do
  let config := r.over found.1
  match config.outputFormat with
  | .error fault => throw (.usage fault)
  | .ok format =>
    deliver config.output (found.2.document.text format config.indent) found.2.document
    report found.2
    conclude found.2 config.strict

theorem writeDocument_eq (r : Request) : writeDocument r = compiled r >>= finishDocument r := by
  unfold writeDocument compiled finishDocument deliver
  simp only [bind_assoc, pure_bind]
  refine bind_congr fun _ => bind_congr fun loaded => bind_congr fun c => ?_
  cases (r.over loaded).outputFormat with
  | error fault => rfl
  | ok format =>
    cases (r.over loaded).output with
    | none => rfl
    | some path => 
      simp [wroteLines]

section Runs

variable {r : Request} {before after : Console} {loaded : Config} {c : Compilation}

/-- The end of a check: the report, and one line beside it. -/
theorem run_checkSources (h : (compiled r).run.run before = (.ok (loaded, c), after)) :
    ∃ out, (checkSources r).run.run before =
      (if c.failed (r.over loaded).strict then .error (.exit 1) else .ok (),
        { after with out, err := after.err ++ printed c.reportLines }) := by
  rw [checkSources_eq, run_bind_of_ok h, finishCheck, run_bind_of_ok (run_report c after)]
  exact ⟨_, run_conclude c _ _⟩

theorem run_deliver {output : Option FilePath} {k : Console}
    (hwritable : ∀ path ∈ output, ∀ bytes, ∃ files, k.files.write path bytes = .ok files)
    (text : String) (document : Document) :
    ∃ files written out, (deliver output text document).run.run k =
      (.ok (), { k with
        files, written, out, err := k.err ++ printed (wroteLines output document) }) := by
  unfold deliver
  cases output with
  | none =>
    refine ⟨k.files, k.written, k.out ++ text, ?_⟩
    dsimp only
    rw [run_bind_of_ok (run_print text k), run_tellAll]
  | some path =>
    obtain ⟨files, hfiles⟩ := hwritable path rfl (Text.encodeUtf8 text)
    have hwrite : (write path text).run.run k =
        (.ok (), { k with files, written := k.written ++ [path] }) := by
      change (change path (k.files.write path (Text.encodeUtf8 text))).run.run k = _
      rw [hfiles]
      rfl
    refine ⟨files, k.written ++ [path], k.out, ?_⟩
    dsimp only
    rw [run_bind_of_ok hwrite, run_tellAll]

/-- The end of writing a document: where it was written, and the report. -/
theorem run_writeDocument (h : (compiled r).run.run before = (.ok (loaded, c), after))
    (hformat : ∃ format, (r.over loaded).outputFormat = .ok format)
    (hwritable : ∀ path ∈ (r.over loaded).output, ∀ bytes,
      ∃ files, after.files.write path bytes = .ok files) :
    ∃ files written out, (writeDocument r).run.run before =
      (if c.failed (r.over loaded).strict then .error (.exit 1) else .ok (),
        { after with
          files, written, out,
          err := after.err ++
            printed (wroteLines (r.over loaded).output c.document ++ c.reportLines) }) := by
  obtain ⟨format, hformat⟩ := hformat
  obtain ⟨files, written, out, hdeliver⟩ :=
    run_deliver hwritable (c.document.text format (r.over loaded).indent) c.document
  refine ⟨files, written, out, ?_⟩
  rw [writeDocument_eq, run_bind_of_ok h, finishDocument]
  dsimp only
  rw [hformat]
  dsimp only
  rw [run_bind_of_ok hdeliver, run_bind_of_ok (run_report c _), run_conclude, printed_append,
    String.append_assoc]

end Runs

/-! ## Whole runs -/

theorem runProgram_name (program : String) (console : Console) (c : Command)
    (arguments : List String) :
    runProgram program console (c.name :: arguments) = c.run program console arguments := by
  cases c with
  | generate => rfl
  | check => rfl
  | lex => rfl

/-- A command that comes to its conclusion leaves an exit code and no crash. -/
theorem Command.run_of_perform (c : Command) (program : String) {console left : Console}
    {arguments : List String} {a : Arguments} {r : Request} {failed : Bool}
    (hread : readArguments c.switches true arguments = .ok a) (hhelp : a.has .help = false)
    (hrequest : c.request console.files a = .ok r)
    (hperform : (c.perform r).run.run console =
      (if failed then .error (.exit 1) else .ok (), left)) :
    c.run program console arguments = { exitCode := if failed then 1 else 0, console := left } := by
  unfold Command.run
  simp only [hread, hhelp, hrequest]
  rw [if_neg (by decide), hperform]
  cases failed with
  | true => rfl
  | false => rfl

/-- The settings of a run whose arguments a check would read: those that are loaded, except that it
is strict if it was told to be. -/
theorem settings_of_check {f : Files} {arguments : List String} {a : Arguments} {r : Request}
    (hread : readArguments Command.check.switches true arguments = .ok a)
    (hrequest : Command.check.request f a = .ok r) (loaded : Config) :
    (r.over loaded).output = loaded.output ∧ (r.over loaded).format = loaded.format ∧
      ((r.over loaded).strict = true ↔ loaded.strict = true ∨ a.has .strict = true) := by
  have hreflects := Command.request_reflects hrequest
  have hknown : ∀ s ∈ a.switches.map Prod.fst, s ∈ Command.check.switches := by
    intro s hs
    obtain ⟨p, hp, rfl⟩ := List.mem_map.mp hs
    exact mem_known_of_readArguments hread p hp
  have houtput : r.output = none := by
    refine Option.not_isSome_iff_eq_none.mp fun hsome => ?_
    exact absurd (hknown _ (hreflects.output.mp hsome)) (by decide)
  have hformat : r.format = none := by
    refine Option.not_isSome_iff_eq_none.mp fun hsome => ?_
    exact absurd (hknown _ (hreflects.format.mp hsome)) (by decide)
  have hstrict : r.strict = true ↔ a.has .strict = true := by
    rw [hreflects.strict, Arguments.has, List.any_eq_true, List.mem_map]
    simp only [beq_iff_eq]
  refine ⟨?_, ?_, ?_⟩
  · simp only [Request.over, houtput, Option.none_or]
  · simp only [Request.over, hformat, Option.getD_none]
  · simp only [Request.over, Bool.or_eq_true, hstrict]

theorem outputFormat_of_known {config : Config}
    (h : config.format = "auto" ∨ (Format.ofName? config.format).isSome = true) :
    ∃ format, config.outputFormat = .ok format := by
  unfold Config.outputFormat
  by_cases hauto : config.format = "auto"
  · rw [if_pos hauto]
    exact ⟨_, rfl⟩
  · obtain ⟨format, hname⟩ := Option.isSome_iff_exists.mp (h.resolve_left hauto)
    rw [if_neg hauto, hname]
    exact ⟨format, rfl⟩

/-- Where the sources compile and the document can be written, a check and the writing of a document
report the same and end with the same exit code. -/
theorem check_agrees_with_generate (program : String) (console : Console) {after : Console}
    {arguments : List String} {a : Arguments} {r : Request} {loaded : Config} {c : Compilation}
    (hread : readArguments Command.check.switches true arguments = .ok a)
    (hhelp : a.has .help = false) (hrequest : Command.check.request console.files a = .ok r)
    (hcompiled : (compiled r).run.run console = (.ok (loaded, c), after))
    (hformat : loaded.format = "auto" ∨ (Format.ofName? loaded.format).isSome = true)
    (hwritable : ∀ path ∈ loaded.output, ∀ bytes,
      ∃ files, after.files.write path bytes = .ok files) :
    ∃ checked generated : Outcome,
      runProgram program console ("check" :: arguments) = checked ∧
      runProgram program console ("generate" :: arguments) = generated ∧
      checked.crash = none ∧ generated.crash = none ∧
      checked.console.err = after.err ++ printed c.reportLines ∧
      generated.console.err =
        after.err ++ printed (wroteLines loaded.output c.document ++ c.reportLines) ∧
      checked.exitCode = generated.exitCode ∧
      (checked.exitCode = 0 ∨ checked.exitCode = 1) ∧
      (checked.exitCode = 1 ↔
        (∃ d ∈ c.diagnostics, d.severity = .error) ∨
          (loaded.strict = true ∨ a.has .strict = true) ∧
            ∃ d ∈ c.diagnostics, d.severity = .warning) := by
  obtain ⟨houtput, hname, hstrict⟩ := settings_of_check hread hrequest loaded
  -- The other command knows all switches of a check.
  have hmore : Command.check.switches ⊆ Command.generate.switches := by decide
  have hread' := readArguments_mono hmore hread
  have hrequest' := Command.request_check_eq_generate console.files a ▸ hrequest
  rw [← hname] at hformat
  rw [← houtput] at hwritable ⊢
  obtain ⟨out, hcheck⟩ := run_checkSources hcompiled
  obtain ⟨files, written, out', hgenerate⟩ :=
    run_writeDocument hcompiled (outputFormat_of_known hformat) hwritable
  have hchecked := (runProgram_name program console .check arguments).trans
    (Command.run_of_perform .check program hread hhelp hrequest hcheck)
  have hgenerated := (runProgram_name program console .generate arguments).trans
    (Command.run_of_perform .generate program hread' hhelp hrequest' hgenerate)
  refine ⟨_, _, hchecked, hgenerated, rfl, rfl, rfl, rfl, rfl, ?_, ?_⟩
  · dsimp only
    split <;> simp
  · rw [← hstrict, ← c.failed_iff]
    simp

/-- The files of a run with one source. -/
def oneSource (text : String) : Files :=
  { top := .directory [("a.py", .file (Text.encodeUtf8 text))] }

theorem check_agrees_with_generate_on_warning :
    ∃ checked generated : Outcome,
      runProgram "bangspec" { files := oneSource "# !webhook w:put\n" }
        ["check", "--strict", "a.py"] = checked ∧
      runProgram "bangspec" { files := oneSource "# !webhook w:put\n" }
        ["generate", "--strict", "a.py"] = generated ∧
      checked.exitCode = 1 ∧ generated.exitCode = 1 ∧
      checked.console.err = generated.console.err := by
  have hread : readArguments Command.check.switches true ["--strict", "a.py"] =
      .ok { switches := [(.strict, "")], operands := ["a.py"] } := rfl
  have hrequest : Command.check.request (oneSource "# !webhook w:put\n")
      { switches := [(.strict, "")], operands := ["a.py"] } =
      .ok { operand := some (.ofString "a.py"), strict := true } := rfl
  have hfound : ((compiled { operand := some (.ofString "a.py"), strict := true }).run.run
      { files := oneSource "# !webhook w:put\n" }).1.toOption.map (fun found =>
        (found.1.format, found.1.output, found.2.diagnostics.map (·.severity))) =
        some ("auto", none, [.warning]) := by decide +kernel
  cases hrun : (compiled { operand := some (.ofString "a.py"), strict := true }).run.run
      { files := oneSource "# !webhook w:put\n" } with
  | mk result after =>
    rw [hrun] at hfound
    cases result with
    | error stop => cases hfound
    | ok found =>
      simp only [Except.toOption, Option.map_some, Option.some.injEq, Prod.mk.injEq] at hfound
      obtain ⟨hformat, houtput, hseverity⟩ := hfound
      obtain ⟨checked, generated, hchecked, hgenerated, _, _, herr, herr', hcode, _, hfails⟩ :=
        check_agrees_with_generate "bangspec" { files := oneSource "# !webhook w:put\n" } hread rfl
          hrequest hrun (.inl hformat) (by simp [houtput])
      have hone : checked.exitCode = 1 := by
        refine hfails.mpr (.inr ⟨.inr rfl, List.mem_map.mp ?_⟩)
        rw [hseverity]
        exact List.mem_cons_self
      refine ⟨checked, generated, hchecked, hgenerated, hone, hcode ▸ hone, ?_⟩
      rw [herr, herr', houtput]
      rfl

end ApiDirectives
