import ApiDirectives.Command.Session
import ApiDirectives.Directive.Line
import ApiDirectives.Format.Basic

/-!
# Running a command

What each command does, and what a run leaves: an exit code, two streams of text and files.
-/

namespace ApiDirectives

open Session

/-- The settings that switches override. -/
def Request.over (r : Request) (config : Config) : Config :=
  { source := r.operand.getD config.source
    output := r.output.or config.output
    format := r.format.getD config.format
    indent := config.indent
    version := r.version.getD config.version
    exclude := config.exclude ++ r.exclude
    includeTests := config.includeTests || r.includeTests
    strict := config.strict || r.strict }

/-- The format of a document: the one that was asked for, or by default that of the output file. -/
def Config.outputFormat (config : Config) : Except UsageFault Format :=
  if config.format = "auto" then .ok ((config.output.map Format.ofPath).getD .yaml)
  else
    match Format.ofName? config.format with
    | some format => .ok format
    | none => .error (.badValue "--format" (Format.unknownMessage config.format))

/-- Writes the document of the sources. -/
def writeDocument (r : Request) : Session Unit := do
  startLog r
  let config := r.over (← Session.config r)
  let c ← Session.compile r config
  match config.outputFormat with
  | .error fault => throw (.usage fault)
  | .ok format =>
    let text := c.document.text format config.indent
    match config.output with
    | none => print text
    | some path =>
      write path text
      tell ("Wrote " ++ path.render ++ " (" ++ toString c.document.paths.length ++ " paths, "
        ++ toString c.document.components.schemas.length ++ " schemas)")
    report c
    conclude c config.strict

/-- Reports on the sources. -/
def checkSources (r : Request) : Session Unit := do
  startLog r
  let config := r.over (← Session.config r)
  let c ← Session.compile r config
  report c
  print (toString c.document.operations.length ++ " operations, "
    ++ toString c.document.components.schemas.length ++ " schemas\n")
  conclude c config.strict

/-- A directive as a line of a listing. -/
def Remark.listing (a : Remark) (file : String) (line : Nat) : String :=
  let args := (a.directive.args.filter fun (_, v) => v != "").map fun (k, v) =>
    k ++ "=" ++ Text.quotedText v
  let tags := a.directive.tags.map ("#" ++ ·)
  let shown := file ++ ":" ++ toString line ++ ": " ++ a.kind.name ++ " " ++ Text.joined " " args
    ++ " " ++ Text.joined " " tags
  String.ofList (Text.dropEnd Text.isBlank shown.toList)

/-- The directives in a run of comments that starts at a line. -/
def listingOf (file : String) (first : Nat) (text : String) : List String :=
  ((Text.lines text).mapIdx fun i line => (Remark.ofLine? line).map (·.listing file (first + i)))
    |>.filterMap id

/-- Lists the directives of a file. -/
def listDirectives (path : FilePath) : Session Unit := do
  match (← get).files.read path with
  | .error fault => throw (.failure ("cannot read " ++ path.render ++ ": " ++ fault.message))
  | .ok bytes =>
    match (readSource path path.name bytes).1.content with
    | .error reason => throw (.failure ("cannot decode " ++ path.render ++ ": " ++ reason))
    | .ok text =>
      match Source.commentRuns text with
      | .error fault => throw (.crash (.source fault))
      | .ok runs =>
        let lines := runs.flatMap fun (first, text) => listingOf path.name first text
        lines.forM fun line => print (line ++ "\n")
        tell (toString lines.length ++ " directive(s)")

/-- Does what is asked of a command. -/
def Command.perform (c : Command) (r : Request) : Session Unit :=
  match c with
  | .generate => writeDocument r
  | .check => checkSources r
  | .lex => listDirectives (r.operand.getD {})

/-! ## Usage -/

/-- The line that shows how a command is used; without a command, how to name one. -/
def usageLine (program : String) : Option Command → String
  | none => "Usage: " ++ program ++ " [OPTIONS] COMMAND [ARGS]...\n"
  | some c => "Usage: " ++ program ++ " " ++ c.name ++ " [OPTIONS] " ++ c.operand ++ "\n"

/-- What is said of faulty arguments. -/
def usageText (program : String) (c : Option Command) (fault : UsageFault) : String :=
  let full := (c.map fun c => program ++ " " ++ c.name).getD program
  usageLine program c ++ "Try '" ++ full ++ " --help' for help.\n\nError: " ++ fault.message ++ "\n"

/-- What a run leaves. -/
structure Outcome where
  exitCode : Nat := 0
  console : Console
  crash : Option Crash := none

/-- How a session that stopped ends. -/
def Stop.outcome (program : String) (c : Option Command) (console : Console) : Stop → Outcome
  | .usage fault =>
    { exitCode := 2
      console := { console with err := console.err ++ usageText program c fault } }
  | .failure message =>
    { exitCode := 1
      console := { console with err := console.err ++ "Error: " ++ message ++ "\n" } }
  | .crash cause => { exitCode := 1, console, crash := some cause }
  | .exit code => { exitCode := code, console }

/-- Runs a command with its arguments. -/
def Command.run (c : Command) (program : String) (console : Console) (arguments : List String) :
    Outcome :=
  let session : Session Unit := do
    match readArguments c.switches true arguments with
    | .error fault => throw (.usage fault)
    | .ok a =>
      if a.has .help then print (usageLine program (some c))
      else
        match c.request console.files a with
        | .error fault => throw (.usage fault)
        | .ok r => c.perform r
  match session.run.run console with
  | (.ok (), console) => { console }
  | (.error stop, console) => stop.outcome program (some c) console

/-- Runs the program with its arguments: switches of its own, the name of a command, and the
arguments of that. -/
def runProgram (program : String) (console : Console) (arguments : List String) : Outcome :=
  let refuse (fault : UsageFault) : Outcome := Stop.outcome program none console (.usage fault)
  if arguments.isEmpty then
    { exitCode := 2, console := { console with err := console.err ++ usageLine program none } }
  else
    match readArguments [.help] false arguments with
    | .error fault => refuse fault
    | .ok a =>
      if a.has .help then { console := { console with out := console.out ++ usageLine program none } }
      else
        match a.operands with
        | [] => refuse .noCommand
        | name :: rest =>
          match Command.ofName? name with
          | some c => c.run program console rest
          | none => refuse (.unknownCommand name (similarNames name (Command.all.map Command.name)))

end ApiDirectives
