import ApiDirectives.Command.Request
import ApiDirectives.Compilation

/-!
# Sessions

A session prints, writes files and keeps records, until it is done or stopped: by a fault in its
arguments, by a failure that it reports, or by a fault that nothing provides for.
-/

namespace ApiDirectives

/-- What a session has done so far. -/
structure Console where
  files : Files
  /-- The time that is written beside records. -/
  time : String := ""
  out : String := ""
  err : String := ""
  /-- The files that were written, in order. -/
  written : List FilePath := []

/-- Faults that nothing provides for. -/
inductive Crash where
  | config (fault : ConfigFault)
  | compile (fault : CompileFault)
  | source (fault : Source.SourceFault)
  | file (fault : FileFault)

/-- The wording of a crash. -/
def Crash.message : Crash → String
  | .config fault => fault.message
  | .compile (.source fault) => fault.message
  | .compile (.version fault) => fault.message
  | .source fault => fault.message
  | .file fault => fault.message

/-- Why a session stops early. -/
inductive Stop where
  | usage (fault : UsageFault)
  | failure (message : String)
  | crash (cause : Crash)
  | exit (code : Nat)

/-- A session. -/
abbrev Session := ExceptT Stop (StateM Console)

namespace Session

/-- Prints text. -/
def print (text : String) : Session Unit := modify fun c => { c with out := c.out ++ text }

/-- Prints a line of a report. -/
def tell (line : String) : Session Unit := modify fun c => { c with err := c.err ++ line ++ "\n" }

/-- Changes a file. -/
def change (path : FilePath) (result : Except FileFault Files) : Session Unit := do
  match result with
  | .ok files => modify fun c => { c with files, written := c.written ++ [path] }
  | .error fault => throw (.crash (.file fault))

/-- Writes a file. -/
def write (path : FilePath) (text : String) : Session Unit := do
  change path ((← get).files.write path (Text.encodeUtf8 text))

/-- Adds text to a file. -/
def append (path : FilePath) (text : String) : Session Unit := do
  change path ((← get).files.append path (Text.encodeUtf8 text))

/-- Makes the log file, if there is to be one. -/
def startLog (r : Request) : Session Unit := do
  match r.logFile with
  | some path => append path ""
  | none => return ()

/-- Keeps records. -/
def record (r : Request) (records : List Record) : Session Unit := do
  modify fun c => { c with err := c.err ++ r.log.console records }
  match r.logFile with
  | some path => append path (logText (← get).time records)
  | none => return ()

/-- The configuration: the file that was asked for, or the one beside the sources. -/
def config (r : Request) : Session Config := do
  let files := (← get).files
  let found := match r.config with
    | some path => some path
    | none => files.findConfig (r.operand.getD files.working)
  match found with
  | none => return {}
  | some path =>
    match files.loadConfig path with
    | .ok config => return config
    | .error fault =>
      match fault with
      | .undecodable _ | .badScalar _ | .keysNotText => throw (.crash (.config fault))
      | .unreadable .. | .notYaml .. | .noMapping _ | .invalid .. => throw (.failure fault.message)

/-- Compiles the sources. -/
def compile (r : Request) (config : Config) : Session Compilation := do
  let selection : Selection := ⟨config.exclude, config.includeTests⟩
  match (← get).files.compile? config.source selection config.version with
  | none => throw (.failure ("cannot read sources: " ++ missingSource config.source))
  | some (records, result) =>
    record r records
    match result with
    | .ok c => return c
    | .error fault => throw (.crash (.compile fault))

/-- Reports all findings and their numbers. -/
def report (c : Compilation) : Session Unit := do
  c.diagnostics.forM fun d => tell d.render
  if c.diagnostics.isEmpty then return ()
  else
    tell (toString c.errors.length ++ " error(s), " ++ toString c.warnings.length ++ " warning(s)")

/-- Ends a session that counts as failed. -/
def conclude (c : Compilation) (strict : Bool) : Session Unit :=
  if c.failed strict then throw (.exit 1) else return ()

end Session

end ApiDirectives
