import ApiDirectives.Command.Run
import ApiDirectives.Log.Stamp

/-!
# The program

Reads what a run may look at into a picture of the file system, runs on that picture, prints what
the run printed and writes the files it wrote. Everything is decided by the run.
-/

namespace ApiDirectives

/-- The name that the program shows in its messages. -/
def programName : String := "bangspec"

/-- Whether the contents of a file below a directory can matter to a run. -/
def matters (name : String) : Bool := endsWith ".py" name || configNames.contains name

/-- Reads a file, or a directory with all that a search may visit. -/
partial def readEntry (path : String) : IO (Option Entry) := do
  let place := (← IO.currentDir) / path
  if ← place.isDir then
    let mut entries := []
    for item in ← place.readDir do
      let name := item.fileName
      let below := path ++ "/" ++ name
      if ← item.path.isDir then
        if !skipsDirectory true name then
          if let some e ← readEntry below then entries := (name, e) :: entries
      else if matters name then
        if let some e ← readEntry below then entries := (name, e) :: entries
      else entries := (name, .file []) :: entries
    return some (.directory entries)
  else if ← place.pathExists then
    return some (.file (← IO.FS.readBinFile place).toList)
  else return none

/-- Adds what stands at a path to a picture. -/
def look (f : Files) (path : FilePath) : IO Files := do
  match ← readEntry (f.working.join path).render with
  | some e => return { f with top := f.top.put e (f.place path) }
  | none => return f

/-- Adds the configuration files beside a path to a picture. -/
def lookBeside (f : Files) (path : FilePath) : IO Files :=
  configNames.foldlM (fun f name => do
    let f ← if f.isDirectory path then pure f else look f (path.parent.join { parts := [name] })
    return f) f

/-- The paths that arguments may name. -/
def namedPaths (arguments : List String) : List FilePath :=
  arguments.flatMap fun a =>
    let (name, value) := splitValue a
    (FilePath.ofString name :: (value.map FilePath.ofString).toList)

/-- The sources that the configuration files of a picture name. -/
def configuredSources (f : Files) (paths : List FilePath) : List FilePath :=
  (f.working :: paths).filterMap fun p =>
    match f.loadConfig p, (f.findConfig p).map f.loadConfig with
    | .ok config, _ => some config.source
    | _, some (.ok config) => some config.source
    | _, _ => none

/-- A picture of all that a run with some arguments may look at. -/
def picture (arguments : List String) : IO Files := do
  let working := FilePath.ofString (← IO.currentDir).toString
  let start : Files := { top := Entry.put .empty .empty working.parts, working }
  let named := namedPaths arguments
  let f ← configNames.foldlM (fun f name => look f { parts := [name] }) start
  let f ← named.foldlM (fun f p => do lookBeside (← look f p) p) f
  let f ← (configuredSources f named).foldlM look f
  if (arguments.drop 1).any fun a => start.standing? a |>.isSome then return f
  else if (named.drop 1).any f.has then return f
  else look f {}

/-- The present time, which a new file bears. -/
def now : IO Nat := do
  let (_, path) ← IO.FS.createTempFile
  let modified := (← path.metadata).modified
  IO.FS.removeFile path
  return modified.sec.toNat * 1000 + modified.nsec.toNat / 1000000

/-- Writes a file as a run left it. -/
def save (f : Files) (path : FilePath) : IO Unit := do
  match f.entry? path with
  | some (.file bytes) =>
    let full := f.working.join path
    IO.FS.createDirAll full.parent.render
    IO.FS.writeBinFile full.render ⟨bytes.toArray⟩
  | _ => return ()

end ApiDirectives

open ApiDirectives in
/-- Runs the program. -/
def main (arguments : List String) : IO UInt32 := do
  let files ← picture arguments
  let time ← if arguments.any (startsWith "--log-file") then timeStamp <$> now else pure ""
  let outcome := runProgram programName { files, time } arguments
  outcome.console.written.forM (save outcome.console.files)
  IO.print outcome.console.out
  IO.eprint outcome.console.err
  if let some cause := outcome.crash then IO.eprintln cause.message
  return outcome.exitCode.toUInt32
