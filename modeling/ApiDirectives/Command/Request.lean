import ApiDirectives.Command.Switch
import ApiDirectives.Config
import ApiDirectives.Log.Sink

/-!
# Commands and what is asked of them

There are three commands: one writes a document, one only reports on the sources, and one lists the
directives of a file. The values of their switches are checked in the order in which the switches
first appear, then the operands.
-/

namespace ApiDirectives

open Text

/-- The commands. -/
inductive Command where
  | generate
  | check
  | lex
  deriving Repr, DecidableEq, Inhabited

namespace Command

/-- All commands. -/
def all : List Command := [.check, .generate, .lex]

/-- The name of a command. -/
def name : Command → String
  | .generate => "generate"
  | .check => "check"
  | .lex => "lex"

/-- The switches of a command. -/
def switches : Command → List Switch
  | .generate =>
    [.output, .format, .config, .exclude, .version, .includeTests, .strict, .verbose, .logFile,
      .help]
  | .check => [.config, .exclude, .strict, .verbose, .logFile, .help]
  | .lex => [.help]

/-- The operand of a command as its usage shows it; brackets say that it may be left out. -/
def operand : Command → String
  | .generate | .check => "[SOURCE]"
  | .lex => "FILE_PATH"

/-- The command with a name. -/
def ofName? (s : String) : Option Command := all.find? (·.name == s)

end Command

/-- What is asked of a command. -/
structure Request where
  operand : Option FilePath := none
  output : Option FilePath := none
  format : Option String := none
  config : Option FilePath := none
  exclude : List String := []
  version : Option String := none
  includeTests : Bool := false
  strict : Bool := false
  verbose : Bool := false
  logFile : Option FilePath := none
  deriving Repr, DecidableEq, Inhabited

/-- Where records go. -/
def Request.log (r : Request) : LogSetup := ⟨r.verbose, r.logFile.isSome⟩

/-- What stands at a path as it was written: nothing for an empty one, and a path that ends in a
slash is a directory. -/
def Files.standing? (f : Files) (path : String) : Option Entry :=
  let endsInSlash := (piecesOf '/' path.toList).getLast?.any fun p => p.isEmpty || p == ['.']
  match f.entry? (.ofString path) with
  | none => none
  | some e =>
    if path = "" || (path != "." && endsInSlash && e.isFile) then none else some e

/-- Checks that there is something at a path. -/
def existingPath (f : Files) (hint path : String) : Except UsageFault FilePath :=
  match f.standing? path with
  | some _ => .ok (.ofString path)
  | none => .error (.badValue hint ("Path " ++ quotedText path ++ " does not exist."))

/-- Checks that there is no directory at a path, and, if need be, that there is a file. -/
def filePath (f : Files) (hint path : String) (needed : Bool) : Except UsageFault FilePath :=
  match f.standing? path with
  | some (.file _) => .ok (.ofString path)
  | some (.directory _) =>
    .error (.badValue hint ("File " ++ quotedText path ++ " is a directory."))
  | none =>
    if needed then .error (.badValue hint ("File " ++ quotedText path ++ " does not exist."))
    else .ok (.ofString path)

/-- The formats that may be asked for. -/
def formatChoices : List String := ["auto", "json", "yaml"]

/-- Checks the name of a format. -/
def formatChoice (hint name : String) : Except UsageFault String :=
  if formatChoices.contains name then .ok name
  else .error (.badValue hint (quotedText name ++ " is not one of "
    ++ joined ", " (formatChoices.map quotedText) ++ "."))

/-- Adds what a switch says to a request. -/
def Request.add (f : Files) (a : Arguments) (r : Request) (s : Switch) : Except UsageFault Request :=
  let value := (a.value? s).getD ""
  match s with
  | .output => .ok { r with output := some (.ofString value) }
  | .format => (formatChoice s.hint value).map fun name => { r with format := some name }
  | .config => (existingPath f s.hint value).map fun path => { r with config := some path }
  | .exclude => .ok { r with exclude := a.values s }
  | .version => .ok { r with version := some value }
  | .includeTests => .ok { r with includeTests := true }
  | .strict => .ok { r with strict := true }
  | .verbose => .ok { r with verbose := true }
  | .logFile => (filePath f s.hint value false).map fun path => { r with logFile := some path }
  | .help => .ok r

/-- The operand of a command. -/
def Command.operandOf (c : Command) (f : Files) :
    List String → Except UsageFault (Option FilePath)
  | [] =>
    match c with
    | .generate | .check => .ok none
    | .lex => .error (.operandMissing c.operand)
  | path :: _ =>
    let hint := "'" ++ c.operand ++ "'"
    match c with
    | .generate | .check => (existingPath f hint path).map some
    | .lex => (filePath f hint path true).map some

/-- What arguments ask of a command. -/
def Command.request (c : Command) (f : Files) (a : Arguments) : Except UsageFault Request := do
  let r ← (a.switches.map Prod.fst).eraseDups.foldlM (Request.add f a) {}
  let operand ← c.operandOf f a.operands
  match a.operands.drop 1 with
  | [] => return { r with operand }
  | extra => throw (.operandsUnwanted extra)

end ApiDirectives
