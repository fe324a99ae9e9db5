import ApiDirectives.Files.Encoding
import ApiDirectives.Files.Entry
import ApiDirectives.Files.Glob
import ApiDirectives.Log.Record

/-!
# Finding sources

All sources below a directory in a stable order: the files of a directory by name, then its
directories by name. Hidden directories, directories of dependencies and generated files are left
out, and tests are unless they are asked for.
-/

namespace ApiDirectives

/-- A source: its path below the directory that was searched, and its text or why it has none. -/
structure SourceFile where
  path : String
  content : Except String String

/-- Directories that are never searched. -/
def excludedDirectories : List String :=
  ["venv", "node_modules", "__pycache__", "build", "dist", "site-packages", "vendor", "third_party"]

/-- Whether a name has a given beginning. -/
def startsWith (lit name : String) : Bool := (Text.dropLiteral? lit.toList name.toList).isSome

/-- Whether a name has a given end. -/
def endsWith (lit name : String) : Bool :=
  (Text.dropLiteral? lit.toList.reverse name.toList.reverse).isSome

/-- Whether a directory is left out. -/
def skipsDirectory (includeTests : Bool) (name : String) : Bool :=
  startsWith "." name || excludedDirectories.contains name
    || (!includeTests && (name = "tests" || name = "test"))

/-- Whether a file is left out. -/
def skipsFile (includeTests : Bool) (name : String) : Bool :=
  endsWith "_pb2.py" name || endsWith "_pb2_grpc.py" name
    || (!includeTests
      && (startsWith "test_" name || endsWith "_test.py" name || name = "conftest.py"))

/-- The path of an entry of a directory; the top has no path. -/
def below (directory name : String) : String :=
  if directory = "" then name else directory ++ "/" ++ name

/-- Reads a source; `shown` is its path as it is reported. -/
def readSource (path : FilePath) (shown : String) (bytes : List UInt8) :
    SourceFile × List Record :=
  match decodeSource path.render bytes with
  | .ok text => (⟨shown, .ok text⟩, [])
  | .error e =>
    (⟨shown, .error e.message⟩, [note "discover" ("cannot decode " ++ shown ++ ": " ++ e.message)])

/-- What a search leaves out. -/
structure Selection where
  exclude : List String := []
  includeTests : Bool := false
  deriving Repr, DecidableEq, Inhabited

/-- Entries sorted by name. -/
def byName (entries : List (String × Entry)) : List (String × Entry) :=
  entries.mergeSort fun a b => decide (a.1 ≤ b.1)

/-- The sources among the files of a directory, with the records of reading them. -/
def sourcesOfFiles (s : Selection) (path : FilePath) (shown : String) :
    List (String × Entry) → List SourceFile × List Record
  | [] => ([], [])
  | (name, .file bytes) :: r =>
    let (files, records) := sourcesOfFiles s path shown r
    let shownName := below shown name
    if !endsWith ".py" name || skipsFile s.includeTests name then (files, records)
    else if isExcluded shownName s.exclude then
      (files, note "discover" ("excluded " ++ shownName) :: records)
    else
      let (file, found) := readSource (path.join { parts := [name] }) shownName bytes
      (file :: files, found ++ records)
  | (_, .directory _) :: r => sourcesOfFiles s path shown r

/-- The sources below a directory, with the records of finding them. The first argument bounds how
deep directories nest. -/
def sourcesBelow : Nat → Selection → FilePath → String → List (String × Entry) →
    List SourceFile × List Record
  | 0, _, _, _, _ => ([], [])
  | depth + 1, s, path, shown, entries =>
    let sorted := byName entries
    let (files, records) := sourcesOfFiles s path shown sorted
    sorted.foldl (fun (files, records) (name, e) =>
      match e with
      | .file _ => (files, records)
      | .directory inner =>
        let shownName := below shown name
        if skipsDirectory s.includeTests name || isExcluded shownName s.exclude then (files, records)
        else
          let (more, found) :=
            sourcesBelow depth s (path.join { parts := [name] }) shownName inner
          (files ++ more, records ++ found)) (files, records)

mutual

/-- How deep an entry nests. -/
def Entry.depth : Entry → Nat
  | .file _ => 0
  | .directory entries => Entry.depthOfAll entries + 1

/-- How deep entries nest. -/
def Entry.depthOfAll : List (String × Entry) → Nat
  | [] => 0
  | (_, e) :: r => max e.depth (Entry.depthOfAll r)

end

/-- The sources at a path, which may be a file, with the records of finding them; none if there is
nothing. -/
def Files.sources? (f : Files) (root : FilePath) (s : Selection) :
    Option (List SourceFile × List Record) :=
  match f.entry? root with
  | none => none
  | some (.file bytes) =>
    let (file, records) := readSource root root.name bytes
    some ([file], records)
  | some (.directory entries) =>
    let (files, records) :=
      sourcesBelow (Entry.depth (.directory entries) + 1) s root "" entries
    some (files, records ++ [note "discover" ("discovered " ++ toString files.length
      ++ " source files under " ++ root.render)])

/-- The wording when there is nothing at a path. -/
def missingSource (root : FilePath) : String := "source path does not exist: " ++ root.render

end ApiDirectives
