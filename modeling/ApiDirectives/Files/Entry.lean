import ApiDirectives.Files.Path
import ApiDirectives.Text.Quoted

/-!
# Files and directories

What a run sees of the file system is a tree of directories with the bytes of files, and the
directory that relative paths start at. A path is walked part by part; double dots lead back to the
directory before.
-/

namespace ApiDirectives

/-- A file or a directory. -/
inductive Entry where
  | file (bytes : List UInt8)
  | directory (entries : List (String × Entry))
  deriving Inhabited

namespace Entry

/-- The empty directory. -/
def empty : Entry := .directory []

/-- Whether it is a file. -/
def isFile : Entry → Bool
  | .file _ => true
  | .directory _ => false

/-- Whether it is a directory. -/
def isDirectory (e : Entry) : Bool := !e.isFile

/-- An entry of a directory. -/
def child? (e : Entry) (name : String) : Option Entry :=
  match e with
  | .file _ => none
  | .directory entries => entries.lookup name

/-- Walks the parts of a path; `above` holds the directories above the present one. -/
def walk? (above : List Entry) (e : Entry) : List String → Option Entry
  | [] => some e
  | part :: rest =>
    if part = ".." then
      match e, above with
      | .file _, _ => none
      | .directory _, [] => walk? [] e rest
      | .directory _, up :: above => walk? above up rest
    else
      match e.child? part with
      | none => none
      | some c => walk? (e :: above) c rest

/-- Puts a file or a directory at the end of a chain of directories, which are made if they are
missing. What stands there before is replaced. -/
def put (e : Entry) (item : Entry) : List String → Entry
  | [] => item
  | part :: rest =>
    match e with
    | .file _ => .directory [(part, put empty item rest)]
    | .directory entries =>
      if entries.any (·.1 == part) then
        .directory (entries.map fun (name, c) =>
          if name == part then (name, put c item rest) else (name, c))
      else .directory (entries ++ [(part, put empty item rest)])

end Entry

/-- What a run sees of the file system. -/
structure Files where
  /-- The directory at the top. -/
  top : Entry := .empty
  /-- The working directory, from the top. -/
  working : FilePath := { anchor := "/" }
  deriving Inhabited

/-- The entry at a path. -/
def Files.entry? (f : Files) (p : FilePath) : Option Entry :=
  f.top.walk? [] (f.working.join p).parts

/-- Whether there is something at a path. -/
def Files.has (f : Files) (p : FilePath) : Bool := (f.entry? p).isSome

/-- Whether there is a file at a path. -/
def Files.isFile (f : Files) (p : FilePath) : Bool := (f.entry? p).any Entry.isFile

/-- Whether there is a directory at a path. -/
def Files.isDirectory (f : Files) (p : FilePath) : Bool := (f.entry? p).any Entry.isDirectory

/-! ## Faults -/

/-- Why a path cannot be read or written. -/
inductive FileFaultKind where
  | missing
  | exists
  | notDirectory
  | isDirectory
  deriving Repr, DecidableEq, Inhabited

/-- A path that cannot be read or written. -/
structure FileFault where
  kind : FileFaultKind
  path : String
  deriving Repr, DecidableEq, Inhabited

/-- The number and the wording of a kind of fault. -/
def FileFaultKind.message : FileFaultKind → String
  | .missing => "[Errno 2] No such file or directory"
  | .exists => "[Errno 17] File exists"
  | .notDirectory => "[Errno 20] Not a directory"
  | .isDirectory => "[Errno 21] Is a directory"

/-- The wording of a fault. -/
def FileFault.message (f : FileFault) : String := f.kind.message ++ ": " ++ Text.quotedText f.path

/-- Whether a walk along the parts of a path meets a file before its end. -/
def Entry.meetsFile (above : List Entry) (e : Entry) : List String → Bool
  | [] => false
  | part :: rest =>
    match e with
    | .file _ => true
    | .directory _ =>
      if part = ".." then
        match above with
        | [] => Entry.meetsFile [] e rest
        | up :: above => Entry.meetsFile above up rest
      else
        match e.child? part with
        | none => false
        | some c => Entry.meetsFile (e :: above) c rest

/-- The bytes of a file. -/
def Files.read (f : Files) (p : FilePath) : Except FileFault (List UInt8) :=
  match f.entry? p with
  | some (.file bytes) => .ok bytes
  | some (.directory _) => .error ⟨.isDirectory, p.render⟩
  | none =>
    if f.top.meetsFile [] (f.working.join p).parts then .error ⟨.notDirectory, p.render⟩
    else .error ⟨.missing, p.render⟩

/-! ## Changes -/

/-- Parts without double dots: each takes back the part before it. -/
def plainParts (parts : List String) : List String :=
  parts.foldl (fun known part => if part = ".." then known.dropLast else known ++ [part]) []

/-- Where a path leads, from the top. -/
def Files.place (f : Files) (p : FilePath) : List String := plainParts (f.working.join p).parts

/-- Makes the directories along the parts of a path that are not there; `known` leads to where the
parts start. -/
def Entry.makeAlong (top : Entry) (known : List String) : List String → Entry
  | [] => top
  | part :: rest =>
    let known := if part = ".." then known.dropLast else known ++ [part]
    let top := if (top.walk? [] known).isSome then top else top.put .empty known
    Entry.makeAlong top known rest

/-- Makes a directory and those above it, unless they are there. -/
def Files.makeDirectory (f : Files) (p : FilePath) : Except FileFault Files :=
  let parts := (f.working.join p).parts
  match f.entry? p with
  | some (.directory _) => .ok f
  | some (.file _) => .error ⟨.exists, p.render⟩
  | none =>
    if f.top.meetsFile [] parts then .error ⟨.notDirectory, p.render⟩
    else .ok { f with top := f.top.makeAlong [] parts }

/-- Writes a file, whose directory is made if need be. -/
def Files.write (f : Files) (p : FilePath) (bytes : List UInt8) : Except FileFault Files := do
  let f ← f.makeDirectory p.parent
  match f.entry? p with
  | some (.directory _) => throw ⟨.isDirectory, p.render⟩
  | _ => return { f with top := f.top.put (.file bytes) (f.place p) }

/-- Adds bytes to the end of a file, which is made if need be. -/
def Files.append (f : Files) (p : FilePath) (bytes : List UInt8) : Except FileFault Files :=
  match f.entry? p with
  | some (.file known) => f.write p (known ++ bytes)
  | _ => f.write p bytes

end ApiDirectives
