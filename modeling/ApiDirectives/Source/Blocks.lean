import ApiDirectives.Files.Path
import ApiDirectives.Source.Comment
import ApiDirectives.Source.Declaration
import ApiDirectives.Source.Parse

/-!
# Blocks of a source

Each declaration gets the comments that stand directly above it. The module gets its docstring and
the comments above its first declaration, but not those that belong to that declaration.
-/

namespace ApiDirectives.Source

/-- The comment at a line. -/
def commentAt? (comments : List Comment) (line : Nat) : Option String :=
  (comments.find? (·.line = line)).map (·.text)

/-- The first line of the run of comments that ends above a line; that line itself if there is no
comment directly above it. -/
def runStart (comments : List Comment) : Nat → Nat
  | 0 => 0
  | line + 1 => if (commentAt? comments line).isSome then runStart comments line else line + 1

/-- The comments directly above a line. -/
def preceding (comments : List Comment) (line : Nat) : List String :=
  let first := runStart comments line
  (comments.filter fun c => first ≤ c.line && c.line < line).map (·.text)

/-- The comments above a line without those directly above it; all comments if there is no line. -/
def header (comments : List Comment) : Option Nat → List String
  | none => comments.map (·.text)
  | some line =>
    let first := runStart comments line
    (comments.filter fun c => c.line < first).map (·.text)

/-- The runs of comments on consecutive lines: the first line of each, and the comments of it. -/
def runsFrom (first : Nat) (texts : List String) (last : Nat) :
    List Comment → List (Nat × List String)
  | [] => [(first, texts.reverse)]
  | c :: r =>
    if c.line = last + 1 then runsFrom first (c.text :: texts) c.line r
    else (first, texts.reverse) :: runsFrom c.line [c.text] c.line r

/-- The first run begins where it was opened. -/
theorem head?_runsFrom (first : Nat) (texts : List String) (last : Nat) (rest : List Comment) :
    ∀ run ∈ (runsFrom first texts last rest).head?, run.1 = first := by
  induction rest generalizing texts last with
  | nil => simp [runsFrom]
  | cons c rest ih =>
    rw [runsFrom]
    split
    · exact ih _ _
    · simp

/-- The runs of comments on consecutive lines. -/
def runs : List Comment → List (Nat × List String)
  | [] => []
  | c :: r => runsFrom c.line [c.text] c.line r

/-- The runs of comments of a source: the first line of each, and its text. -/
def commentRuns (source : String) : Except SourceFault (List (Nat × String)) :=
  (comments source).map fun cs => (runs cs).map fun (first, texts) => (first, Text.joined "\n" texts)

/-- The name of a source without a file. -/
def anonymous : String := "<string>"

/-- The name of a module: that of its file without the suffix. -/
def moduleName (file : String) : String :=
  if file = anonymous then "<module>" else (FilePath.ofString file).stem

/-- What documents a module: its comments and its docstring. -/
def moduleText (comments : List Comment) (docstring : String) (first : Option Nat) : String :=
  let above := header comments first
  let parts := if above.isEmpty then [] else [Text.joined "\n" above]
  Text.joined "\n" (if docstring = "" then parts else parts ++ [docstring])

/-- The block of a declaration. -/
def Declaration.block (d : Declaration) (file : String) (comments : List Comment) : Block :=
  .ofComment (Text.joined "\n" (preceding comments d.line)) d.name d.kind ⟨file, d.line⟩ d.owner

/-- The blocks of a module, its own first. -/
def moduleBlocks (file : String) (tree : Tree) (comments : List Comment) : List Block :=
  let declarations := tree.declarations
  let first := declarations.head?.map (·.line)
  .ofComment (moduleText comments tree.docstring first) (moduleName file) .module ⟨file, 1⟩
    :: declarations.map fun d => d.block file comments

/-- The blocks of a source. -/
def blocks (source : String) (file : String := anonymous) : Except SourceFault (List Block) :=
  let cs := source.toList
  if cs.contains '\x00' then .error .nullCharacter
  else
    match parseModule cs with
    | .error line => .error (.invalid line)
    | .ok tree => (comments source).map (moduleBlocks file tree)

/-- A source is told by what it declares, by its docstring and by its comments. -/
theorem blocks_of_parse {source docstring : String} {declarations : List Declaration}
    {found : List Comment} (file : String) (hnull : '\x00' ∉ source.toList)
    (hparse : (parseModule source.toList).toOption.map (fun tree => (tree.declarations, tree.docstring)) =
      some (declarations, docstring))
    (hcomments : comments source = .ok found) :
    blocks source file =
      .ok (.ofComment (moduleText found docstring (declarations.head?.map (·.line))) (moduleName file)
        .module ⟨file, 1⟩ :: declarations.map fun d => d.block file found) := by
  unfold blocks
  rw [if_neg (by simpa using hnull)]
  cases htree : parseModule source.toList with
  | error line =>
    rw [htree] at hparse
    cases hparse
  | ok tree =>
    rw [htree] at hparse
    cases hparse
    rw [hcomments]
    rfl

end ApiDirectives.Source
