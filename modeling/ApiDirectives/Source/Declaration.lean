import ApiDirectives.Draft.Block
import ApiDirectives.Source.Docstring
import ApiDirectives.Text.NormalForm

/-!
# Declarations of a module

The functions and classes at the top of a module, and the fields of those classes, in order. A field
is a single name with a type or a value. A declaration starts at its first decorator.
-/

namespace ApiDirectives.Source

/-- A declaration: its name, kind and first line, and the class it belongs to. -/
structure Declaration where
  name : String
  kind : DeclarationKind
  line : Nat
  owner : Option Owner := none
  deriving Repr, DecidableEq, Inhabited

/-- A token that ends a statement. -/
def endsStatement : Tree → Bool
  | .leaf t => t.kind = .newline || t.text == ";"
  | .node .. => false

/-- The statements of a logical line. -/
def lineStatements : Tree → List Tree
  | .node (.statement .simpleStatements) ts => ts.filter fun t => !endsStatement t
  | t => [t]

/-- The statements of a run of lines. -/
def runStatements : Tree → List Tree
  | .node (.statement .statements) ts => ts.flatMap lineStatements
  | t => lineStatements t

/-- The statements of a module or of a block. -/
def bodyStatements : Tree → List Tree
  | .node (.statement .module) (t :: _) => runStatements t
  | .node (.statement .block) [_, _, t, _] => runStatements t
  | .leaf _ => []
  | t => runStatements t

/-- The identifier that a token is, in its normal form. -/
def identifier? (t : Token) : Option String :=
  if t.kind = .name then some (Text.normalIdentifier t.text) else none

/-- The first name among some trees. -/
def firstName (ts : List Tree) : String :=
  (ts.findSome? fun
    | .leaf t => identifier? t
    | .node .. => none).getD ""

/-- The lines of decorators. -/
def decoratorLines : Tree → List Nat
  | .node (.statement .decorators) ts =>
    (ts.filter fun t => !Tree.isText "@" t && !endsStatement t).map Tree.line
  | _ => []

/-- A definition taken apart: its decorators' lines and the tree without them. -/
def undecorated : Tree → List Nat × Tree
  | .node (.statement .classDefinition) [ds, t] => (decoratorLines ds, t)
  | .node (.statement .functionDefinition) [ds, t] => (decoratorLines ds, t)
  | t => ([], t)

/-- The name of a target, which may stand between round brackets. -/
def targetName? : Tree → Option String
  | .leaf t => identifier? t
  | .node (.expression .targetAtom) [b, t, _] => if b.isText "(" then targetName? t else none
  | .node (.expression .singleTarget) [b, t, _] => if b.isText "(" then targetName? t else none
  | .node .. => none

/-- The name of a field, if a statement declares one. -/
def fieldName? : Tree → Option String
  | .node (.statement .assignment) (a :: b :: c :: rest) =>
    if b.isText ":" then targetName? a
    else if a.isText "(" && c.isText ")" && rest.head?.any (Tree.isText ":") then targetName? b
    else if b.isText "=" && rest.isEmpty then targetName? a
    else none
  | _ => none

/-- The fields that the statements of a class declare. -/
def fieldDeclarations (owner : Owner) (statements : List Tree) : List Declaration :=
  statements.filterMap fun t =>
    (fieldName? t).map fun name => ⟨name, .field, t.start, some owner⟩

/-- The declarations of a statement: a function, or a class and its fields. -/
def statementDeclarations (t : Tree) : List Declaration :=
  let (lines, bare) := undecorated t
  let line := lines.foldl min bare.start
  match bare with
  | .node (.statement .bareFunction) ts => [⟨firstName ts, .function, line, none⟩]
  | .node (.statement .bareClass) ts =>
    let name := firstName ts
    let body := (ts.getLast?.map bodyStatements).getD []
    ⟨name, .classBody, line, none⟩ :: fieldDeclarations ⟨name, line⟩ body
  | _ => []

/-- The declarations of a module, in order. -/
def Tree.declarations (t : Tree) : List Declaration :=
  (bodyStatements t).flatMap statementDeclarations

/-- The docstring of a module as it is shown; empty if there is none. -/
def Tree.docstring (t : Tree) : String :=
  ((bodyStatements t).head?.bind Tree.literal?).elim "" shownDocstring

end ApiDirectives.Source
