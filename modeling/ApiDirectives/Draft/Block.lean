import ApiDirectives.Directive.Line
import ApiDirectives.Location

/-!
# Comment blocks

A block is the directives of one comment together with the declaration that the comment documents.
The role of a block is that of its first directive.
-/

namespace ApiDirectives

/-- What a comment block documents. -/
inductive DeclarationKind where
  | module
  | function
  | classBody
  | field
  deriving Repr, DecidableEq, Inhabited

/-- The word for a kind of declaration. -/
def DeclarationKind.name : DeclarationKind → String
  | .module => "module"
  | .function => "function"
  | .classBody => "class"
  | .field => "field"

/-- The class that a field belongs to, and the line it starts at. -/
structure Owner where
  name : String
  line : Int
  deriving Repr, DecidableEq, Inhabited

/-- The directives of one comment, attached to a declaration. -/
structure Block where
  remarks : List Remark
  declaration : String
  kind : DeclarationKind
  location : Location
  owner : Option Owner := none
  deriving Repr, DecidableEq, Inhabited

namespace Block

/-- The block of a comment's text. -/
def ofComment (text declaration : String) (kind : DeclarationKind) (location : Location)
    (owner : Option Owner := none) : Block :=
  ⟨Remark.ofText text, declaration, kind, location, owner⟩

theorem ofComment_ofList (cs : List Char) (declaration : String) (kind : DeclarationKind)
    (location : Location) (owner : Option Owner) :
    ofComment (String.ofList cs) declaration kind location owner =
      ⟨(Text.linesOf cs).filterMap fun line => Line.remark? (Text.trimList line), declaration, kind,
        location, owner⟩ := by
  rw [ofComment, Remark.ofText_ofList]

/-- The role of the first directive. -/
def role (b : Block) : Role :=
  match b.remarks with
  | [] => .none
  | r :: _ => r.role

/-- The directives of the block's own role. -/
def kept (b : Block) : List Remark :=
  b.remarks.filter (·.role = b.role)

/-- The directives of other roles. -/
def foreign (b : Block) : List Remark :=
  b.remarks.filter (·.role ≠ b.role)

/-- The name of the model that a schema block describes: the class of a field, or the declaration. -/
def modelName (b : Block) : String :=
  match b.kind, b.owner with
  | .field, some o => if o.name = "" then b.declaration else o.name
  | _, _ => b.declaration

/-- The place of the class that a field belongs to, or of the declaration itself. -/
def modelLocation (b : Block) : Location :=
  match b.owner with
  | some o => ⟨b.location.file, o.line⟩
  | none => b.location

end Block

end ApiDirectives
