import ApiDirectives.Diagnostic
import ApiDirectives.Draft.Basic
import ApiDirectives.Draft.Block
import ApiDirectives.Text.Blank

/-!
# Merging schema blocks

The blocks of a class and of its fields build one model, found by the class's name and place. When
two classes have one name the first keeps it; the other is reported once and its later blocks are
passed over.
-/

namespace ApiDirectives

open Text

namespace Models

/-- The model directives of a block with the lines they were read from. -/
def modelRemarks (remarks : List Remark) : List (String × Option String × String) :=
  remarks.filterMap fun r =>
    match r.directive with
    | .model description parents => some (description, parents, r.raw)
    | _ => none

/-- The field directives of a block. -/
def fieldSlots (remarks : List Remark) : List Slot :=
  remarks.filterMap fun r =>
    match r.directive with
    | .field slot => some slot
    | _ => none

/-- The names of a comma-separated list, blanks and empty names dropped. -/
def parentNames (text : String) : List String :=
  ((piecesOf ',' text.toList).map trimList).filterMap fun n =>
    if n.isEmpty then none else some (String.ofList n)

/-- The model of a name, made at a place if there is none. -/
def ensure (models : Models) (name : String) (location : Location) : Models :=
  models.putNew name { name, location }

/-- Describes a model. -/
def describe (description : String) (parents : Option String) (m : ModelDraft) : ModelDraft :=
  { m with
    description
    parents := match parents with
      | some text => parentNames text
      | none => m.parents }

/-- Adds a field to a model; a known field is replaced in place. -/
def addField (location : Location) (slot : Slot) (m : ModelDraft) : ModelDraft :=
  let field : FieldDraft :=
    { name := slot.name, type := slot.type, description := slot.description
      nullable := slot.nullable, constraints := slot.constraints, location }
  { m with
    fields := m.fields.put slot.name field
    required :=
      if slot.required && !m.required.contains slot.name then m.required ++ [slot.name]
      else m.required }

/-- Merges the directives of a block that belongs to the model `name` at a place. -/
def apply (models : Models) (name : String) (place location : Location) (remarks : List Remark) :
    Models :=
  let described := match modelRemarks remarks with
    | [] => models
    | (description, parents, _) :: _ =>
      (ensure models name place).adjust name (describe description parents)
  (fieldSlots remarks).foldl
    (fun ms slot => (ensure ms name place).adjust name (addField location slot)) described

/-- Merges a schema block. The places of the classes that lost their name are kept beside the
models. -/
def merge (models : Models) (rejected : List Location) (block : Block) (remarks : List Remark) :
    Models × List Location × List Diagnostic :=
  let name := block.modelName
  let place := block.modelLocation
  if rejected.contains place then (models, rejected, [])
  else
    match (models.get? name).filter (·.location ≠ place) with
    | some first =>
      (models, rejected ++ [place],
        [⟨.duplicateModel name first.location place, some block.location⟩])
    | none =>
      let extras : List Diagnostic := ((modelRemarks remarks).drop 1).map fun (_, _, raw) =>
        ⟨.extraModel name raw, some block.location⟩
      (apply models name place block.location remarks, rejected, extras)

end Models

end ApiDirectives
