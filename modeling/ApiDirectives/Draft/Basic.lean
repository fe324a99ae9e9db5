import ApiDirectives.Directive.Basic
import ApiDirectives.Document.Basic
import ApiDirectives.Location
import ApiDirectives.Table

/-!
# Drafts

A draft is what the directives of all files say, merged but with their types still as text. It has
three parts, one for each role, and the blocks of a role change only its part.
-/

namespace ApiDirectives

/-- A security scheme as declared. -/
structure SchemeDraft where
  name : String
  type : SchemeType
  place : String
  description : String
  url : String
  declaredAt : Location
  deriving Repr, DecidableEq, Inhabited

/-- A webhook as declared. -/
structure WebhookDraft where
  name : String
  method : Method
  description : String
  body : Option Payload := none
  responses : Table String Reply := []
  location : Location
  deriving Repr, DecidableEq, Inhabited

/-- A parameter as declared. -/
structure ParameterDraft where
  place : Place
  slot : Slot
  deriving Repr, DecidableEq, Inhabited

/-- An operation as declared. -/
structure OperationDraft where
  method : Method
  path : String
  operationId : String
  summary : String
  tags : List String
  parameters : List ParameterDraft := []
  body : Option Payload := none
  responses : Table String Reply := []
  security : List String := []
  location : Location
  deriving Repr, DecidableEq, Inhabited

/-- A field of a model as declared. -/
structure FieldDraft where
  name : String
  type : String
  description : String := ""
  nullable : Bool := false
  constraints : List (Constraint × String) := []
  location : Location
  deriving Repr, DecidableEq, Inhabited

/-- A model as declared. -/
structure ModelDraft where
  name : String
  description : String := ""
  parents : List String := []
  fields : Table String FieldDraft := []
  required : List String := []
  location : Location
  deriving Repr, DecidableEq, Inhabited

/-- What the directives about the interface as a whole say. -/
structure Header where
  openapi : String := ""
  title : String := ""
  version : String := ""
  description : String := ""
  termsOfService : String := ""
  contact : Option Contact := none
  license : Option License := none
  externalDocs : Option ExternalDocs := none
  servers : List Server := []
  tags : List Tag := []
  links : List (String × String) := []
  schemes : Table String SchemeDraft := []
  scopes : Table String (Table String String) := []
  scopeLocations : Table String Location := []
  webhooks : Table String WebhookDraft := []
  deriving Repr, DecidableEq, Inhabited

/-- Operations by path and method. -/
abbrev Operations := Table (String × Method) OperationDraft

/-- Models by name. -/
abbrev Models := Table String ModelDraft

/-- What the directives of all files say. -/
structure Draft where
  header : Header := {}
  operations : Operations := []
  models : Models := []
  deriving Repr, DecidableEq, Inhabited

end ApiDirectives
