import ApiDirectives.Directive.Kind
import ApiDirectives.Table
import ApiDirectives.Text.Blank
import ApiDirectives.Value

/-!
# The document

An OpenAPI 3.x document as data. Members that a document may leave out have an empty default, and a
member is left out exactly when it has its default, so that the written form says nothing twice.
-/

namespace ApiDirectives

/-- Whom to ask about the interface. -/
structure Contact where
  name : String := ""
  url : String := ""
  email : String := ""
  deriving Repr, DecidableEq, Inhabited

/-- The licence of the interface. -/
structure License where
  name : String
  url : String := ""
  deriving Repr, DecidableEq, Inhabited

/-- Title, version and the like. -/
structure Info where
  title : String
  description : String := ""
  termsOfService : String := ""
  contact : Option Contact := none
  license : Option License := none
  version : String
  deriving Repr, DecidableEq, Inhabited

/-- Where the interface is served. -/
structure Server where
  url : String
  description : String := ""
  deriving Repr, DecidableEq, Inhabited

/-- Documentation elsewhere. -/
structure ExternalDocs where
  description : String := ""
  url : String
  deriving Repr, DecidableEq, Inhabited

/-- A group of operations. -/
structure Tag where
  name : String
  description : String := ""
  deriving Repr, DecidableEq, Inhabited

/-- A node of a schema; `type` holds one or more names of types, or none. -/
structure Schema where
  ref : String := ""
  type : List String := []
  format : String := ""
  description : String := ""
  nullable : Bool := false
  properties : List (String × Schema) := []
  required : List String := []
  items : Option Schema := none
  allOf : List Schema := []
  oneOf : List Schema := []
  anyOf : List Schema := []
  enum : List Value := []
  minimum : Option Number := none
  maximum : Option Number := none
  minLength : Option Int := none
  maxLength : Option Int := none
  pattern : String := ""
  defaultValue : Value := .null
  exampleValue : Value := .null
  deriving Repr, Inhabited

namespace Schema

/-- What stands before the name of a schema in a reference to it. -/
def refBase : String := "#/components/schemas/"

/-- A reference to a schema of the document. -/
def reference (name : String) : Schema :=
  { ref := refBase ++ name }

/-- An array of something. -/
def arrayOf (items : Schema) : Schema :=
  { type := ["array"], items := some items }

/-- The name that a node refers to; a reference elsewhere is its own name. -/
def refName (s : Schema) : String :=
  match Text.dropLiteral? refBase.toList s.ref.toList with
  | some name => String.ofList name
  | none => s.ref

end Schema

/-- The content of a body in one format. -/
structure MediaType where
  schema : Option Schema := none
  exampleValue : Value := .null
  deriving Repr, Inhabited

/-- A parameter of an operation. -/
structure Parameter where
  name : String
  place : String
  description : String := ""
  required : Bool := false
  schema : Option Schema := none
  deriving Repr, Inhabited

/-- What a request carries. -/
structure RequestBody where
  description : String := ""
  content : Table String MediaType := []
  required : Bool := false
  deriving Repr, Inhabited

/-- What an operation answers. -/
structure Response where
  description : String
  content : Table String MediaType := []
  deriving Repr, Inhabited

/-- Names of security schemes, each with the scopes that are needed. -/
abbrev Requirement := Table String (List String)

/-- An operation on a path. -/
structure Operation where
  tags : List String := []
  summary : String := ""
  description : String := ""
  operationId : String := ""
  parameters : List Parameter := []
  requestBody : Option RequestBody := none
  responses : Table String Response := []
  security : List Requirement := []
  deriving Repr, Inhabited

/-- The operations of one path, one for each method. -/
structure PathItem where
  get : Option Operation := none
  put : Option Operation := none
  post : Option Operation := none
  delete : Option Operation := none
  options : Option Operation := none
  head : Option Operation := none
  patch : Option Operation := none
  trace : Option Operation := none
  deriving Repr, Inhabited

namespace PathItem

/-- The operation of a method. -/
def operation? (p : PathItem) : Method → Option Operation
  | .get => p.get
  | .put => p.put
  | .post => p.post
  | .delete => p.delete
  | .options => p.options
  | .head => p.head
  | .patch => p.patch
  | .trace => p.trace

/-- Gives a method an operation. -/
def withOperation (p : PathItem) (o : Operation) : Method → PathItem
  | .get => { p with get := some o }
  | .put => { p with put := some o }
  | .post => { p with post := some o }
  | .delete => { p with delete := some o }
  | .options => { p with options := some o }
  | .head => { p with head := some o }
  | .patch => { p with patch := some o }
  | .trace => { p with trace := some o }

/-- The operations of a path in the order of `Method.all`. -/
def operations (p : PathItem) : List (Method × Operation) :=
  Method.all.filterMap fun m => (p.operation? m).map fun o => (m, o)

end PathItem

/-- One flow of an OAuth2 scheme. -/
structure OAuthFlow where
  authorizationUrl : String := ""
  tokenUrl : String := ""
  refreshUrl : String := ""
  scopes : Table String String := []
  deriving Repr, DecidableEq, Inhabited

/-- The flows of an OAuth2 scheme. -/
structure OAuthFlows where
  implicit : Option OAuthFlow := none
  password : Option OAuthFlow := none
  clientCredentials : Option OAuthFlow := none
  authorizationCode : Option OAuthFlow := none
  deriving Repr, DecidableEq, Inhabited

/-- How operations are protected. -/
structure SecurityScheme where
  type : String
  description : String := ""
  name : String := ""
  place : String := ""
  scheme : String := ""
  flows : Option OAuthFlows := none
  openIdConnectUrl : String := ""
  deriving Repr, DecidableEq, Inhabited

/-- What operations refer to by name. -/
structure Components where
  schemas : Table String Schema := []
  securitySchemes : Table String SecurityScheme := []
  deriving Repr, Inhabited

/-- A whole document. -/
structure Document where
  openapi : String
  info : Info
  servers : List Server := []
  paths : Table String PathItem := []
  webhooks : Table String PathItem := []
  components : Components := {}
  tags : List Tag := []
  externalDocs : Option ExternalDocs := none
  deriving Repr, Inhabited

/-- The operations of a document with their paths and methods, in document order. -/
def Document.operations (d : Document) : List (String × Method × Operation) :=
  d.paths.flatMap fun (path, item) => item.operations.map fun (m, o) => (path, m, o)

end ApiDirectives
