import ApiDirectives.Document.Basic

/-!
# The written form of a document

A document becomes a value with the standard names of members, in the standard order. A member with
a default is left out exactly when it has it; one type stands bare, several stand in a list; integral
bounds are integers.
-/

namespace ApiDirectives

/-- A member that is always written. -/
def always (name : String) (v : Value) : List (String × Value) := [(name, v)]

/-- A text that is left out when empty. -/
def textMember (name s : String) : List (String × Value) :=
  if s = "" then [] else [(name, .str s)]

/-- A flag that is left out when clear. -/
def flagMember (name : String) (b : Bool) : List (String × Value) :=
  if b then [(name, .bool true)] else []

/-- A list that is left out when empty. -/
def listMember (name : String) (vs : List Value) : List (String × Value) :=
  if vs.isEmpty then [] else [(name, .list vs)]

/-- A table that is left out when empty. -/
def tableMember (name : String) (members : List (String × Value)) : List (String × Value) :=
  if members.isEmpty then [] else [(name, .object members)]

/-- A member that is left out when absent. -/
def optionMember (name : String) (v : Option Value) : List (String × Value) :=
  (v.map fun v => (name, v)).toList

/-- A free value that is left out when null. -/
def valueMember (name : String) : Value → List (String × Value)
  | .null => []
  | v => [(name, v)]

/-- Texts as a list of values. -/
def texts (ss : List String) : List Value := ss.map .str

/-- The types of a node: one stands bare. -/
def typeMember : List String → List (String × Value)
  | [] => []
  | [t] => [("type", .str t)]
  | ts => [("type", .list (texts ts))]

mutual

/-- A node of a schema. -/
def Schema.written : Schema → Value
  | ⟨ref, type, format, description, nullable, properties, required, items, allOf, oneOf, anyOf,
      enum, minimum, maximum, minLength, maxLength, pattern, defaultValue, exampleValue⟩ =>
    .object (
      textMember "$ref" ref ++ typeMember type ++ textMember "format" format
        ++ textMember "description" description ++ flagMember "nullable" nullable
        ++ tableMember "properties" (writtenProperties properties)
        ++ listMember "required" (texts required) ++ writtenItems items
        ++ listMember "allOf" (writtenSchemas allOf) ++ listMember "oneOf" (writtenSchemas oneOf)
        ++ listMember "anyOf" (writtenSchemas anyOf) ++ listMember "enum" enum
        ++ optionMember "minimum" (minimum.map Number.written)
        ++ optionMember "maximum" (maximum.map Number.written)
        ++ optionMember "minLength" (minLength.map .int)
        ++ optionMember "maxLength" (maxLength.map .int)
        ++ textMember "pattern" pattern ++ valueMember "default" defaultValue
        ++ valueMember "example" exampleValue)

/-- The items of an array. -/
def writtenItems : Option Schema → List (String × Value)
  | none => []
  | some s => [("items", s.written)]

/-- Schemas in a list. -/
def writtenSchemas : List Schema → List Value
  | [] => []
  | s :: r => s.written :: writtenSchemas r

/-- Schemas by name. -/
def writtenProperties : List (String × Schema) → List (String × Value)
  | [] => []
  | (name, s) :: r => (name, s.written) :: writtenProperties r

end

/-- A table with its values written. -/
def writtenTable {α : Type} (write : α → Value) (t : Table String α) : List (String × Value) :=
  t.map fun (k, a) => (k, write a)

def Contact.written (c : Contact) : Value :=
  .object (textMember "name" c.name ++ textMember "url" c.url ++ textMember "email" c.email)

def License.written (l : License) : Value :=
  .object (always "name" (.str l.name) ++ textMember "url" l.url)

def Info.written (i : Info) : Value :=
  .object (always "title" (.str i.title) ++ textMember "description" i.description
    ++ textMember "termsOfService" i.termsOfService
    ++ optionMember "contact" (i.contact.map Contact.written)
    ++ optionMember "license" (i.license.map License.written)
    ++ always "version" (.str i.version))

def Server.written (s : Server) : Value :=
  .object (always "url" (.str s.url) ++ textMember "description" s.description)

def ExternalDocs.written (e : ExternalDocs) : Value :=
  .object (textMember "description" e.description ++ always "url" (.str e.url))

def Tag.written (t : Tag) : Value :=
  .object (always "name" (.str t.name) ++ textMember "description" t.description)

def MediaType.written (m : MediaType) : Value :=
  .object (optionMember "schema" (m.schema.map Schema.written)
    ++ valueMember "example" m.exampleValue)

def Parameter.written (p : Parameter) : Value :=
  .object (always "name" (.str p.name) ++ always "in" (.str p.place)
    ++ textMember "description" p.description ++ flagMember "required" p.required
    ++ optionMember "schema" (p.schema.map Schema.written))

def RequestBody.written (b : RequestBody) : Value :=
  .object (textMember "description" b.description
    ++ tableMember "content" (writtenTable MediaType.written b.content)
    ++ flagMember "required" b.required)

def Response.written (r : Response) : Value :=
  .object (always "description" (.str r.description)
    ++ tableMember "content" (writtenTable MediaType.written r.content))

/-- A requirement: scheme names with the scopes they need. -/
def writtenRequirement (r : Requirement) : Value :=
  .object (writtenTable (fun scopes => .list (texts scopes)) r)

def Operation.written (o : Operation) : Value :=
  .object (listMember "tags" (texts o.tags) ++ textMember "summary" o.summary
    ++ textMember "description" o.description ++ textMember "operationId" o.operationId
    ++ listMember "parameters" (o.parameters.map Parameter.written)
    ++ optionMember "requestBody" (o.requestBody.map RequestBody.written)
    ++ tableMember "responses" (writtenTable Response.written o.responses)
    ++ listMember "security" (o.security.map writtenRequirement))

def PathItem.written (p : PathItem) : Value :=
  .object (p.operations.map fun (m, o) => (m.lower, o.written))

def OAuthFlow.written (f : OAuthFlow) : Value :=
  .object (textMember "authorizationUrl" f.authorizationUrl ++ textMember "tokenUrl" f.tokenUrl
    ++ textMember "refreshUrl" f.refreshUrl ++ tableMember "scopes" (writtenTable .str f.scopes))

def OAuthFlows.written (f : OAuthFlows) : Value :=
  .object (optionMember "implicit" (f.implicit.map OAuthFlow.written)
    ++ optionMember "password" (f.password.map OAuthFlow.written)
    ++ optionMember "clientCredentials" (f.clientCredentials.map OAuthFlow.written)
    ++ optionMember "authorizationCode" (f.authorizationCode.map OAuthFlow.written))

def SecurityScheme.written (s : SecurityScheme) : Value :=
  .object (always "type" (.str s.type) ++ textMember "description" s.description
    ++ textMember "name" s.name ++ textMember "in" s.place ++ textMember "scheme" s.scheme
    ++ optionMember "flows" (s.flows.map OAuthFlows.written)
    ++ textMember "openIdConnectUrl" s.openIdConnectUrl)

/-- Components are left out as a whole when there are none. -/
def Components.members (c : Components) : List (String × Value) :=
  tableMember "schemas" (writtenTable Schema.written c.schemas)
    ++ tableMember "securitySchemes" (writtenTable SecurityScheme.written c.securitySchemes)

/-- A document as a value. -/
def Document.written (d : Document) : Value :=
  .object (always "openapi" (.str d.openapi) ++ always "info" d.info.written
    ++ listMember "servers" (d.servers.map Server.written)
    ++ tableMember "paths" (writtenTable PathItem.written d.paths)
    ++ tableMember "webhooks" (writtenTable PathItem.written d.webhooks)
    ++ tableMember "components" d.components.members
    ++ listMember "tags" (d.tags.map Tag.written)
    ++ optionMember "externalDocs" (d.externalDocs.map ExternalDocs.written))

end ApiDirectives
