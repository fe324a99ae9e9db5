/-!
# Kinds of directives

Each directive has a kind, and each kind belongs to one role: it speaks about the interface as a
whole, about one operation, or about one schema.
-/

namespace ApiDirectives

/-- What a comment block is about, decided by its first directive. -/
inductive Role where
  | api
  | operation
  | schema
  | none
  deriving Repr, DecidableEq, Inhabited

/-- The word for a role. -/
def Role.name : Role → String
  | .api => "api"
  | .operation => "operation"
  | .schema => "schema"
  | .none => "none"

/-- The kinds of directives. -/
inductive Kind where
  | api | info | contact | license | server | tag | tos | security | scope | externalDocs | link
  | webhook | webhookBody | webhookResponse
  | route | query | path | header | cookie | body | ok | error | secure
  | model | field
  deriving Repr, DecidableEq, Inhabited

/-- The word for a kind. Routes are written with their method instead. -/
def Kind.name : Kind → String
  | .api => "api"
  | .info => "info"
  | .contact => "contact"
  | .license => "license"
  | .server => "server"
  | .tag => "tag"
  | .tos => "tos"
  | .security => "security"
  | .scope => "scope"
  | .externalDocs => "externalDocs"
  | .link => "link"
  | .webhook => "webhook"
  | .webhookBody => "webhook-body"
  | .webhookResponse => "webhook-response"
  | .route => "route"
  | .query => "query"
  | .path => "path"
  | .header => "header"
  | .cookie => "cookie"
  | .body => "body"
  | .ok => "ok"
  | .error => "error"
  | .secure => "secure"
  | .model => "model"
  | .field => "field"

/-- The role that a kind belongs to. -/
def Kind.role : Kind → Role
  | .api | .info | .contact | .license | .server | .tag | .tos | .security | .scope
  | .externalDocs | .link | .webhook | .webhookBody | .webhookResponse => .api
  | .route | .query | .path | .header | .cookie | .body | .ok | .error | .secure => .operation
  | .model | .field => .schema

/-- Methods of operations. -/
inductive Method where
  | get | post | put | delete | patch | options | head | trace
  deriving Repr, DecidableEq, Inhabited

/-- All methods, in the order in which a path lists its operations. -/
def Method.all : List Method :=
  [.get, .put, .post, .delete, .options, .head, .patch, .trace]

/-- A method in small letters, as the document writes it. -/
def Method.lower : Method → String
  | .get => "get"
  | .post => "post"
  | .put => "put"
  | .delete => "delete"
  | .patch => "patch"
  | .options => "options"
  | .head => "head"
  | .trace => "trace"

/-- A method in capitals, as a route directive writes it. -/
def Method.upper : Method → String
  | .get => "GET"
  | .post => "POST"
  | .put => "PUT"
  | .delete => "DELETE"
  | .patch => "PATCH"
  | .options => "OPTIONS"
  | .head => "HEAD"
  | .trace => "TRACE"

/-- The method that a route keyword names. -/
def Method.ofUpper? (s : String) : Option Method :=
  Method.all.find? fun m => m.upper == s

/-- Where a parameter is passed. -/
inductive Place where
  | query | path | header | cookie
  deriving Repr, DecidableEq, Inhabited

/-- All places. -/
def Place.all : List Place := [.query, .path, .header, .cookie]

/-- The word for a place. -/
def Place.name : Place → String
  | .query => "query"
  | .path => "path"
  | .header => "header"
  | .cookie => "cookie"

/-- The place that a parameter keyword names. -/
def Place.ofName? (s : String) : Option Place :=
  Place.all.find? fun p => p.name == s

/-- The kind of a parameter directive. -/
def Place.kind : Place → Kind
  | .query => .query
  | .path => .path
  | .header => .header
  | .cookie => .cookie

/-- Types of security schemes. -/
inductive SchemeType where
  | apiKey | oauth2 | http | openIdConnect
  deriving Repr, DecidableEq, Inhabited

/-- All types of security schemes. -/
def SchemeType.all : List SchemeType := [.apiKey, .oauth2, .http, .openIdConnect]

/-- The word for a type of security scheme. -/
def SchemeType.name : SchemeType → String
  | .apiKey => "apiKey"
  | .oauth2 => "oauth2"
  | .http => "http"
  | .openIdConnect => "openIdConnect"

/-- Constraints that a parameter or a field may carry, in the order in which they are kept. -/
inductive Constraint where
  | default | sample | enum | format | min | max | minLength | maxLength | pattern
  deriving Repr, DecidableEq, Inhabited

/-- All constraints, in the order in which they are kept. -/
def Constraint.all : List Constraint :=
  [.default, .sample, .enum, .format, .min, .max, .minLength, .maxLength, .pattern]

/-- The key of a constraint. -/
def Constraint.key : Constraint → String
  | .default => "default"
  | .sample => "example"
  | .enum => "enum"
  | .format => "format"
  | .min => "min"
  | .max => "max"
  | .minLength => "minLength"
  | .maxLength => "maxLength"
  | .pattern => "pattern"

/-- The constraint that a key names. -/
def Constraint.ofKey? (s : String) : Option Constraint :=
  Constraint.all.find? fun c => c.key == s

end ApiDirectives
