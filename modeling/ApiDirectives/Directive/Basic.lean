import ApiDirectives.Directive.Kind
import ApiDirectives.Text.Blank

/-!
# Directives

A directive is one line of a comment that starts with an exclamation mark and fits the grammar of
its keyword. Each kind has its own members, so that the code that merges directives never looks a
member up by name; the listing of a directive's members as pairs of a key and a text is a view of
it, `Directive.args`.
-/

namespace ApiDirectives

/-- The members of a parameter or a field: constraints are kept in the order of `Constraint.all`. -/
structure Slot where
  name : String
  type : String
  description : String
  required : Bool
  nullable : Bool
  constraints : List (Constraint × String)
  deriving Repr, DecidableEq, Inhabited

/-- The members of a request body. -/
structure Payload where
  schema : String
  description : String
  required : Bool
  deriving Repr, DecidableEq, Inhabited

/-- The members of a response. -/
structure Reply where
  status : String
  schema : String
  description : String
  deriving Repr, DecidableEq, Inhabited

/-- A directive with its members. -/
inductive Directive where
  | api (version : String)
  | info (title version description : String)
  | contact (name email url : String)
  | license (name url : String)
  | server (url description : String)
  | tag (name description : String)
  | tos (url : String)
  | security (name : String) (type : SchemeType) (place description url : String)
  | scope (scheme name description : String)
  | externalDocs (url description : String)
  | link (label url : String)
  | webhook (name : String) (method : Method) (description : String)
  | webhookBody (payload : Payload)
  | webhookResponse (reply : Reply)
  | route (method : Method) (path operationId summary : String) (tags : List String)
  | parameter (place : Place) (slot : Slot)
  | body (payload : Payload)
  | ok (reply : Reply)
  | error (reply : Reply)
  | secure (names : List String)
  | model (description : String) (parents : Option String)
  | field (slot : Slot)
  deriving Repr, DecidableEq, Inhabited

namespace Directive

/-- The kind of a directive. -/
def kind : Directive → Kind
  | .api .. => .api
  | .info .. => .info
  | .contact .. => .contact
  | .license .. => .license
  | .server .. => .server
  | .tag .. => .tag
  | .tos .. => .tos
  | .security .. => .security
  | .scope .. => .scope
  | .externalDocs .. => .externalDocs
  | .link .. => .link
  | .webhook .. => .webhook
  | .webhookBody .. => .webhookBody
  | .webhookResponse .. => .webhookResponse
  | .route .. => .route
  | .parameter place _ => place.kind
  | .body .. => .body
  | .ok .. => .ok
  | .error .. => .error
  | .secure .. => .secure
  | .model .. => .model
  | .field .. => .field

/-- The role of a directive. -/
def role (d : Directive) : Role := d.kind.role

/-- The exclamation mark and the keyword that the directive was written with. -/
def keyword : Directive → String
  | .route method .. => "!" ++ method.upper
  | d => "!" ++ d.kind.name

/-- A set flag is shown as a word, a clear one as nothing. -/
def flagText (b : Bool) : String := if b then "true" else ""

/-- The members of a parameter or field as pairs. -/
def slotArgs (s : Slot) : List (String × String) :=
  [("name", s.name), ("type", s.type), ("description", s.description),
    ("required", flagText s.required), ("nullable", flagText s.nullable)]
    ++ s.constraints.map fun (c, v) => (c.key, v)

/-- The members of a body as pairs. -/
def payloadArgs (p : Payload) : List (String × String) :=
  [("schema", p.schema), ("description", p.description), ("required", flagText p.required)]

/-- The members of a response as pairs. -/
def replyArgs (r : Reply) : List (String × String) :=
  [("status", r.status), ("schema", r.schema), ("description", r.description)]

/-- The members of a directive as pairs of a key and a text, in the order of its grammar. -/
def args : Directive → List (String × String)
  | .api version => [("version", version)]
  | .info title version description =>
    [("title", title), ("version", version), ("description", description)]
  | .contact name email url => [("name", name), ("email", email), ("url", url)]
  | .license name url => [("name", name), ("url", url)]
  | .server url description => [("url", url), ("description", description)]
  | .tag name description => [("name", name), ("description", description)]
  | .tos url => [("url", url)]
  | .security name type place description url =>
    [("name", name), ("type", type.name), ("location", place), ("description", description),
      ("url", url)]
  | .scope scheme name description =>
    [("security", scheme), ("name", name), ("description", description)]
  | .externalDocs url description => [("url", url), ("description", description)]
  | .link label url => [("label", label), ("url", url)]
  | .webhook name method description =>
    [("name", name), ("method", method.lower), ("description", description)]
  | .webhookBody p => payloadArgs p
  | .webhookResponse r => replyArgs r
  | .route method path operationId summary _ =>
    [("method", method.upper), ("path", path), ("operationId", operationId),
      ("summary", summary)]
  | .parameter place slot => ("in", place.name) :: slotArgs slot
  | .body p => payloadArgs p
  | .ok r => replyArgs r
  | .error r => replyArgs r
  | .secure names => [("names", Text.joined "," names)]
  | .model description parents =>
    ("description", description) :: (parents.map fun p => ("extends", p)).toList
  | .field slot => slotArgs slot

/-- The words listed with a directive: the tags of a route, the scheme names of a requirement. -/
def tags : Directive → List String
  | .route _ _ _ _ tags => tags
  | .secure names => names
  | _ => []

end Directive

/-- A directive together with the line it was read from, blanks at its ends dropped. -/
structure Remark where
  raw : String
  directive : Directive
  deriving Repr, DecidableEq, Inhabited

/-- The kind of a remark. -/
def Remark.kind (a : Remark) : Kind := a.directive.kind

/-- The role of a remark. -/
def Remark.role (a : Remark) : Role := a.directive.role

end ApiDirectives
