import ApiDirectives.Draft.Assembly
import ApiDirectives.Resolve.Constraint
import ApiDirectives.Resolve.Status

/-!
# Resolving a draft

A draft becomes a document: types become schemas, texts become values, and security requirements are
wired to the declared schemes and scopes. Gaps are warnings and never stop it; the one thing that can
is a version whose dialect is needed and cannot be read.
-/

namespace ApiDirectives

/-- The format of all bodies. -/
def jsonMedia : String := "application/json"

/-! ## Operations -/

/-- A parameter. Path parameters are always required. -/
def ParameterDraft.resolve (d : Dialect) (location : Location) (p : ParameterDraft) :
    Resolution Parameter := do
  let s ← resolveType d p.slot.type (some location)
  let s ← s.constrain d p.slot.constraints (some location) ""
  let s ← if p.slot.nullable then s.makeNullable d else pure s
  return {
    name := p.slot.name
    place := p.place.name
    description := p.slot.description
    required := p.slot.required || p.place = .path
    schema := some s }

/-- A request body. -/
def Payload.resolve (d : Dialect) (location : Location) (p : Payload) : Resolution RequestBody := do
  let s ← resolveType d p.schema (some location)
  return {
    description := p.description
    content := [(jsonMedia, { schema := some s })]
    required := p.required }

/-- An optional request body. -/
def resolveBody (d : Dialect) (location : Location) : Option Payload → Resolution (Option RequestBody)
  | none => pure none
  | some p => do
    let b ← p.resolve d location
    return some b

/-- A response; without a schema it has no content. -/
def Reply.resolve (d : Dialect) (location : Location) (r : Reply) : Resolution Response := do
  let description := if r.description = "" then reasonPhrase r.status else r.description
  if r.schema = "" then return { description }
  else
    let s ← resolveType d r.schema (some location)
    return { description, content := [(jsonMedia, { schema := some s })] }

/-- Responses by status. -/
def resolveReplies (d : Dialect) (location : Location) (replies : Table String Reply) :
    Resolution (Table String Response) :=
  Resolution.each (fun (status, r) => do
    let response ← r.resolve d location
    return (status, response)) replies

/-- The scopes declared for a scheme, in order. -/
def Header.scopesOf (h : Header) (scheme : String) : Table String String :=
  (h.scopes.get? scheme).getD []

/-- A requirement for a scheme: all scopes declared for it. -/
def resolveRequirement (h : Header) (location : Location) (name : String) :
    Resolution Requirement := do
  if !h.schemes.has name then
    Resolution.report (.undeclaredRequirement name) (some location)
  return [(name, (h.scopesOf name).keys)]

/-- An operation. -/
def OperationDraft.resolve (d : Dialect) (h : Header) (o : OperationDraft) :
    Resolution Operation := do
  let parameters ← Resolution.each (ParameterDraft.resolve d o.location) o.parameters
  let requestBody ← resolveBody d o.location o.body
  let responses ← resolveReplies d o.location o.responses
  let security ← Resolution.each (resolveRequirement h o.location) o.security
  return {
    tags := o.tags
    summary := o.summary
    operationId := o.operationId
    parameters, requestBody, responses, security }

/-- A webhook as an operation. -/
def WebhookDraft.resolve (d : Dialect) (w : WebhookDraft) : Resolution Operation := do
  let requestBody ← resolveBody d w.location w.body
  let responses ← resolveReplies d w.location w.responses
  return { summary := w.description, requestBody, responses }

/-- Gives a path an operation. -/
def addOperation (paths : Table String PathItem) (path : String) (m : Method) (o : Operation) :
    Table String PathItem :=
  paths.put path (PathItem.withOperation ((paths.get? path).getD {}) o m)

/-- Operations grouped by path, in order of first mention. -/
def groupPaths (operations : List (String × Method × Operation)) : Table String PathItem :=
  operations.foldl (fun paths (path, m, o) => addOperation paths path m o) []

/-- The operations of a draft with their paths and methods. -/
def resolveOperations (d : Dialect) (h : Header) (operations : Operations) :
    Resolution (List (String × Method × Operation)) :=
  Resolution.each (fun ((path, m), o) => do
    let operation ← OperationDraft.resolve d h o
    return (path, m, operation)) operations

/-- The webhooks of a draft. Documents before version 3.1 have none, which is worth a warning. -/
def resolveWebhooks (d : Dialect) (version : String) (webhooks : Table String WebhookDraft) :
    Resolution (Table String PathItem) :=
  match webhooks with
  | [] => pure []
  | (_, first) :: _ => do
    let typeSets ← Resolution.typeSets d
    if !typeSets then
      Resolution.report (.webhooksTooNew version) (some first.location)
    Resolution.each (fun (name, w) => do
      let o ← WebhookDraft.resolve d w
      return (name, PathItem.withOperation {} o w.method)) webhooks

/-! ## Models -/

/-- A model: an object, combined with its parents if it has some. A child without members of its own
is its parents. -/
def ModelDraft.resolve (d : Dialect) (m : ModelDraft) : Resolution Schema := do
  let properties ← Resolution.each (fun (name, f) => do
    let s ← FieldDraft.resolve d f
    return (name, s)) m.fields
  let own : Schema := { type := ["object"], properties, required := m.required }
  if m.parents.isEmpty then return { own with description := m.description }
  else
    let parents ← Resolution.each (fun name => resolveType d name (some m.location)) m.parents
    let hasOwn := !properties.isEmpty || !m.required.isEmpty
    return {
      allOf := if hasOwn then parents ++ [own] else parents
      description := m.description }

/-- The models of a draft. -/
def resolveModels (d : Dialect) (models : Models) : Resolution (Table String Schema) :=
  Resolution.each (fun (name, m) => do
    let s ← ModelDraft.resolve d m
    return (name, s)) models

/-! ## Header and security -/

/-- The description with the links listed below it. -/
def Header.describe (h : Header) : String :=
  if h.links.isEmpty then h.description
  else
    let listed := Text.joined "\n"
      ("Some useful links:" :: h.links.map fun (label, url) => "- [" ++ label ++ "](" ++ url ++ ")")
    if h.description = "" then listed else h.description ++ "\n\n" ++ listed

/-- Title, version and the like. -/
def Header.info (h : Header) : Info where
  title := h.title
  description := h.describe
  termsOfService := h.termsOfService
  contact := h.contact
  license := h.license
  version := h.version

/-- The one flow of an OAuth2 scheme; an unknown flow counts as the implicit one. -/
def oauthFlows (flow url : String) (scopes : Table String String) (location : Location) :
    Resolution OAuthFlows := do
  let authorization : OAuthFlow := { authorizationUrl := url, scopes }
  let token : OAuthFlow := { tokenUrl := url, scopes }
  match if flow = "" then "implicit" else flow with
  | "implicit" => return { implicit := some authorization }
  | "password" => return { password := some token }
  | "clientCredentials" => return { clientCredentials := some token }
  | "authorizationCode" => return { authorizationCode := some authorization }
  | other =>
    Resolution.report (.unknownFlow other) (some location)
    return { implicit := some authorization }

/-- A security scheme. -/
def SchemeDraft.resolve (h : Header) (name : String) (s : SchemeDraft) :
    Resolution SecurityScheme := do
  let type := s.type.name
  let description := s.description
  match s.type with
  | .apiKey => return { type, description, name, place := orText s.place "header" }
  | .http => return { type, description, scheme := orText s.place "bearer" }
  | .openIdConnect => return { type, description, openIdConnectUrl := s.url }
  | .oauth2 =>
    let flows ← oauthFlows s.place s.url (h.scopesOf name) s.declaredAt
    return { type, description, flows := some flows }

/-- The security schemes of a draft; scopes of undeclared ones are worth a warning each. -/
def resolveSchemes (h : Header) : Resolution (Table String SecurityScheme) := do
  let _ ← Resolution.each (fun (name, location) => do
    if !h.schemes.has name then
      Resolution.report (.undeclaredScheme name) (some location)) h.scopeLocations
  Resolution.each (fun (name, s) => do
    let scheme ← SchemeDraft.resolve h name s
    return (name, scheme)) h.schemes

/-! ## The document -/

/-- The version that a document declares. -/
def Draft.version (draft : Draft) (fallback : String) : String :=
  orText draft.header.openapi fallback

/-- The document of a draft, with everything noticed on the way. -/
def Draft.resolution (draft : Draft) (fallback : String) : Resolution Document := do
  let version := draft.version fallback
  let d := Dialect.of version
  let h := draft.header
  let securitySchemes ← resolveSchemes h
  let operations ← resolveOperations d h draft.operations
  let webhooks ← resolveWebhooks d version h.webhooks
  let schemas ← resolveModels d draft.models
  return {
    openapi := version
    info := h.info
    servers := h.servers
    paths := groupPaths operations
    webhooks
    components := { schemas, securitySchemes }
    tags := h.tags
    externalDocs := h.externalDocs }

/-- Resolves a draft into a document and the warnings found on the way. -/
def Draft.resolve (draft : Draft) (fallback : String := defaultVersion) :
    Except VersionFault (Document × List Diagnostic) :=
  match draft.resolution fallback with
  | .error e => .error e
  | .ok (document, notices) => .ok (document, (settle draft.models.keys [] notices).1)

end ApiDirectives
