import ApiDirectives.Checked
import ApiDirectives.Document.Basic

/-!
# Reading a document

A value becomes a document when its members have the right shapes. Members may be named as the
document writes them or as the types of this library do; unknown members are passed over. The types
of a schema are a list here.
-/

namespace ApiDirectives

/-- A bound of a schema. -/
def Value.bound (v : Value) : Checked Number := Number.float <$> v.number

mutual

/-- A node of a schema. -/
def Schema.read (v : Value) : Checked Schema :=
  match v with
  | .object ms =>
    Schema.mk
      <$> member ["$ref", "ref"] "" Value.text ms
      <*> member ["type"] [] Value.textList ms
      <*> member ["format"] "" Value.text ms
      <*> member ["description"] "" Value.text ms
      <*> member ["nullable"] false Value.truth ms
      <*> (match pick ["properties"] ms with
        | some ⟨(k, w), _⟩ => Checked.under k (Schema.readTable w)
        | none => .ok [])
      <*> member ["required"] [] Value.textList ms
      <*> (match pick ["items"] ms with
        | some ⟨(k, w), _⟩ => Checked.under k (Schema.readOptional w)
        | none => .ok none)
      <*> (match pick ["allOf", "all_of"] ms with
        | some ⟨(k, w), _⟩ => Checked.under k (Schema.readElements w)
        | none => .ok [])
      <*> (match pick ["oneOf", "one_of"] ms with
        | some ⟨(k, w), _⟩ => Checked.under k (Schema.readElements w)
        | none => .ok [])
      <*> (match pick ["anyOf", "any_of"] ms with
        | some ⟨(k, w), _⟩ => Checked.under k (Schema.readElements w)
        | none => .ok [])
      <*> member ["enum"] [] (Value.elements Value.free) ms
      <*> member ["minimum"] none (Value.optional Value.bound) ms
      <*> member ["maximum"] none (Value.optional Value.bound) ms
      <*> member ["minLength", "min_length"] none (Value.optional Value.whole) ms
      <*> member ["maxLength", "max_length"] none (Value.optional Value.whole) ms
      <*> member ["pattern"] "" Value.text ms
      <*> member ["default"] .null Value.free ms
      <*> member ["example"] .null Value.free ms
  | _ => .fault .notObject
termination_by (sizeOf v, 0)
decreasing_by
  all_goals
    rename_i h
    have := List.sizeOf_lt_of_mem h
    simp only [Prod.mk.sizeOf_spec] at this
    exact Prod.Lex.left _ _ (by simp only [Value.object.sizeOf_spec]; omega)

/-- A schema or nothing. -/
def Schema.readOptional (v : Value) : Checked (Option Schema) :=
  if v matches .null then .ok none else some <$> Schema.read v
termination_by (sizeOf v, 1)

/-- Schemas by name. -/
def Schema.readTable (v : Value) : Checked (List (String × Schema)) :=
  match v with
  | .object ps => Schema.readProperties ps
  | _ => .fault .notTable
termination_by (sizeOf v, 0)

/-- A list of schemas. -/
def Schema.readElements (v : Value) : Checked (List Schema) :=
  match v with
  | .list vs => Schema.readList 0 vs
  | _ => .fault .notList
termination_by (sizeOf v, 0)

/-- The members of a table of schemas. -/
def Schema.readProperties (ps : List (String × Value)) : Checked (List (String × Schema)) :=
  match ps with
  | [] => .ok []
  | (k, v) :: r =>
    (fun s ss => (k, s) :: ss) <$> Checked.under k (Schema.read v) <*> Schema.readProperties r
termination_by (sizeOf ps, 0)

/-- Schemas in a list, numbered from `n` on. -/
def Schema.readList (n : Nat) (vs : List Value) : Checked (List Schema) :=
  match vs with
  | [] => .ok []
  | v :: r =>
    (· :: ·) <$> Checked.under (toString n) (Schema.read v) <*> Schema.readList (n + 1) r
termination_by (sizeOf vs, 0)

end

def Contact.read : Value → Checked Contact :=
  Value.asObject fun ms => Contact.mk <$> member ["name"] "" Value.text ms
    <*> member ["url"] "" Value.text ms <*> member ["email"] "" Value.text ms

def License.read : Value → Checked License :=
  Value.asObject fun ms => License.mk <$> needed ["name"] Value.text ms
    <*> member ["url"] "" Value.text ms

def Info.read : Value → Checked Info :=
  Value.asObject fun ms => Info.mk <$> needed ["title"] Value.text ms
    <*> member ["description"] "" Value.text ms
    <*> member ["termsOfService", "terms_of_service"] "" Value.text ms
    <*> member ["contact"] none (Value.optional Contact.read) ms
    <*> member ["license"] none (Value.optional License.read) ms
    <*> needed ["version"] Value.text ms

def Server.read : Value → Checked Server :=
  Value.asObject fun ms => Server.mk <$> needed ["url"] Value.text ms
    <*> member ["description"] "" Value.text ms

def ExternalDocs.read : Value → Checked ExternalDocs :=
  Value.asObject fun ms => ExternalDocs.mk <$> member ["description"] "" Value.text ms
    <*> needed ["url"] Value.text ms

def Tag.read : Value → Checked Tag :=
  Value.asObject fun ms => Tag.mk <$> needed ["name"] Value.text ms
    <*> member ["description"] "" Value.text ms

def MediaType.read : Value → Checked MediaType :=
  Value.asObject fun ms =>
    MediaType.mk <$> member ["schema", "schema_"] none (Value.optional Schema.read) ms
      <*> member ["example"] .null Value.free ms

def Parameter.read : Value → Checked Parameter :=
  Value.asObject fun ms => Parameter.mk <$> needed ["name"] Value.text ms
    <*> needed ["in", "in_"] Value.text ms
    <*> member ["description"] "" Value.text ms
    <*> member ["required"] false Value.truth ms
    <*> member ["schema", "schema_"] none (Value.optional Schema.read) ms

def RequestBody.read : Value → Checked RequestBody :=
  Value.asObject fun ms => RequestBody.mk <$> member ["description"] "" Value.text ms
    <*> member ["content"] [] (Value.table MediaType.read) ms
    <*> member ["required"] false Value.truth ms

def Response.read : Value → Checked Response :=
  Value.asObject fun ms => Response.mk <$> needed ["description"] Value.text ms
    <*> member ["content"] [] (Value.table MediaType.read) ms

def Operation.read : Value → Checked Operation :=
  Value.asObject fun ms => Operation.mk <$> member ["tags"] [] Value.textList ms
    <*> member ["summary"] "" Value.text ms
    <*> member ["description"] "" Value.text ms
    <*> member ["operationId", "operation_id"] "" Value.text ms
    <*> member ["parameters"] [] (Value.elements Parameter.read) ms
    <*> member ["requestBody", "request_body"] none (Value.optional RequestBody.read) ms
    <*> member ["responses"] [] (Value.table Response.read) ms
    <*> member ["security"] [] (Value.elements (Value.table Value.textList)) ms

def PathItem.read : Value → Checked PathItem :=
  Value.asObject fun ms =>
    let slot (m : Method) := member [m.lower] none (Value.optional Operation.read) ms
    PathItem.mk <$> slot .get <*> slot .put <*> slot .post <*> slot .delete <*> slot .options
      <*> slot .head <*> slot .patch <*> slot .trace

def OAuthFlow.read : Value → Checked OAuthFlow :=
  Value.asObject fun ms =>
    OAuthFlow.mk <$> member ["authorizationUrl", "authorization_url"] "" Value.text ms
      <*> member ["tokenUrl", "token_url"] "" Value.text ms
      <*> member ["refreshUrl", "refresh_url"] "" Value.text ms
      <*> member ["scopes"] [] (Value.table Value.text) ms

def OAuthFlows.read : Value → Checked OAuthFlows :=
  Value.asObject fun ms =>
    let flow (names : List String) := member names none (Value.optional OAuthFlow.read) ms
    OAuthFlows.mk <$> flow ["implicit"] <*> flow ["password"]
      <*> flow ["clientCredentials", "client_credentials"]
      <*> flow ["authorizationCode", "authorization_code"]

def SecurityScheme.read : Value → Checked SecurityScheme :=
  Value.asObject fun ms => SecurityScheme.mk <$> needed ["type"] Value.text ms
    <*> member ["description"] "" Value.text ms
    <*> member ["name"] "" Value.text ms
    <*> member ["in", "in_"] "" Value.text ms
    <*> member ["scheme"] "" Value.text ms
    <*> member ["flows"] none (Value.optional OAuthFlows.read) ms
    <*> member ["openIdConnectUrl", "open_id_connect_url"] "" Value.text ms

def Components.read : Value → Checked Components :=
  Value.asObject fun ms =>
    Components.mk <$> member ["schemas"] [] (Value.table Schema.read) ms
      <*> member ["securitySchemes", "security_schemes"] [] (Value.table SecurityScheme.read) ms

/-- Reads a document. -/
def Document.read : Value → Checked Document :=
  Value.asObject fun ms => Document.mk <$> needed ["openapi"] Value.text ms
    <*> needed ["info"] Info.read ms
    <*> member ["servers"] [] (Value.elements Server.read) ms
    <*> member ["paths"] [] (Value.table PathItem.read) ms
    <*> member ["webhooks"] [] (Value.table PathItem.read) ms
    <*> member ["components"] {} Components.read ms
    <*> member ["tags"] [] (Value.elements Tag.read) ms
    <*> member ["externalDocs", "external_docs"] none (Value.optional ExternalDocs.read) ms

end ApiDirectives
