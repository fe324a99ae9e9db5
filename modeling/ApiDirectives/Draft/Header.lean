import ApiDirectives.Diagnostic
import ApiDirectives.Draft.Basic
import ApiDirectives.Draft.Block

/-!
# Merging directives about the interface

Single-valued members are overwritten by later directives, lists grow, and tables keep the order of
first mention. A webhook is kept as first declared; its body and responses are the ones that follow
it in its block before the next webhook.
-/

namespace ApiDirectives

namespace Header

/-- Adds a tag, or describes a known one anew if the description says something. -/
def addTag (tag : Tag) : List Tag → List Tag
  | [] => [tag]
  | t :: r =>
    if t.name = tag.name then if tag.description = "" then t :: r else tag :: r
    else t :: addTag tag r

/-- The state while the directives of one block are merged: the webhook that bodies and responses
belong to is the last one of the block, if it was accepted. -/
structure Merge where
  header : Header
  webhook : Option String := none
  diagnostics : List Diagnostic := []

/-- Adds a finding. -/
def Merge.report (m : Merge) (cause : Cause) (location : Location) : Merge :=
  { m with diagnostics := m.diagnostics ++ [⟨cause, some location⟩] }

/-- Declares a webhook, or reports that its name is taken. -/
def Merge.addWebhook (m : Merge) (location : Location) (name : String) (method : Method)
    (description : String) : Merge :=
  match m.header.webhooks.get? name with
  | some first =>
    { m.report (.duplicateWebhook name location first.location) location with webhook := none }
  | none =>
    let w : WebhookDraft := { name, method, description, location }
    { m with
      header := { m.header with webhooks := m.header.webhooks.put name w }
      webhook := some name }

/-- Changes the current webhook, or reports that there is none. -/
def Merge.onWebhook (m : Merge) (location : Location) (kind : Kind)
    (change : WebhookDraft → WebhookDraft) : Merge :=
  match m.webhook with
  | none => m.report (.strayWebhookPart kind) location
  | some name =>
    { m with header := { m.header with webhooks := m.header.webhooks.adjust name change } }

/-- Changes the header. -/
def Merge.set (m : Merge) (change : Header → Header) : Merge :=
  { m with header := change m.header }

/-- Merges one directive of a block at a location. -/
def Merge.step (location : Location) (m : Merge) (d : Directive) : Merge :=
  match d with
  | .api version => m.set ({ · with openapi := version })
  | .info title version description =>
    m.set fun h => { h with
      title, version
      description := if description = "" then h.description else description }
  | .contact name email url => m.set ({ · with contact := some { name, email, url } })
  | .license name url => m.set ({ · with license := some { name, url } })
  | .tos url => m.set ({ · with termsOfService := url })
  | .externalDocs url description =>
    m.set ({ · with externalDocs := some { url, description } })
  | .server url description =>
    m.set fun h => { h with servers := h.servers ++ [{ url, description }] }
  | .tag name description => m.set fun h => { h with tags := addTag { name, description } h.tags }
  | .link label url => m.set fun h => { h with links := h.links ++ [(label, url)] }
  | .security name type place description url =>
    m.set fun h => { h with
      schemes := h.schemes.put name { name, type, place, description, url, declaredAt := location } }
  | .scope scheme name description =>
    m.set fun h => { h with
      scopes := h.scopes.put scheme (Table.put ((h.scopes.get? scheme).getD []) name description)
      scopeLocations := h.scopeLocations.putNew scheme location }
  | .webhook name method description => m.addWebhook location name method description
  | .webhookBody payload =>
    m.onWebhook location .webhookBody fun w => { w with body := some payload }
  | .webhookResponse reply =>
    m.onWebhook location .webhookResponse fun w =>
      { w with responses := w.responses.put reply.status reply }
  | _ => m

/-- Merges the directives of a block into a header. -/
def merge (h : Header) (location : Location) (remarks : List Remark) :
    Header × List Diagnostic :=
  let m := (remarks.map (·.directive)).foldl (Merge.step location) { header := h }
  (m.header, m.diagnostics)

end Header

end ApiDirectives
