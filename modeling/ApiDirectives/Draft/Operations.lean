import ApiDirectives.Diagnostic
import ApiDirectives.Draft.Basic
import ApiDirectives.Draft.Block

/-!
# Merging operation blocks

A block with a route either adds one operation at the end or is refused as a whole with one error: it
has no route, its path and method are taken, or its identifier is.
-/

namespace ApiDirectives

namespace Operations

/-- The members of a route. -/
structure Route where
  method : Method
  path : String
  operationId : String
  summary : String
  tags : List String

/-- The route that a directive is, if it is one. -/
def Route.of? : Directive → Option Route
  | .route method path operationId summary tags => some ⟨method, path, operationId, summary, tags⟩
  | _ => none

/-- The routes of a block with the lines they were read from. -/
def routes (remarks : List Remark) : List (Route × String) :=
  remarks.filterMap fun r => (Route.of? r.directive).map fun route => (route, r.raw)

/-- Adds what one directive says about an operation. -/
def addPart (o : OperationDraft) : Directive → OperationDraft
  | .parameter place slot => { o with parameters := o.parameters ++ [⟨place, slot⟩] }
  | .body payload => { o with body := some payload }
  | .ok reply => { o with responses := o.responses.put reply.status reply }
  | .error reply => { o with responses := o.responses.put reply.status reply }
  | .secure names => { o with security := o.security ++ names }
  | _ => o

/-- The operation of a block with a given route. -/
def build (route : Route) (location : Location) (remarks : List Remark) : OperationDraft :=
  (remarks.map (·.directive)).foldl addPart
    { method := route.method, path := route.path, operationId := route.operationId
      summary := route.summary, tags := route.tags, location }

/-- Why a route cannot be accepted beside the operations so far, if it cannot. -/
def conflict? (operations : Operations) (route : Route) (location : Location) : Option Cause :=
  match operations.get? (route.path, route.method) with
  | some first =>
    some (.duplicateOperation route.method route.path first.location location)
  | none =>
    match operations.values.find? (·.operationId = route.operationId) with
    | some first =>
      some (.duplicateOperationId route.operationId first.method first.path first.location
        route.method route.path location)
    | none => none

/-- Merges the directives of a block into the operations so far. -/
def merge (operations : Operations) (declaration : String) (location : Location)
    (remarks : List Remark) : Operations × List Diagnostic :=
  match routes remarks with
  | [] => (operations, [⟨.missingRoute declaration, some location⟩])
  | (route, _) :: extra =>
    let extras : List Diagnostic :=
      extra.map fun (_, raw) => ⟨.extraRoute declaration raw, some location⟩
    match conflict? operations route location with
    | some cause => (operations, extras ++ [⟨cause, some location⟩])
    | none =>
      (operations ++ [((route.path, route.method), build route location remarks)], extras)

end Operations

end ApiDirectives
