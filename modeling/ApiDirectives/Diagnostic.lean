import ApiDirectives.Directive.Kind
import ApiDirectives.Location
import ApiDirectives.Text.Blank

/-!
# Diagnostics

Anomalies never stop a compilation; they are collected as diagnostics. A diagnostic has a cause and
the place it was found at, and everything shown of it, its severity and its wording, follows from
these.
-/

namespace ApiDirectives

/-- How bad a finding is. -/
inductive Severity where
  | error
  | warning
  deriving Repr, DecidableEq, Inhabited

/-- The word for a severity. -/
def Severity.name : Severity → String
  | .error => "error"
  | .warning => "warning"

/-- What can be found wrong. -/
inductive Cause where
  /-- A file's bytes are no text. -/
  | undecodable (reason : String)
  /-- A file's text is no source. -/
  | unparsable
  /-- A block holds directives of other roles than that of its first one. -/
  | mixedRoles (declaration : String) (role : Role) (keywords : List String)
  /-- A webhook is declared a second time. -/
  | duplicateWebhook (name : String) (again first : Location)
  /-- A webhook's body or response stands before any accepted webhook of its block. -/
  | strayWebhookPart (kind : Kind)
  /-- An operation block has no route. -/
  | missingRoute (declaration : String)
  /-- A block has a second route. -/
  | extraRoute (declaration raw : String)
  /-- A path and method are declared a second time. -/
  | duplicateOperation (method : Method) (path : String) (first again : Location)
  /-- An operation identifier is used a second time. -/
  | duplicateOperationId (operationId : String) (firstMethod : Method) (firstPath : String)
      (first : Location) (method : Method) (path : String) (again : Location)
  /-- Two classes declare models of one name. -/
  | duplicateModel (name : String) (first again : Location)
  /-- A block has a second model directive. -/
  | extraModel (name raw : String)
  /-- Webhooks in a document of a version that has none. -/
  | webhooksTooNew (version : String)
  /-- A schema is referred to and not declared. -/
  | undeclaredSchema (name : String)
  /-- A value does not read as its type. -/
  | unreadableValue (what value type : String)
  /-- A bound does not read as a number. -/
  | unreadableBound (key value : String)
  /-- A length does not read as an integer. -/
  | unreadableLength (key value : String)
  /-- Scopes are declared for a security scheme that is not. -/
  | undeclaredScheme (name : String)
  /-- An OAuth2 flow that does not exist. -/
  | unknownFlow (flow : String)
  /-- An operation requires a security scheme that is not declared. -/
  | undeclaredRequirement (name : String)
  deriving Repr, DecidableEq

/-- Conflicts and unusable files are errors, gaps are warnings. -/
def Cause.severity : Cause → Severity
  | .undecodable .. | .unparsable | .mixedRoles .. | .duplicateWebhook .. | .missingRoute ..
  | .extraRoute .. | .duplicateOperation .. | .duplicateOperationId .. | .duplicateModel ..
  | .extraModel .. => .error
  | .strayWebhookPart .. | .webhooksTooNew .. | .undeclaredSchema .. | .unreadableValue ..
  | .unreadableBound .. | .unreadableLength .. | .undeclaredScheme .. | .unknownFlow ..
  | .undeclaredRequirement .. => .warning

/-- A text between single quotes. -/
def inQuotes (s : String) : String := "'" ++ s ++ "'"

/-- The wording of a cause. -/
def Cause.message : Cause → String
  | .undecodable reason => "cannot decode source: " ++ reason
  | .unparsable => "cannot parse source"
  | .mixedRoles declaration role keywords =>
    "comment block on " ++ inQuotes declaration ++ " mixes " ++ role.name
      ++ " directives with other scopes (" ++ Text.joined ", " keywords
      ++ "); those directives were ignored"
  | .duplicateWebhook name again first =>
    "webhook " ++ inQuotes name ++ " is declared at " ++ again.render ++ " and " ++ first.render
      ++ "; keeping the first declaration"
  | .strayWebhookPart kind => "!" ++ kind.name ++ " has no preceding !webhook in its block"
  | .missingRoute declaration =>
    "operation directives on " ++ inQuotes declaration
      ++ " have no route directive (e.g. !GET /path -> id)"
  | .extraRoute declaration raw =>
    inQuotes declaration ++ " declares more than one route; ignoring " ++ inQuotes raw
  | .duplicateOperation method path first again =>
    "duplicate operation " ++ method.upper ++ " " ++ path ++ ": declared at " ++ first.render
      ++ " and again at " ++ again.render ++ "; keeping the first declaration"
  | .duplicateOperationId operationId firstMethod firstPath first method path again =>
    "duplicate operationId " ++ inQuotes operationId ++ ": used by " ++ firstMethod.upper ++ " "
      ++ firstPath ++ " at " ++ first.render ++ " and by " ++ method.upper ++ " " ++ path ++ " at "
      ++ again.render ++ "; keeping the first declaration"
  | .duplicateModel name first again =>
    "duplicate model " ++ inQuotes name ++ ": declared at " ++ first.render ++ " and again at "
      ++ again.render ++ "; keeping the first declaration"
  | .extraModel name raw =>
    inQuotes name ++ " declares more than one model; ignoring " ++ inQuotes raw
  | .webhooksTooNew version =>
    "webhooks require OpenAPI 3.1 or later; document declares " ++ version
  | .undeclaredSchema name =>
    "reference to undeclared schema " ++ inQuotes name ++ " (no !model for it)"
  | .unreadableValue what value type =>
    what ++ " value " ++ inQuotes value ++ " is not a valid " ++ type ++ "; kept as a string"
  | .unreadableBound key value => key ++ " value " ++ inQuotes value ++ " is not a number; ignored"
  | .unreadableLength key value =>
    key ++ " value " ++ inQuotes value ++ " is not an integer; ignored"
  | .undeclaredScheme name => "!scope refers to undeclared security scheme " ++ inQuotes name
  | .unknownFlow flow => "unknown OAuth2 flow " ++ inQuotes flow ++ "; using implicit"
  | .undeclaredRequirement name =>
    "!secure refers to undeclared security scheme " ++ inQuotes name

/-- A finding: what is wrong, and where. -/
structure Diagnostic where
  cause : Cause
  location : Option Location
  deriving Repr, DecidableEq

/-- The severity of a finding. -/
def Diagnostic.severity (d : Diagnostic) : Severity := d.cause.severity

/-- The wording of a finding. -/
def Diagnostic.message (d : Diagnostic) : String := d.cause.message

/-- Whether a finding is an error. -/
def Diagnostic.isError (d : Diagnostic) : Bool := d.severity = .error

/-- One line of a report: the place, if there is one, the severity and the wording. -/
def reportLine (location : Option Location) (severity : Severity) (message : String) : String :=
  (location.map fun l => l.render ++ ": ").getD "" ++ severity.name ++ ": " ++ message

/-- A finding as one line of a report. -/
def Diagnostic.render (d : Diagnostic) : String :=
  reportLine d.location d.severity d.message

/-- Whether some severity is that of an error. -/
def anyError (severities : List Severity) : Bool :=
  severities.any (· = .error)

end ApiDirectives
