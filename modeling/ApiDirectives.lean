import ApiDirectives.Checked
import ApiDirectives.Command.Request
import ApiDirectives.Command.Run
import ApiDirectives.Command.Session
import ApiDirectives.Command.Suggestion
import ApiDirectives.Command.Switch
import ApiDirectives.Compilation
import ApiDirectives.Config
import ApiDirectives.Diagnostic
import ApiDirectives.Directive.Basic
import ApiDirectives.Directive.Kind
import ApiDirectives.Directive.Line
import ApiDirectives.Document.Basic
import ApiDirectives.Document.Reading
import ApiDirectives.Document.Written
import ApiDirectives.Draft.Assembly
import ApiDirectives.Draft.Basic
import ApiDirectives.Draft.Block
import ApiDirectives.Draft.Header
import ApiDirectives.Draft.Models
import ApiDirectives.Draft.Operations
import ApiDirectives.Files.Discovery
import ApiDirectives.Files.Encoding
import ApiDirectives.Files.Entry
import ApiDirectives.Files.Glob
import ApiDirectives.Files.Path
import ApiDirectives.Format.Basic
import ApiDirectives.Format.Json
import ApiDirectives.Format.Yaml.Cursor
import ApiDirectives.Format.Yaml.Datum
import ApiDirectives.Format.Yaml.Fault
import ApiDirectives.Format.Yaml.Node
import ApiDirectives.Format.Yaml.Scalar
import ApiDirectives.Format.Yaml.ScalarText
import ApiDirectives.Format.Yaml.Style
import ApiDirectives.Format.Yaml.Token
import ApiDirectives.Format.Yaml.Writer
import ApiDirectives.Location
import ApiDirectives.Log.Logger
import ApiDirectives.Log.Record
import ApiDirectives.Log.Sink
import ApiDirectives.Log.Stamp
import ApiDirectives.Main
import ApiDirectives.Numeral.Binary64
import ApiDirectives.Numeral.Reading
import ApiDirectives.Numeral.Shortest
import ApiDirectives.Resolve.Coercion
import ApiDirectives.Resolve.Constraint
import ApiDirectives.Resolve.Dialect
import ApiDirectives.Resolve.Document
import ApiDirectives.Resolve.Notice
import ApiDirectives.Resolve.Status
import ApiDirectives.Resolve.TypeExpr
import ApiDirectives.Source.Blocks
import ApiDirectives.Source.Comment
import ApiDirectives.Source.Declaration
import ApiDirectives.Source.Docstring
import ApiDirectives.Source.Fault
import ApiDirectives.Source.Grammar.Basic
import ApiDirectives.Source.Grammar.Case
import ApiDirectives.Source.Grammar.Expression
import ApiDirectives.Source.Grammar.Pattern
import ApiDirectives.Source.Grammar.Rule
import ApiDirectives.Source.Grammar.Slip
import ApiDirectives.Source.Grammar.Statement
import ApiDirectives.Source.Lexer
import ApiDirectives.Source.Literal
import ApiDirectives.Source.Number
import ApiDirectives.Source.Parse
import ApiDirectives.Source.Token
import ApiDirectives.Source.Tree
import ApiDirectives.Table
import ApiDirectives.Text.Base64
import ApiDirectives.Text.Blank
import ApiDirectives.Text.Digit
import ApiDirectives.Text.Encoding
import ApiDirectives.Text.Identifier
import ApiDirectives.Text.NormalForm
import ApiDirectives.Text.Printable
import ApiDirectives.Text.Quoted
import ApiDirectives.Text.Ranges
import ApiDirectives.Text.Utf8
import ApiDirectives.Text.Word
import ApiDirectives.Value
import ApiDirectives.Proofs.Text.Blank
import ApiDirectives.Proofs.Directive.TypeNames
import ApiDirectives.Proofs.Assembly.Operations
import ApiDirectives.Proofs.Compilation
import ApiDirectives.Proofs.Document.Nodes
import ApiDirectives.Proofs.Resolve.Findings
import ApiDirectives.Proofs.Resolve.References
import ApiDirectives.Proofs.Assembly.Models
import ApiDirectives.Proofs.Assembly.Fields
import ApiDirectives.Proofs.Assembly.FileOrder
import ApiDirectives.Proofs.Assembly.Roles
import ApiDirectives.Proofs.Sources
import ApiDirectives.Proofs.Source.Closing
import ApiDirectives.Proofs.Source.Cut
import ApiDirectives.Proofs.Source.Matching
import ApiDirectives.Proofs.Source.Scan
import ApiDirectives.Proofs.Source.Refusals
import ApiDirectives.Proofs.Resolve.Parts
import ApiDirectives.Proofs.Resolve.Version
import ApiDirectives.Proofs.Resolve.Dialects
import ApiDirectives.Proofs.Resolve.Required
import ApiDirectives.Proofs.Resolve.TypeSets
import ApiDirectives.Proofs.Resolve.Totality
import ApiDirectives.Proofs.Assembly.ByKey
import ApiDirectives.Proofs.Resolve.Notes
import ApiDirectives.Proofs.Assembly.Foreign
import ApiDirectives.Proofs.Assembly.Places
import ApiDirectives.Proofs.Origins
import ApiDirectives.Proofs.Assembly.Header
import ApiDirectives.Proofs.Assembly.Webhooks
import ApiDirectives.Proofs.Assembly.Schemes
import ApiDirectives.Proofs.Resolve.Wiring
import ApiDirectives.Proofs.Document.Members
import ApiDirectives.Proofs.Numeral.Binary64
import ApiDirectives.Proofs.Document.Bounds
import ApiDirectives.Proofs.Document.RoundTrip
import ApiDirectives.Proofs.Files.Path
import ApiDirectives.Proofs.Files.Tree
import ApiDirectives.Proofs.Files.Discovery
import ApiDirectives.Proofs.Files.Order
import ApiDirectives.Proofs.Command.Agreement
import ApiDirectives.Proofs.Resolve.Nullable
import ApiDirectives.Proofs.Numeral.Integers
import ApiDirectives.Proofs.Resolve.Unions
import ApiDirectives.Proofs.Resolve.Constraints
import ApiDirectives.Proofs.Directive.Quoted
import ApiDirectives.Proofs.Directive.Slots
import ApiDirectives.Proofs.Resolve.Shapes
import ApiDirectives.Proofs.Resolve.History
import ApiDirectives.Proofs.Directive.Lines
import ApiDirectives.Proofs.Command.Listing
import ApiDirectives.Proofs.Resolve.Coercion
import ApiDirectives.Proofs.Source.DeclarationLines
import ApiDirectives.Proofs.Source.Ownership
import ApiDirectives.Proofs.Directive.Routes
import ApiDirectives.Proofs.Assembly.Slots
import ApiDirectives.Proofs.Resolve.Finite
import ApiDirectives.Proofs.Command.Configuration
import ApiDirectives.Proofs.Log.Routing
import ApiDirectives.Proofs.Source.Grouping
import ApiDirectives.Proofs.Format.Json.Reading
import ApiDirectives.Proofs.Format.Json.Numerals
import ApiDirectives.Proofs.Format.Json.Spacing
import ApiDirectives.Proofs.Format.Json.RoundTrip
