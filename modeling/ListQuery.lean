import ListQuery.Codec.Basic
import ListQuery.Codec.Event
import ListQuery.Codec.Policy
import ListQuery.Codec.Request
import ListQuery.Command.Arguments
import ListQuery.Command.Invocation
import ListQuery.Command.Report
import ListQuery.Command.Run
import ListQuery.Command.Shell
import ListQuery.Criterion
import ListQuery.Document.Basic
import ListQuery.Document.Decoded
import ListQuery.Document.Double
import ListQuery.Document.Entries
import ListQuery.Document.Magnitude
import ListQuery.Envelope
import ListQuery.Failure
import ListQuery.Http
import ListQuery.Json.Printer
import ListQuery.Json.Reader
import ListQuery.Log.Event
import ListQuery.Log.Filter
import ListQuery.Log.Logged
import ListQuery.Log.Pattern.Atom
import ListQuery.Log.Pattern.Group
import ListQuery.Log.Pattern.Mode
import ListQuery.Log.Pattern.Set
import ListQuery.Log.Pattern.Value
import ListQuery.Main
import ListQuery.Policy
import ListQuery.Proofs.Codec.Lossless
import ListQuery.Proofs.Codec.Printing
import ListQuery.Proofs.Codec.Recovery
import ListQuery.Proofs.Codec.Shape
import ListQuery.Proofs.Codec.Spelling
import ListQuery.Proofs.Command.JsonReport
import ListQuery.Proofs.Command.TextReport
import ListQuery.Proofs.Document.Overlay
import ListQuery.Proofs.Json.Grammar
import ListQuery.Proofs.Json.RoundTrip
import ListQuery.Proofs.Query.Form
import ListQuery.Proofs.Query.Source
import ListQuery.Proofs.Query.Spelling
import ListQuery.Proofs.Rejection.Message
import ListQuery.Proofs.Request.Acceptance
import ListQuery.Proofs.Request.Atomicity
import ListQuery.Proofs.Request.Canonical
import ListQuery.Proofs.Request.Decision
import ListQuery.Proofs.Request.Filter
import ListQuery.Proofs.Request.ListValue
import ListQuery.Proofs.Request.Loosening
import ListQuery.Proofs.Request.NumericLimit
import ListQuery.Proofs.Request.Page
import ListQuery.Proofs.Request.Relevance
import ListQuery.Proofs.Request.Reporting
import ListQuery.Proofs.Request.Sort
import ListQuery.Proofs.Request.Spelling
import ListQuery.Proofs.Settings.Layers
import ListQuery.Proofs.Settings.VariableName
import ListQuery.Proofs.Settings.Variables
import ListQuery.Proofs.Text.Decimal
import ListQuery.Proofs.Text.Numeral
import ListQuery.Proofs.Text.Quoted
import ListQuery.Proofs.Text.Regex
import ListQuery.Proofs.Text.Split
import ListQuery.Proofs.Text.Utf8
import ListQuery.Proofs.Toml.Sorted
import ListQuery.Proofs.Window.Walk
import ListQuery.Query.Form
import ListQuery.Query.Source
import ListQuery.Rejection
import ListQuery.Request.Directives
import ListQuery.Request.Filter
import ListQuery.Request.Page
import ListQuery.Request.Sort
import ListQuery.Rule
import ListQuery.Settings.Basic
import ListQuery.Settings.Load
import ListQuery.Settings.VariableValue
import ListQuery.Settings.Variables
import ListQuery.SortKey
import ListQuery.Text.Alphanumeric
import ListQuery.Text.Blank
import ListQuery.Text.Decimal
import ListQuery.Text.Hex
import ListQuery.Text.Hidden
import ListQuery.Text.Ink
import ListQuery.Text.Octets
import ListQuery.Text.Quoted
import ListQuery.Text.Regex
import ListQuery.Text.Split
import ListQuery.Text.Utf8
import ListQuery.Toml.Quoted
import ListQuery.Toml.Reader
import ListQuery.Toml.Scalar
import ListQuery.Toml.Scan
import ListQuery.Toml.Table
import ListQuery.Window
