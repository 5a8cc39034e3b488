import ServiceContracts.Analysis
import ServiceContracts.Boundary
import ServiceContracts.CallTarget
import ServiceContracts.CommandLine.Arguments
import ServiceContracts.CommandLine.Command
import ServiceContracts.Dependency.Conflict
import ServiceContracts.Dependency.Version
import ServiceContracts.Distinct
import ServiceContracts.Document.Calendar
import ServiceContracts.Document.Json.Reader
import ServiceContracts.Document.Json.Writer
import ServiceContracts.Document.SetOrder
import ServiceContracts.Document.Shown
import ServiceContracts.Document.Value
import ServiceContracts.Document.Yaml.Cursor
import ServiceContracts.Document.Yaml.Moment
import ServiceContracts.Document.Yaml.Node
import ServiceContracts.Document.Yaml.Reader
import ServiceContracts.Document.Yaml.Scalar
import ServiceContracts.Document.Yaml.Spelled
import ServiceContracts.Document.Yaml.Tag
import ServiceContracts.Document.Yaml.Token
import ServiceContracts.Document.Yaml.Tokens
import ServiceContracts.Fact
import ServiceContracts.Host
import ServiceContracts.Interpolation
import ServiceContracts.Issue
import ServiceContracts.Log.Event
import ServiceContracts.Log.Level
import ServiceContracts.Matching
import ServiceContracts.Mount.Build
import ServiceContracts.Mount.Chain
import ServiceContracts.Mount.Cycle
import ServiceContracts.Mount.Fault
import ServiceContracts.Mount.Graph
import ServiceContracts.Number.Binary64
import ServiceContracts.Number.Integer
import ServiceContracts.Number.Shortest
import ServiceContracts.Number.Spelling
import ServiceContracts.Path
import ServiceContracts.Report.Json
import ServiceContracts.Report.Markdown
import ServiceContracts.Route
import ServiceContracts.Schema.Checked
import ServiceContracts.Schema.Count
import ServiceContracts.Schema.Field
import ServiceContracts.Schema.Findings
import ServiceContracts.Schema.Snapshot
import ServiceContracts.Settings
import ServiceContracts.Snapshot
import ServiceContracts.Source.Entry
import ServiceContracts.Source.Load
import ServiceContracts.Source.Output
import ServiceContracts.Text.Base64
import ServiceContracts.Text.Blank
import ServiceContracts.Text.Case
import ServiceContracts.Text.Case.Table
import ServiceContracts.Text.CodePoint
import ServiceContracts.Text.Digit
import ServiceContracts.Text.Printable
import ServiceContracts.Text.Quoted
import ServiceContracts.Text.Ranges
import ServiceContracts.Text.Similarity
import ServiceContracts.Text.Split
import ServiceContracts.Text.Style
import ServiceContracts.Text.Utf8
import ServiceContracts.Text.Word
import ServiceContracts.Verb
import ServiceContracts.Main
import ServiceContracts.Proofs.Analysis.Endpoints
import ServiceContracts.Proofs.Analysis.Failure
import ServiceContracts.Proofs.Analysis.Isolation
import ServiceContracts.Proofs.Analysis.Streams
import ServiceContracts.Proofs.Analysis.Widening
import ServiceContracts.Proofs.Boundary
import ServiceContracts.Proofs.Boundary.Coherent
import ServiceContracts.Proofs.Boundary.Merge
import ServiceContracts.Proofs.Boundary.Widening
import ServiceContracts.Proofs.CallTarget.Absolute
import ServiceContracts.Proofs.CallTarget.Authority
import ServiceContracts.Proofs.CallTarget.Interpolated
import ServiceContracts.Proofs.CallTarget.Paths
import ServiceContracts.Proofs.CallTarget.Relative
import ServiceContracts.Proofs.CallTarget.Template
import ServiceContracts.Proofs.CallTarget.Variable
import ServiceContracts.Proofs.Dependency.Alternatives
import ServiceContracts.Proofs.Dependency.Chosen
import ServiceContracts.Proofs.Dependency.Clean
import ServiceContracts.Proofs.Dependency.Numeral
import ServiceContracts.Proofs.Dependency.Order
import ServiceContracts.Proofs.Dependency.Overlong
import ServiceContracts.Proofs.Dependency.Report
import ServiceContracts.Proofs.Dependency.Severity
import ServiceContracts.Proofs.Dependency.Spelled
import ServiceContracts.Proofs.Dependency.Written
import ServiceContracts.Proofs.Grouping
import ServiceContracts.Proofs.Interpolation.Expand
import ServiceContracts.Proofs.Matching.Answer
import ServiceContracts.Proofs.Matching.Decision
import ServiceContracts.Proofs.Matching.Due
import ServiceContracts.Proofs.Matching.Local
import ServiceContracts.Proofs.Matching.Suggestion
import ServiceContracts.Proofs.Matching.Template
import ServiceContracts.Proofs.Matching.Unused
import ServiceContracts.Proofs.Matching.Widening
import ServiceContracts.Proofs.Matching.Winner
import ServiceContracts.Proofs.Mount.Acyclic
import ServiceContracts.Proofs.Mount.Chains
import ServiceContracts.Proofs.Mount.Fault
import ServiceContracts.Proofs.Mount.FullPath
import ServiceContracts.Proofs.Mount.Growth
import ServiceContracts.Proofs.Mount.Image
import ServiceContracts.Proofs.Mount.Maximal
import ServiceContracts.Proofs.Mount.Repositories
import ServiceContracts.Proofs.Mount.Roles
import ServiceContracts.Proofs.Path.Canonical
import ServiceContracts.Proofs.Path.Clean
import ServiceContracts.Proofs.Path.Join
import ServiceContracts.Proofs.Path.Segments
import ServiceContracts.Proofs.Path.Unchanged
import ServiceContracts.Proofs.Report.Account
import ServiceContracts.Proofs.Report.Delimiter
import ServiceContracts.Proofs.Report.Json
import ServiceContracts.Proofs.Route.Covering
import ServiceContracts.Proofs.Route.Grammar
import ServiceContracts.Proofs.Source.Loading
import ServiceContracts.Proofs.Text.Trim
import ServiceContracts.Proofs.Verb
