import AssessmentItem.Area
import AssessmentItem.Arena
import AssessmentItem.Binary64.Literal
import AssessmentItem.Binary64.Parts
import AssessmentItem.Binary64.Shortest
import AssessmentItem.Binary64.Text
import AssessmentItem.Command
import AssessmentItem.Decimal
import AssessmentItem.Declaration
import AssessmentItem.Document.Basic
import AssessmentItem.Document.Decode
import AssessmentItem.Document.Encode
import AssessmentItem.Document.Error
import AssessmentItem.Document.Item
import AssessmentItem.Document.Node
import AssessmentItem.Evaluation.Arithmetic
import AssessmentItem.Evaluation.Basic
import AssessmentItem.Evaluation.Comparison
import AssessmentItem.Evaluation.Containers
import AssessmentItem.Evaluation.Fault
import AssessmentItem.Evaluation.Operand
import AssessmentItem.Evaluation.Operators
import AssessmentItem.Evaluation.Scoring
import AssessmentItem.Expression.Basic
import AssessmentItem.Expression.Operator
import AssessmentItem.Expression.Signature
import AssessmentItem.FieldMap
import AssessmentItem.Integer
import AssessmentItem.Integer.Literal
import AssessmentItem.Item.Basic
import AssessmentItem.Item.References
import AssessmentItem.Json.Basic
import AssessmentItem.Json.Decode
import AssessmentItem.Json.Number
import AssessmentItem.Json.Reader
import AssessmentItem.Json.Writer
import AssessmentItem.Main
import AssessmentItem.Pattern.Basic
import AssessmentItem.Pattern.Flags
import AssessmentItem.Pattern.Library
import AssessmentItem.Pattern.Limits
import AssessmentItem.Pattern.Reader
import AssessmentItem.Processing.Basic
import AssessmentItem.Processing.Error
import AssessmentItem.Processing.Report
import AssessmentItem.Proofs.Arena
import AssessmentItem.Proofs.Computation
import AssessmentItem.Proofs.Declarations
import AssessmentItem.Proofs.Document.Nodes
import AssessmentItem.Proofs.Document.RoundTrip
import AssessmentItem.Proofs.Document.Trees
import AssessmentItem.Proofs.Document.Typing
import AssessmentItem.Proofs.Evaluation.Basic
import AssessmentItem.Proofs.Evaluation.Documents
import AssessmentItem.Proofs.Evaluation.Families
import AssessmentItem.Proofs.Evaluation.Operands
import AssessmentItem.Proofs.Evaluation.Operators
import AssessmentItem.Proofs.Json.Objects
import AssessmentItem.Proofs.Layout.Expressions
import AssessmentItem.Proofs.Layout.Rules
import AssessmentItem.Proofs.Processing.Assignments
import AssessmentItem.Proofs.Processing.Effects
import AssessmentItem.Proofs.Processing.Replay
import AssessmentItem.Proofs.Processing.Runs
import AssessmentItem.Proofs.References.Expressions
import AssessmentItem.Proofs.References.Rules
import AssessmentItem.Proofs.Response.Binding
import AssessmentItem.Proofs.Response.Validation
import AssessmentItem.Proofs.Session.Calls
import AssessmentItem.Proofs.Session.Counters
import AssessmentItem.Proofs.Session.Failure
import AssessmentItem.Proofs.Session.Reset
import AssessmentItem.Proofs.Session.Stores
import AssessmentItem.Proofs.Session.Traces
import AssessmentItem.Proofs.Session.Typing
import AssessmentItem.Proofs.Session.Validity
import AssessmentItem.Proofs.Store.Slots
import AssessmentItem.Proofs.Store.Typing
import AssessmentItem.Proofs.Value.Typing
import AssessmentItem.Random.Generator
import AssessmentItem.Random.Stream
import AssessmentItem.Response.Binding
import AssessmentItem.Response.Submission
import AssessmentItem.Response.Validation
import AssessmentItem.Rounding
import AssessmentItem.Rule
import AssessmentItem.Session.Attempt
import AssessmentItem.Session.Basic
import AssessmentItem.Session.Permissions
import AssessmentItem.Session.SettingsFile
import AssessmentItem.Session.Snapshot
import AssessmentItem.Session.TimeSpan
import AssessmentItem.Store
import AssessmentItem.Text.Blank
import AssessmentItem.Text.HexDigit
import AssessmentItem.Unicode.CaseFold
import AssessmentItem.Unicode.Category
import AssessmentItem.Unicode.Category.Letters
import AssessmentItem.Unicode.Category.Marks
import AssessmentItem.Unicode.Category.Punctuation
import AssessmentItem.Unicode.Category.Symbols
import AssessmentItem.Unicode.LowerCase
import AssessmentItem.Unicode.Property
import AssessmentItem.Unicode.Script
import AssessmentItem.Unicode.Span
import AssessmentItem.Value.BaseType
import AssessmentItem.Value.Basic
import AssessmentItem.Value.Container
import AssessmentItem.Value.Literal
import AssessmentItem.Value.Scalar
import AssessmentItem.Proofs.Session.Preparation
import AssessmentItem.Proofs.Session.Beginning
import AssessmentItem.Proofs.Session.Rescoring
import AssessmentItem.Proofs.Processing.Execution
import AssessmentItem.Proofs.Session.Completion
import AssessmentItem.Proofs.Evaluation.Footprint
import AssessmentItem.Proofs.Value.Matching
import AssessmentItem.Proofs.Value.Equality
import AssessmentItem.Proofs.Value.Inclusion
import AssessmentItem.Proofs.Evaluation.Containers
import AssessmentItem.Proofs.Evaluation.Readings
import AssessmentItem.Proofs.Evaluation.Applications
import AssessmentItem.Proofs.Integer
import AssessmentItem.Proofs.Evaluation.Integers
import AssessmentItem.Proofs.Binary64.Values
import AssessmentItem.Proofs.Binary64.Rounding
import AssessmentItem.Proofs.Binary64.Operations
import AssessmentItem.Proofs.Binary64.Shortest
import AssessmentItem.Proofs.Evaluation.Comparison
import AssessmentItem.Proofs.Evaluation.Numbers
import AssessmentItem.Proofs.Evaluation.Divisibility
import AssessmentItem.Proofs.Evaluation.CommonDivisors
import AssessmentItem.Proofs.Processing.Lookup
import AssessmentItem.Proofs.Decimal.Basic
import AssessmentItem.Proofs.Decimal.Figures
import AssessmentItem.Proofs.Decimal.Float
import AssessmentItem.Proofs.Rounding
import AssessmentItem.Proofs.Evaluation.Rounding
import AssessmentItem.Proofs.Binary64.Order
import AssessmentItem.Proofs.Evaluation.Extremes
import AssessmentItem.Proofs.Evaluation.Truth
import AssessmentItem.Proofs.Evaluation.MappedResponses
import AssessmentItem.Proofs.Evaluation.MappedPoints
import AssessmentItem.Proofs.Evaluation.Building
import AssessmentItem.Proofs.Binary64.Literal
import AssessmentItem.Proofs.Integer.Literal
import AssessmentItem.Proofs.Value.Literal
import AssessmentItem.Proofs.Session.Binding
import AssessmentItem.Proofs.Session.Tries
import AssessmentItem.Proofs.Processing.Exits
import AssessmentItem.Proofs.Processing.Fragments
import AssessmentItem.Proofs.Declarations.Acceptance
import AssessmentItem.Proofs.Pattern.Matching
import AssessmentItem.Proofs.Pattern.Confined
import AssessmentItem.Proofs.Pattern.Escapes
import AssessmentItem.Proofs.Pattern.Classes
import AssessmentItem.Proofs.Pattern.Groups
import AssessmentItem.Proofs.Pattern.Rounds
import AssessmentItem.Proofs.Pattern.Anchoring
import AssessmentItem.Proofs.Response.Patterns
import AssessmentItem.Proofs.Arena.Ancestors
import AssessmentItem.Proofs.Document.Expressions
import AssessmentItem.Proofs.Document.Paths
import AssessmentItem.Proofs.Evaluation.Visits
import AssessmentItem.Proofs.Evaluation.Propagation
import AssessmentItem.Proofs.Json.Equality
import AssessmentItem.Proofs.Value.Rendering
import AssessmentItem.Proofs.Session.Snapshots
import AssessmentItem.Proofs.Evaluation.Ranges
import AssessmentItem.Proofs.Decimal.Leading
import AssessmentItem.Proofs.Binary64.Shares
import AssessmentItem.Proofs.Area
