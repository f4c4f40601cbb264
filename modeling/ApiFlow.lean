import ApiFlow.Address.Basic
import ApiFlow.Address.Host
import ApiFlow.Address.Query
import ApiFlow.Assertion.Comparison
import ApiFlow.Assertion.Basic
import ApiFlow.Body.Path
import ApiFlow.CommandLine.Options
import ApiFlow.CommandLine.Program
import ApiFlow.CommandLine.Usage
import ApiFlow.Duration
import ApiFlow.Fault
import ApiFlow.Files.Path
import ApiFlow.Files.Tree
import ApiFlow.Flow.Basic
import ApiFlow.Flow.Diagram
import ApiFlow.Flow.Directive
import ApiFlow.Flow.Document
import ApiFlow.Flow.Fence
import ApiFlow.Flow.Order
import ApiFlow.Flow.Request
import ApiFlow.Flow.Step
import ApiFlow.Json.Basic
import ApiFlow.Json.Parser
import ApiFlow.Json.Printer
import ApiFlow.Main
import ApiFlow.Note
import ApiFlow.Number.Decimal
import ApiFlow.Number.Double
import ApiFlow.Number.Integer
import ApiFlow.Number.Shortest
import ApiFlow.Pattern.Basic
import ApiFlow.Pattern.Character
import ApiFlow.Pattern.Error
import ApiFlow.Pattern.Matcher
import ApiFlow.Pattern.Parser
import ApiFlow.Pattern.Program
import ApiFlow.Pattern.Reader
import ApiFlow.Proofs.Order.Least
import ApiFlow.Proofs.Order.Satisfiable
import ApiFlow.Proofs.Run.Captured
import ApiFlow.Proofs.Run.Checks
import ApiFlow.Proofs.Run.Command
import ApiFlow.Proofs.Run.Escape
import ApiFlow.Proofs.Run.Frame
import ApiFlow.Proofs.Run.Hazard
import ApiFlow.Proofs.Run.Naming
import ApiFlow.Proofs.Run.Outcome
import ApiFlow.Proofs.Run.Preparing
import ApiFlow.Proofs.Run.Sending
import ApiFlow.Proofs.Run.Verdict
import ApiFlow.Proofs.Variable.Writes
import ApiFlow.Report
import ApiFlow.Request.Basic
import ApiFlow.Request.Prepare
import ApiFlow.Run.Check
import ApiFlow.Run.CommandStep
import ApiFlow.Run.Runner
import ApiFlow.Run.RequestStep
import ApiFlow.Run.Retry
import ApiFlow.Run.State
import ApiFlow.Run.Step
import ApiFlow.Scenario.Line
import ApiFlow.Settings.Basic
import ApiFlow.Settings.Load
import ApiFlow.Settings.Read
import ApiFlow.Shell.Arithmetic
import ApiFlow.Shell.Builtin
import ApiFlow.Shell.Condition
import ApiFlow.Shell.Fields
import ApiFlow.Shell.Format
import ApiFlow.Shell.Machine
import ApiFlow.Shell.OptionWalk
import ApiFlow.Shell.Program
import ApiFlow.Shell.Program.Edit
import ApiFlow.Shell.Program.Files
import ApiFlow.Shell.Program.Lines
import ApiFlow.Shell.Program.Options
import ApiFlow.Shell.Program.Regular
import ApiFlow.Shell.Program.Search
import ApiFlow.Shell.Program.Starter
import ApiFlow.Shell.Program.Sum
import ApiFlow.Shell.Reading
import ApiFlow.Shell.Run
import ApiFlow.Shell.Script
import ApiFlow.Shell.Signal
import ApiFlow.Summary.Basic
import ApiFlow.Summary.Render
import ApiFlow.Table
import ApiFlow.Template.Basic
import ApiFlow.Template.Builtin
import ApiFlow.Text.Arguments
import ApiFlow.Text.Basic
import ApiFlow.Text.Case
import ApiFlow.Text.CaseTable
import ApiFlow.Text.CharacterName
import ApiFlow.Text.Class
import ApiFlow.Text.HiddenTable
import ApiFlow.Text.Identifier
import ApiFlow.Text.Names.Alphabets
import ApiFlow.Text.Names.Ancient
import ApiFlow.Text.Names.Pictures
import ApiFlow.Text.Names.Syllables
import ApiFlow.Text.Names.Symbols
import ApiFlow.Text.Quoted
import ApiFlow.Text.Utf8
import ApiFlow.Text.WordTable
import ApiFlow.Variable.Capture
import ApiFlow.Variable.Context
import ApiFlow.Yaml.Assembly
import ApiFlow.Yaml.Binary
import ApiFlow.Yaml.Calendar
import ApiFlow.Yaml.Cursor
import ApiFlow.Yaml.Document
import ApiFlow.Yaml.Error
import ApiFlow.Yaml.Graph
import ApiFlow.Yaml.Layout
import ApiFlow.Yaml.Literal
import ApiFlow.Yaml.Read
import ApiFlow.Yaml.Scalar
import ApiFlow.Yaml.Stamp
import ApiFlow.Yaml.Tag
import ApiFlow.Yaml.Token
import ApiFlow.Yaml.Value
import ApiFlow.Proofs.Run.Effect
import ApiFlow.Proofs.Run.Turns
import ApiFlow.Proofs.Run.Books
import ApiFlow.Proofs.Run.Visible
import ApiFlow.Proofs.Text.Fields
import ApiFlow.Proofs.Text.Lines
import ApiFlow.Proofs.Request.SentBack
import ApiFlow.Proofs.Address.Entries
import ApiFlow.Proofs.Request.HeaderLayers
import ApiFlow.Proofs.Run.CaptureRoutes
import ApiFlow.Proofs.Flow.RoundTrip
import ApiFlow.Proofs.Flow.Metadata
import ApiFlow.Proofs.Number.Digits
import ApiFlow.Proofs.Flow.StepText
import ApiFlow.Proofs.Run.Standing
import ApiFlow.Proofs.Run.Flags
import ApiFlow.Proofs.Run.Ready
import ApiFlow.Proofs.Run.Admission
import ApiFlow.Proofs.Run.Attempts
import ApiFlow.Proofs.Template.Rendering
import ApiFlow.Proofs.Assertion.Quoted
import ApiFlow.Proofs.Assertion.Integers
import ApiFlow.Proofs.Flow.Identity
import ApiFlow.Proofs.Flow.Relocation
import ApiFlow.Proofs.Flow.Sequel
import ApiFlow.Proofs.Flow.SameRequest
import ApiFlow.Proofs.Number.Rounding
import ApiFlow.Proofs.Run.Lap
import ApiFlow.Proofs.Run.Polling
import ApiFlow.Proofs.Flow.Recovery
import ApiFlow.Proofs.Request.PlainBody
import ApiFlow.Proofs.Run.Alike
import ApiFlow.Proofs.Run.Watched
import ApiFlow.Proofs.Template.Undrawn
import ApiFlow.Proofs.Run.SeenAlike
import ApiFlow.Proofs.Run.AnyOrder
import ApiFlow.Proofs.Template.Modes
import ApiFlow.Proofs.Run.CommandVerdict
import ApiFlow.Proofs.Run.History
import ApiFlow.Proofs.Run.FromFile
import ApiFlow.Proofs.Settings.Loading
import ApiFlow.Proofs.CommandLine.Status
import ApiFlow.Proofs.Body.EscapedDots
import ApiFlow.Proofs.Body.Location
import ApiFlow.Proofs.Body.Lookups
import ApiFlow.Proofs.Template.Refilled
import ApiFlow.Proofs.Flow.Fences
import ApiFlow.Proofs.Flow.MetaBlocks
import ApiFlow.Proofs.Assertion.Expressions
import ApiFlow.Proofs.Assertion.Measures
import ApiFlow.Proofs.Flow.HeadAndContent
import ApiFlow.Proofs.CommandLine.LongOptions
import ApiFlow.Proofs.Scenario.RoundTrip
import ApiFlow.Proofs.Yaml.Written
import ApiFlow.Proofs.Settings.Validation
import ApiFlow.Proofs.Settings.ProjectRoot
import ApiFlow.Proofs.Text.Quoting
import ApiFlow.Proofs.Summary.Latency
import ApiFlow.Proofs.Summary.Box
import ApiFlow.Proofs.Variable.Ledger
