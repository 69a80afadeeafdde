import RuleReview.Text.Basic
import RuleReview.Text.Blank
import RuleReview.Text.Word
import RuleReview.Text.Case
import RuleReview.Names
import RuleReview.Script.Comment
import RuleReview.Script.Identifier
import RuleReview.Script.Ruleset
import RuleReview.Script.Parse
import RuleReview.Decimal.Shortest
import RuleReview.Decimal.Layout
import RuleReview.Json.Value
import RuleReview.Json.Print
import RuleReview.Json.Token
import RuleReview.Json.Tree
import RuleReview.Json.Read
import RuleReview.Delta
import RuleReview.Check.Measure
import RuleReview.Check.Report
import RuleReview.Verdict
import RuleReview.TestCase
import RuleReview.Script.Json
import RuleReview.Plan
import RuleReview.Template
import RuleReview.Text.Utf8
import RuleReview.Files.Tree
import RuleReview.Failure
import RuleReview.Digest.Sha256
import RuleReview.Trace
import RuleReview.Run.Event
import RuleReview.Run.Collaborators
import RuleReview.Run.Execute
import RuleReview.Model.Prompt
import RuleReview.Model.Reply
import RuleReview.Model.Analyst
import RuleReview.Knowledge
import RuleReview.Decimal.Nearest
import RuleReview.Toml.Value
import RuleReview.Toml.Fault
import RuleReview.Toml.Reader
import RuleReview.Toml.Quoted
import RuleReview.Toml.Number
import RuleReview.Toml.Date
import RuleReview.Toml.Table
import RuleReview.Toml.Document
import RuleReview.Toml.Record
import RuleReview.Settings
import RuleReview.Notes
import RuleReview.Model.Chat
import RuleReview.Review
import RuleReview.Calendar
import RuleReview.CommandLine.Options
import RuleReview.CommandLine.Program
import RuleReview.Files.Snapshot
import RuleReview.Main
import RuleReview.Proofs.Text.Trim
import RuleReview.Proofs.Script.Pass
import RuleReview.Proofs.Script.Mentions
import RuleReview.Proofs.Script.Outputs
import RuleReview.Proofs.Script.Keywords
import RuleReview.Proofs.Run.History
import RuleReview.Proofs.Run.Contacts
import RuleReview.Proofs.Run.Ledger
import RuleReview.Proofs.Run.Course
import RuleReview.Proofs.Run.Guards
import RuleReview.Proofs.Delta.Standing
import RuleReview.Proofs.Delta.Exact
import RuleReview.Proofs.Delta.Conduct
import RuleReview.Proofs.Delta.Mirror
import RuleReview.Proofs.Run.Inputs
import RuleReview.Proofs.Run.Writers
import RuleReview.Proofs.Script.Comments
import RuleReview.Proofs.Script.Chain
import RuleReview.Proofs.Check.Complete
import RuleReview.Proofs.Run.Unknown
import RuleReview.Proofs.Template.Explain
import RuleReview.Proofs.Run.Stretch
import RuleReview.Proofs.Review.Templates
import RuleReview.Proofs.Script.Content
import RuleReview.Proofs.Script.Insertion
import RuleReview.Proofs.Template.Revision
import RuleReview.Proofs.Run.Context
import RuleReview.Proofs.Json.Spelling
import RuleReview.Proofs.Json.Layout
import RuleReview.Proofs.Json.Nesting
import RuleReview.Proofs.Json.Values
import RuleReview.Proofs.Model.Payload
import RuleReview.Proofs.Model.Replies
import RuleReview.Proofs.Script.Shown
import RuleReview.Proofs.Check.Positions
import RuleReview.Proofs.Check.Selected
import RuleReview.Proofs.Check.Coverage
import RuleReview.Proofs.Template.Cases
import RuleReview.Proofs.Script.Paths
import RuleReview.Proofs.Script.Stripped
import RuleReview.Proofs.Script.Glue
import RuleReview.Proofs.Knowledge.Reading
import RuleReview.Proofs.Knowledge.Ranking
import RuleReview.Proofs.Script.Truncated
import RuleReview.Proofs.Check.Repeated
import RuleReview.Proofs.Json.Assembly
import RuleReview.Proofs.Json.Strings
import RuleReview.Proofs.Knowledge.Quoting
import RuleReview.Proofs.Knowledge.Terms
import RuleReview.Proofs.Model.Plans
