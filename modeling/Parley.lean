import Parley.Dictionary
import Parley.Program
import Parley.Number.Binary64
import Parley.Number.Shortest
import Parley.Json.Value
import Parley.Json.Printer
import Parley.Json.Token
import Parley.Json.Document
import Parley.Text.Blank
import Parley.Text.WordClass
import Parley.Text.Quoted
import Parley.Json.Record
import Parley.Transcript.Turn
import Parley.Transcript.Protocol
import Parley.Transcript.Cut
import Parley.Transcript.Written
import Parley.Fault
import Parley.Event
import Parley.Digest.Sha256
import Parley.Calendar.CivilDate
import Parley.Calendar.Duration
import Parley.Intent.Shape
import Parley.Intent.CallError
import Parley.Intent.Acceptance
import Parley.Intent.Agreement
import Parley.Intent.Toolset
import Parley.Opening.Compaction
import Parley.Opening.Envelope
import Parley.Intent.Context
import Parley.Intent.RateWindow
import Parley.Intent.Chain
import Parley.Intent.Execution
import Parley.Text.Search
import Parley.Reply.Format
import Parley.Exchange.SystemLines
import Parley.Exchange.RequestIds
import Parley.Exchange.Responses
import Parley.Exchange.ResultCache
import Parley.Session.Locks
import Parley.Session.Cancellation
import Parley.Session.Backend
import Parley.Toml.Word
import Parley.Toml.Number
import Parley.Toml.Moment
import Parley.Toml.Table
import Parley.Toml.Value
import Parley.Toml.Lines
import Parley.Settings.Basic
import Parley.Settings.Issues
import Parley.Settings.Reading
import Parley.Settings.Written
import Parley.Exchange.Interface
import Parley.Exchange.Deletion
import Parley.Opening.Run
import Parley.Exchange.Round
import Parley.Exchange.Loop
import Parley.Office
import Parley.Rehearsal.Stage
import Parley.Proofs.Dictionary
import Parley.Proofs.Session.Locks
import Parley.Proofs.Session.Orderly
import Parley.Proofs.Exchange.Questions
import Parley.Proofs.Transcript.Protocol
import Parley.Proofs.Exchange.Protocol
import Parley.Proofs.Session.FileStore
import Parley.Proofs.Session.Backend
import Parley.Proofs.Office.Moves
import Parley.Proofs.Office.Protocol
import Parley.Proofs.Exchange.Failure
import Parley.Proofs.Office.Failure
import Parley.Proofs.Office.Attendance
import Parley.Proofs.Office.Alone
import Parley.Proofs.Office.History
import Parley.Proofs.Office.Line
import Parley.Proofs.Office.Serial
import Parley.Proofs.Program.Runs
import Parley.Proofs.Program.Agreement
import Parley.Proofs.Exchange.Rounds
import Parley.Proofs.Exchange.Endings
import Parley.Proofs.Exchange.Inquiries
import Parley.Proofs.Exchange.Calls
import Parley.Proofs.Exchange.Outcome
import Parley.Proofs.Exchange.Committed
import Parley.Proofs.Exchange.Reuse
import Parley.Proofs.Office.Answered
import Parley.Proofs.Json.Words
import Parley.Proofs.Json.Written
import Parley.Proofs.Transcript.Written
import Parley.Proofs.Session.Directory
import Parley.Proofs.Session.Interrupted
import Parley.Proofs.Session.Mirror
import Parley.Proofs.Session.Traffic
import Parley.Proofs.Session.Coherence
import Parley.Proofs.Exchange.Seeding
import Parley.Proofs.Office.Seeding
import Parley.Proofs.Office.Actions
import Parley.Proofs.Office.Tokens
import Parley.Proofs.Intent.Toolset
import Parley.Proofs.Intent.Layers
import Parley.Proofs.Intent.RateWindow
import Parley.Proofs.Program.Partial
import Parley.Proofs.Exchange.Dialogue
import Parley.Proofs.Exchange.Callable
import Parley.Proofs.Exchange.Cautious
import Parley.Proofs.Exchange.Concluded
import Parley.Proofs.Exchange.Stopped
import Parley.Proofs.Office.Stopping
import Parley.Proofs.Session.Reads
import Parley.Proofs.Office.Timed
import Parley.Proofs.Office.Neighbours
import Parley.Proofs.Office.Isolation
import Parley.Proofs.Exchange.RequestIds
import Parley.Proofs.Transcript.Violations
import Parley.Proofs.Exchange.Deletion
import Parley.Proofs.Intent.Agreement
import Parley.Proofs.Intent.Fingerprint
import Parley.Proofs.Number.Exact
import Parley.Proofs.Intent.Acceptance
import Parley.Proofs.Json.Reading
import Parley.Proofs.Intent.Schema
import Parley.Proofs.Number.Rounding
import Parley.Proofs.Number.Shortest
import Parley.Proofs.Json.Scaled
import Parley.Proofs.Json.Floats
import Parley.Proofs.Json.Values
import Parley.Proofs.Opening.Compaction
import Parley.Proofs.Opening.Envelope
import Parley.Proofs.Json.Paths
import Parley.Proofs.Opening.Kept
import Parley.Proofs.Opening.Bounds
import Parley.Proofs.Opening.Account
import Parley.Proofs.Opening.Policies
import Parley.Proofs.Json.Trailing
import Parley.Proofs.Transcript.Damaged
import Parley.Proofs.Exchange.Responses
import Parley.Proofs.Intent.Order
import Parley.Proofs.Intent.Nesting
import Parley.Proofs.Intent.Metered
import Parley.Proofs.Intent.Recoverable
import Parley.Proofs.Office.Metering
import Parley.Proofs.Intent.Catalog
import Parley.Proofs.Text.Search
import Parley.Proofs.Text.Pattern
import Parley.Proofs.Reply.Html
import Parley.Proofs.Reply.Markdown
import Parley.Proofs.Reply.Format
import Parley.Proofs.Exchange.Events
