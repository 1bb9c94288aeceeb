import RequestCheck.Calendar
import RequestCheck.Checker
import RequestCheck.Clock
import RequestCheck.Csv
import RequestCheck.Decimal
import RequestCheck.Double
import RequestCheck.Engine.Basic
import RequestCheck.Engine.Build
import RequestCheck.Engine.Script
import RequestCheck.Failure
import RequestCheck.Files.Disk
import RequestCheck.Files.Path
import RequestCheck.Journal.Basic
import RequestCheck.Journal.Format
import RequestCheck.Journal.Template
import RequestCheck.Json.Display
import RequestCheck.Json.Grammar
import RequestCheck.Json.Numeral
import RequestCheck.Json.Reader
import RequestCheck.Json.Value
import RequestCheck.Json.Writer
import RequestCheck.Ledger
import RequestCheck.Main
import RequestCheck.Metrics
import RequestCheck.Newsroom
import RequestCheck.Options.Basic
import RequestCheck.Options.Parse
import RequestCheck.Options.Usage
import RequestCheck.Oracle
import RequestCheck.Proofs.AppendOnly
import RequestCheck.Proofs.Attempts
import RequestCheck.Proofs.Bookkeeping
import RequestCheck.Proofs.Checking
import RequestCheck.Proofs.Complaints
import RequestCheck.Proofs.Csv
import RequestCheck.Proofs.Delivery
import RequestCheck.Proofs.Detail
import RequestCheck.Proofs.Diagnostics
import RequestCheck.Proofs.Disk
import RequestCheck.Proofs.Draining
import RequestCheck.Proofs.Endings
import RequestCheck.Proofs.ExistingFile
import RequestCheck.Proofs.Extension
import RequestCheck.Proofs.Failures
import RequestCheck.Proofs.Grammar
import RequestCheck.Proofs.Growth
import RequestCheck.Proofs.Interleaving
import RequestCheck.Proofs.Journal
import RequestCheck.Proofs.Lines
import RequestCheck.Proofs.Literals
import RequestCheck.Proofs.MetricsFile
import RequestCheck.Proofs.Newsroom
import RequestCheck.Proofs.Overruns
import RequestCheck.Proofs.Pairs
import RequestCheck.Proofs.Parsing
import RequestCheck.Proofs.Paths
import RequestCheck.Proofs.Quotation
import RequestCheck.Proofs.ReadBack
import RequestCheck.Proofs.Recording
import RequestCheck.Proofs.Rejections
import RequestCheck.Proofs.Repair
import RequestCheck.Proofs.Reports
import RequestCheck.Proofs.RoundTrip
import RequestCheck.Proofs.RuleFiles
import RequestCheck.Proofs.Runs
import RequestCheck.Proofs.Settings
import RequestCheck.Proofs.Shapes
import RequestCheck.Proofs.SingleRequest
import RequestCheck.Proofs.Sources
import RequestCheck.Proofs.Spelling
import RequestCheck.Proofs.Splitting
import RequestCheck.Proofs.Stages
import RequestCheck.Proofs.Streaming
import RequestCheck.Proofs.Successive
import RequestCheck.Proofs.Traces
import RequestCheck.Proofs.Transcript
import RequestCheck.Proofs.Unusable
import RequestCheck.Proofs.Utf8
import RequestCheck.Report
import RequestCheck.Request
import RequestCheck.RequestStream
import RequestCheck.RequestType
import RequestCheck.Rules
import RequestCheck.Run
import RequestCheck.RunMode
import RequestCheck.Runtime
import RequestCheck.Service
import RequestCheck.Session
import RequestCheck.Text.Basic
import RequestCheck.Text.Blank
import RequestCheck.Text.Digit
import RequestCheck.Text.Lines
import RequestCheck.Text.Printable
import RequestCheck.Text.Quoted
import RequestCheck.Utf8
import RequestCheck.Utf8.WellFormed
import RequestCheck.Verdict
