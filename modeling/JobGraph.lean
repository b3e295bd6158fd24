import JobGraph.Artifact.Context
import JobGraph.Artifact.Node
import JobGraph.Artifact.SiteTable
import JobGraph.Artifact.SubmitFile
import JobGraph.Assembly
import JobGraph.Attempts
import JobGraph.Base64
import JobGraph.Binary64
import JobGraph.Blake3
import JobGraph.CommandLine
import JobGraph.Compiler
import JobGraph.Config.Basic
import JobGraph.Config.Reading
import JobGraph.Config.Validity
import JobGraph.Dashboard
import JobGraph.Disk
import JobGraph.Document
import JobGraph.Effect
import JobGraph.Emission
import JobGraph.Error
import JobGraph.FailureNotice
import JobGraph.FailureReport
import JobGraph.FileOp
import JobGraph.FileStore
import JobGraph.Flag
import JobGraph.Glob
import JobGraph.Inbox.Filter
import JobGraph.Inbox.Watch
import JobGraph.Json.Parser
import JobGraph.Json.Printer
import JobGraph.LogicalPath
import JobGraph.Main
import JobGraph.NameSet
import JobGraph.Path
import JobGraph.Placement.Basic
import JobGraph.Placement.Catalog
import JobGraph.Plan
import JobGraph.PlannedJob
import JobGraph.Program
import JobGraph.Regex.Basic
import JobGraph.Regex.Matching
import JobGraph.Regex.Parser
import JobGraph.Regex.Template
import JobGraph.Rehearsal.Sample
import JobGraph.Rehearsal.Stage
import JobGraph.Request
import JobGraph.Services
import JobGraph.Session
import JobGraph.SettingError
import JobGraph.Site.Eligible
import JobGraph.Site.Rules
import JobGraph.Site.Shortage
import JobGraph.Stageout
import JobGraph.Task.Basic
import JobGraph.Task.Malformed
import JobGraph.Task.Name
import JobGraph.Task.Reading
import JobGraph.Task.Record
import JobGraph.Text.Basic
import JobGraph.Text.Hex
import JobGraph.Text.Quoted
import JobGraph.Text.Utf8
import JobGraph.Throttle
import JobGraph.Toml.Parser
import JobGraph.Toml.Tree
import JobGraph.Unicode.Blank
import JobGraph.Unicode.Casing
import JobGraph.Unicode.Digit
import JobGraph.Unicode.Folding
import JobGraph.Unicode.Hidden
import JobGraph.Unicode.Lowercase
import JobGraph.Unicode.Range
import JobGraph.Unicode.Word
import JobGraph.Proofs.Plan.Numbering
import JobGraph.Proofs.Site.Narrowing
import JobGraph.Proofs.Files.Contents
import JobGraph.Proofs.Files.World
import JobGraph.Proofs.Emission.Outcome
import JobGraph.Proofs.Compilation.Stages
import JobGraph.Proofs.Compilation.Files
import JobGraph.Proofs.Compilation.AllOrNone
import JobGraph.Proofs.Program.Interruption
import JobGraph.Proofs.Files.Alike
import JobGraph.Proofs.Emission.Restart
import JobGraph.Proofs.Task.Checks
import JobGraph.Proofs.Task.Settings
import JobGraph.Proofs.LogicalPath.Joining
import JobGraph.Proofs.Plan.Outputs
import JobGraph.Proofs.Artifact.SubmitLines
import JobGraph.Proofs.Compilation.Prediction
import JobGraph.Proofs.Compilation.WorkingDirectory
import JobGraph.Proofs.Text.Encoded
import JobGraph.Proofs.Program.History
import JobGraph.Proofs.Compilation.Reporting
import JobGraph.Proofs.Text.Words
import JobGraph.Proofs.Json.Layout
import JobGraph.Proofs.Plan.Tokens
import JobGraph.Proofs.Artifact.Variables
import JobGraph.Proofs.Artifact.NodeLines
import JobGraph.Proofs.Artifact.Assignments
import JobGraph.Proofs.Regex.Replacing
import JobGraph.Proofs.Text.Listing
import JobGraph.Proofs.Artifact.UrlList
import JobGraph.Proofs.Program.Fallible
import JobGraph.Proofs.Compilation.Locating
import JobGraph.Proofs.Compilation.Attribution
import JobGraph.Proofs.Emission.Concurrency
import JobGraph.Proofs.Compilation.Entering
import JobGraph.Proofs.Compilation.Outages
import JobGraph.Proofs.Files.Faults
import JobGraph.Proofs.Emission.Careful
import JobGraph.Proofs.Emission.Collision
import JobGraph.Proofs.Files.Seclusion
import JobGraph.Proofs.Emission.Tokens
import JobGraph.Proofs.Compilation.Independence
import JobGraph.Proofs.LogicalPath.Homes
import JobGraph.Proofs.Json.Reading
import JobGraph.Proofs.Json.RoundTrip
import JobGraph.Proofs.Artifact.SiteRows
import JobGraph.Proofs.Artifact.SubmitContents
import JobGraph.Proofs.Artifact.LogicalLines
import JobGraph.Proofs.Plan.Monitoring
import JobGraph.Proofs.Inbox.Memory
import JobGraph.Proofs.Inbox.Workers
import JobGraph.Proofs.Inbox.Convergence
import JobGraph.Proofs.Document.Entries
import JobGraph.Proofs.Inbox.EventLoop
import JobGraph.Proofs.Inbox.Resubmission
import JobGraph.Proofs.Task.Attributes
import JobGraph.Proofs.Task.Declared
import JobGraph.Proofs.Text.LowerCase
import JobGraph.Proofs.Task.StageoutOrder
import JobGraph.Proofs.Task.Encoding
import JobGraph.Proofs.Task.Blanks
import JobGraph.Proofs.Placement.Lookup
import JobGraph.Proofs.Plan.Buckets
import JobGraph.Proofs.LogicalPath.Levels
import JobGraph.Proofs.LogicalPath.Submitters
import JobGraph.Proofs.Artifact.Payloads
import JobGraph.Proofs.Inbox.Histories
import JobGraph.Proofs.Text.Utf8
import JobGraph.Proofs.Files.JsonLines
import JobGraph.Proofs.Files.Order
import JobGraph.Proofs.Files.Histories
import JobGraph.Proofs.Compilation.Throttling
import JobGraph.Proofs.Program.FirstSuccess
