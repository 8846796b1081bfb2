import ScriptReview.Json.Reader
import ScriptReview.Main
import ScriptReview.Proofs.Report.Metrics
import ScriptReview.Proofs.Scan.Joined
import ScriptReview.Proofs.Scan.Findings
import ScriptReview.Proofs.Session.Step
import ScriptReview.Proofs.Session.History
import ScriptReview.Proofs.Session.BlankCode
import ScriptReview.Proofs.Registry.Edits
import ScriptReview.Proofs.Scan.Selection
import ScriptReview.Proofs.Json.RoundTrip
import ScriptReview.Proofs.Report.Json
import ScriptReview.Proofs.Report.Records
import ScriptReview.Proofs.Registry.Toggles
import ScriptReview.Proofs.CommandLine.Analyze
import ScriptReview.Proofs.Scan.Padded
import ScriptReview.Proofs.Registry.Configured
import ScriptReview.Proofs.Config.RoundTrip
import ScriptReview.Proofs.Json.Fields
import ScriptReview.Proofs.Render.Rows
import ScriptReview.Proofs.Report.Decoded
import ScriptReview.Proofs.Scan.Sources
import ScriptReview.Proofs.Render.Faithful
import ScriptReview.Proofs.CommandLine.Example
import ScriptReview.Proofs.Render.RuleList
import ScriptReview.Proofs.CommandLine.List
import ScriptReview.Proofs.Report.Complexity
import ScriptReview.Proofs.Scan.ScriptTrim
import ScriptReview.Proofs.Workspace.FileTree
import ScriptReview.Proofs.Workspace.Runs
import ScriptReview.Proofs.CommandLine.Reading
import ScriptReview.Proofs.CommandLine.Parse
import ScriptReview.Proofs.Scan.Triggers
import ScriptReview.Proofs.CommandLine.BlankInput
import ScriptReview.Proofs.Scan.Modernized
import ScriptReview.Proofs.Report.Functions
import ScriptReview.Proofs.Scan.Semicolons
import ScriptReview.Proofs.Render.Terminal
import ScriptReview.Proofs.Render.Emphasis
import ScriptReview.Proofs.Toml.Remarks
import ScriptReview.Proofs.Config.Template
import ScriptReview.Proofs.Workspace.FreshConfig
