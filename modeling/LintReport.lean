import LintReport.Main
import LintReport.Proofs.Resolver.WrittenMap
import LintReport.Proofs.Resolver.Spoiled
import LintReport.Proofs.Report.Colors
import LintReport.Resolver.History
import LintReport.Proofs.Report.Conservation
import LintReport.Proofs.Lint.Tally
import LintReport.Proofs.Report.Merge
import LintReport.Proofs.Base64.Codec
import LintReport.Proofs.Resolver.Opened
import LintReport.Proofs.SourceMap.Inline
import LintReport.Proofs.Path.Normal
import LintReport.Proofs.Resolver.Placement
import LintReport.Proofs.Report.Count
import LintReport.Proofs.SourceMap.Standard
import LintReport.Proofs.CommandLine.Outcome
import LintReport.Proofs.CommandLine.Input
import LintReport.Proofs.SourceMap.Choice
import LintReport.Proofs.Resolver.Shape
import LintReport.Proofs.Path.Relative
import LintReport.Proofs.Report.Headers
import LintReport.Proofs.Report.WayBack
import LintReport.Proofs.SourceMap.Unusable
import LintReport.Proofs.Report.Degraded
import LintReport.Proofs.SourceMap.Bounds
import LintReport.Proofs.Report.Messages
import LintReport.Proofs.SourceMap.Canonical
import LintReport.Proofs.SourceMap.Pattern
import LintReport.Proofs.Table.Visible
import LintReport.Proofs.Url.Spelling
import LintReport.Report.Session
import LintReport.Proofs.Report.Refused
import LintReport.Proofs.SourceMap.Neutral
import LintReport.Proofs.Value.Shown
import LintReport.Proofs.Settings.Entries
import LintReport.Proofs.CommandLine.Settings
import LintReport.Proofs.Log.Requests
