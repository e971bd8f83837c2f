import BigO.Source.Comment
import BigO.Source.Literal
import BigO.Analysis
import BigO.Json.Encoding
import BigO.Json.Display
import BigO.Text.PrintableRanges
import BigO.Text.CaseRanges
import BigO.Settings
import BigO.Request
import BigO.Report.Basic
import BigO.Report.Prompt
import BigO.Report.Reporter
import BigO.Service.Layer
import BigO.Service.Launch
import BigO.SelfCheck.Reference
import BigO.SelfCheck.Concurrency
import BigO.Compression.Wrapping
import BigO.Main
import BigO.Proofs.Text.Scan
import BigO.Proofs.Source.Literal
import BigO.Proofs.Analysis.Contents
import BigO.Proofs.Source.BlockComment
import BigO.Proofs.Source.LineComment
import BigO.Proofs.Analysis.Comments
import BigO.Proofs.Number.Rounding
import BigO.Proofs.Score
import BigO.Proofs.Analysis.Total
import BigO.Proofs.Text.Line
import BigO.Proofs.Text.Occurrence
import BigO.Proofs.Text.Word
import BigO.Proofs.Analysis.Verdict
import BigO.Proofs.Nesting
import BigO.Proofs.Analysis.Decisions
import BigO.Proofs.Source.Padding
import BigO.Proofs.Source.PaddedScan
import BigO.Proofs.Source.LineEnding
import BigO.Proofs.Braced.Pattern
import BigO.Proofs.Indented.Pattern
import BigO.Proofs.Analysis.Blank
import BigO.Proofs.Analysis.CommentedOut
import BigO.Proofs.Braced.LineEnding
import BigO.Proofs.Braced.Loop
import BigO.Proofs.Braced.Rules
import BigO.Proofs.Analysis.Loop
import BigO.Proofs.Indented.LineEnding
import BigO.Proofs.Analysis.LineEnding
import BigO.Proofs.Braced.Consistency
import BigO.Proofs.Provider.Exchange
import BigO.Proofs.Json.Writing
import BigO.Proofs.Provider.Request
import BigO.Proofs.Provider.Reading
import BigO.Proofs.Provider.Block
import BigO.Proofs.Provider.Rail
import BigO.Proofs.Provider.Completion
import BigO.Proofs.Provider.LastError
import BigO.Proofs.Report.Delivery
import BigO.Proofs.Report.Reporter
import BigO.Proofs.Provider.Alike
import BigO.Proofs.Report.Session
import BigO.Proofs.Report.Secrecy
import BigO.Proofs.Report.Attribution
import BigO.Proofs.Service.Layer
import BigO.Proofs.Service.Endpoint
import BigO.Proofs.Service.Hardening
import BigO.Proofs.Service.Availability
import BigO.Proofs.Text.Lower
import BigO.Proofs.Request
import BigO.Proofs.Json.Reading
import BigO.Proofs.Service.Delivery
import BigO.Proofs.Service.Agreement
import BigO.Proofs.Number.HeaderInteger
import BigO.Proofs.Service.Size
import BigO.Proofs.Text.Encoding
import BigO.Proofs.Braced.Outline
import BigO.Proofs.Nesting.Concatenation
import BigO.Proofs.Text.Grammar
import BigO.Proofs.Braced.Site
import BigO.Proofs.Text.Overlap
import BigO.Proofs.Braced.Seen
import BigO.Proofs.Braced.Recursion
import BigO.Proofs.Nesting.Segment
import BigO.Proofs.Indented.Definition
import BigO.Proofs.Text.Search
import BigO.Proofs.Indented.Call
import BigO.Proofs.Indented.Enclosed
import BigO.Proofs.Indented.Halving
import BigO.Proofs.Indented.Comprehension
import BigO.Proofs.Braced.Midpoint
import BigO.Proofs.Text.Run
import BigO.Proofs.Analysis.DecisionRuns
import BigO.Proofs.Source.Removal
import BigO.Proofs.Source.Division
import BigO.Proofs.Source.Template
import BigO.Proofs.Json.Limits
import BigO.Proofs.Provider.Recovery
import BigO.Proofs.Text.Replacement
import BigO.Proofs.Label
import BigO.Proofs.Json.Distinct
import BigO.Proofs.Json.Equality
import BigO.Proofs.SelfCheck.Concurrency
