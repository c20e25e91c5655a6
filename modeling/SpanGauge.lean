import SpanGauge.Shell
import SpanGauge.Clipboard
import SpanGauge.Browser.View
import SpanGauge.Main
import SpanGauge.Proofs.Span.Invariant
import SpanGauge.Proofs.Span.Pairing
import SpanGauge.Proofs.Span.Tracking
import SpanGauge.Proofs.Span.TwoStage
import SpanGauge.Proofs.Span.Matching
import SpanGauge.Proofs.Lexer.Text
import SpanGauge.Proofs.Lexer.Segment
import SpanGauge.Proofs.Signature.Form
import SpanGauge.Proofs.Span.Compose
import SpanGauge.Proofs.Span.Inside
import SpanGauge.Proofs.Report.Order
import SpanGauge.Proofs.Span.Layout
import SpanGauge.Proofs.Analysis.Exact
import SpanGauge.Proofs.Analysis.Compare
import SpanGauge.Proofs.Text.Utf8
import SpanGauge.Proofs.Ignore.Marks
import SpanGauge.Proofs.Ignore.Wildcard
import SpanGauge.Proofs.FileTree.Parts
import SpanGauge.Proofs.FileTree.Resolve
import SpanGauge.Proofs.Walk.Exact
import SpanGauge.Proofs.Program.Failure
import SpanGauge.Proofs.Analysis.Metered
import SpanGauge.Proofs.Editor.Command
import SpanGauge.Proofs.Browser.Shown
import SpanGauge.Proofs.Browser.Fresh
import SpanGauge.Proofs.Signature.Control
import SpanGauge.Proofs.Span.Hidden
import SpanGauge.Proofs.Span.Forest
import SpanGauge.Proofs.Lexer.Literal
import SpanGauge.Proofs.Span.Parameters
import SpanGauge.Proofs.Report.Decoded
import SpanGauge.Proofs.Ignore.Component
import SpanGauge.Proofs.Ignore.Beneath
import SpanGauge.Proofs.Ignore.Name
import SpanGauge.Proofs.Walk.Union
import SpanGauge.Proofs.Window.Rows
import SpanGauge.Proofs.Style.Line
import SpanGauge.Proofs.Browser.Frame
import SpanGauge.Proofs.Allow.Literal
import SpanGauge.Proofs.FileTree.Onward
import SpanGauge.Proofs.Walk.Root
import SpanGauge.Proofs.Browser.Choice
import SpanGauge.Proofs.Browser.Query
import SpanGauge.Proofs.Report.Table
import SpanGauge.Proofs.Settings.Agree
import SpanGauge.Proofs.Span.Delimiter
