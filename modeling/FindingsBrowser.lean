import FindingsBrowser.AnalysisKind
import FindingsBrowser.Binary64.Basic
import FindingsBrowser.Binary64.Notation
import FindingsBrowser.Binary64.Rounding
import FindingsBrowser.Binary64.Shortest
import FindingsBrowser.CommandLine.Arguments
import FindingsBrowser.CommandLine.Files
import FindingsBrowser.CommandLine.Help
import FindingsBrowser.CommandLine.Options
import FindingsBrowser.CommandLine.Run
import FindingsBrowser.Detail
import FindingsBrowser.Document.Basic
import FindingsBrowser.Document.Span
import FindingsBrowser.Finding.Basic
import FindingsBrowser.Finding.Wire
import FindingsBrowser.Http.Query
import FindingsBrowser.Http.Router
import FindingsBrowser.Http.Target
import FindingsBrowser.Json.Basic
import FindingsBrowser.Json.Number
import FindingsBrowser.Json.Parser
import FindingsBrowser.Json.Printer
import FindingsBrowser.Json.Record
import FindingsBrowser.LineIndex
import FindingsBrowser.Main
import FindingsBrowser.Navigation.Link
import FindingsBrowser.Navigation.ListView
import FindingsBrowser.Navigation.State
import FindingsBrowser.Overlay
import FindingsBrowser.Path.Basic
import FindingsBrowser.Project.Config
import FindingsBrowser.Project.FileTree
import FindingsBrowser.Project.Loading
import FindingsBrowser.Project.Store
import FindingsBrowser.Proofs.Binary64.Exact
import FindingsBrowser.Proofs.Binary64.Notation
import FindingsBrowser.Proofs.Binary64.Order
import FindingsBrowser.Proofs.Binary64.Rounding
import FindingsBrowser.Proofs.Binary64.Scale
import FindingsBrowser.Proofs.Binary64.Shortest
import FindingsBrowser.Proofs.Detail
import FindingsBrowser.Proofs.Document
import FindingsBrowser.Proofs.Finding.Wire
import FindingsBrowser.Proofs.Http.Cause
import FindingsBrowser.Proofs.Http.Failure
import FindingsBrowser.Proofs.Http.File
import FindingsBrowser.Proofs.Http.Query
import FindingsBrowser.Proofs.Http.Rows
import FindingsBrowser.Proofs.Http.Target
import FindingsBrowser.Proofs.Http.Wire
import FindingsBrowser.Proofs.Json.Numbers
import FindingsBrowser.Proofs.Json.Records
import FindingsBrowser.Proofs.Json.RoundTrip
import FindingsBrowser.Proofs.Json.Strings
import FindingsBrowser.Proofs.LineIndex
import FindingsBrowser.Proofs.Navigation.FailedLoad
import FindingsBrowser.Proofs.Navigation.Link
import FindingsBrowser.Proofs.Navigation.ListInvariant
import FindingsBrowser.Proofs.Navigation.ListRun
import FindingsBrowser.Proofs.Navigation.Parameters
import FindingsBrowser.Proofs.Navigation.Readers
import FindingsBrowser.Proofs.Navigation.Reload
import FindingsBrowser.Proofs.Navigation.Reread
import FindingsBrowser.Proofs.Navigation.Return
import FindingsBrowser.Proofs.Navigation.State
import FindingsBrowser.Proofs.Overlay
import FindingsBrowser.Proofs.Overlay.Rules
import FindingsBrowser.Proofs.Overlay.Severity
import FindingsBrowser.Proofs.Path.Components
import FindingsBrowser.Proofs.Project.Cause
import FindingsBrowser.Proofs.Project.Fetch
import FindingsBrowser.Proofs.Project.FileTree
import FindingsBrowser.Proofs.Project.Spelling
import FindingsBrowser.Proofs.Row.Percent
import FindingsBrowser.Proofs.Row.Wire
import FindingsBrowser.Proofs.SortOrder
import FindingsBrowser.Proofs.Table.Column
import FindingsBrowser.Proofs.Table.Order
import FindingsBrowser.Proofs.Table.Page
import FindingsBrowser.Proofs.Table.Partition
import FindingsBrowser.Proofs.Table.Resort
import FindingsBrowser.Proofs.Table.Sorter
import FindingsBrowser.Proofs.Table.Words
import FindingsBrowser.Proofs.Terminal.Source
import FindingsBrowser.Proofs.Terminal.Style
import FindingsBrowser.Proofs.Terminal.Table
import FindingsBrowser.Proofs.Text.Form
import FindingsBrowser.Proofs.Text.Natural
import FindingsBrowser.Proofs.Text.Percent
import FindingsBrowser.Proofs.Text.Utf8
import FindingsBrowser.Proofs.Viewer.Coherence
import FindingsBrowser.Proofs.Viewer.Height
import FindingsBrowser.Proofs.Viewer.Interleaving
import FindingsBrowser.Proofs.Viewer.Panel
import FindingsBrowser.Proofs.Viewer.Selection
import FindingsBrowser.Proofs.Viewer.Session
import FindingsBrowser.Row.Basic
import FindingsBrowser.Row.Cell
import FindingsBrowser.Table.Page
import FindingsBrowser.Table.SortKey
import FindingsBrowser.Table.Sorter
import FindingsBrowser.Table.Words
import FindingsBrowser.Terminal.Source
import FindingsBrowser.Terminal.Style
import FindingsBrowser.Terminal.Table
import FindingsBrowser.Text.CaseData
import FindingsBrowser.Text.Cut
import FindingsBrowser.Text.LowerCase
import FindingsBrowser.Text.Natural
import FindingsBrowser.Text.Percent
import FindingsBrowser.Text.Utf8
import FindingsBrowser.Toml.Moment
import FindingsBrowser.Toml.Parser
import FindingsBrowser.Toml.Value
import FindingsBrowser.Toml.Word
import FindingsBrowser.Viewer.Basic
import FindingsBrowser.Viewer.Source
