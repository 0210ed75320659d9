import DataQuality.CheckLanguage
import DataQuality.Function.Inspect
import DataQuality.Function.Stock
import DataQuality.Project.Codec
import DataQuality.Recorder
import DataQuality.Report.Formatter
import DataQuality.Table.Source
import DataQuality.Workspace
import DataQuality.Proofs.OrderedMap
import DataQuality.Proofs.Text.Scanning
import DataQuality.Proofs.Json.Scanning
import DataQuality.Proofs.Json.Numbers
import DataQuality.Proofs.Json.Record
import DataQuality.Proofs.Json.Documents
import DataQuality.Proofs.Time.Calendar
import DataQuality.Proofs.Time.Difference
import DataQuality.Proofs.Time.Rfc3339
import DataQuality.Proofs.Value.Reloading
import DataQuality.Proofs.Project.Cells
import DataQuality.Proofs.Project.Reloading
import DataQuality.Proofs.Function.Arguments
import DataQuality.Proofs.Function.Call
import DataQuality.Proofs.Function.Invocation
import DataQuality.Proofs.Interval.Conversion
import DataQuality.Proofs.Interval.Parameters
import DataQuality.Proofs.Interval.Verdict
import DataQuality.Proofs.Interval.Refusals
import DataQuality.Proofs.Interval.Forms
import DataQuality.Proofs.Simulation
import DataQuality.Proofs.Traversal
import DataQuality.Proofs.Pass.Finding
import DataQuality.Proofs.Pass.Publication
import DataQuality.Proofs.Pass.Counters
import DataQuality.Proofs.Pass.Reference
import DataQuality.Proofs.Pass.Repetition
import DataQuality.Proofs.Pass.Crashes
import DataQuality.Proofs.Pass.Reports
import DataQuality.Proofs.Pass.Encounters
import DataQuality.Proofs.Pass.Order
import DataQuality.Proofs.Pass.Origin
import DataQuality.Proofs.RowFilter.Rows
import DataQuality.Proofs.Pass.Selection
import DataQuality.Proofs.RowFilter.Agreement
import DataQuality.Proofs.RowFilter.RowLevel
import DataQuality.Proofs.RowFilter.Scalars
import DataQuality.Proofs.RowFilter.Integers
import DataQuality.Proofs.RowFilter.Objects
import DataQuality.Proofs.Overlay.Place
import DataQuality.Proofs.Overlay.Requests
import DataQuality.Proofs.Overlay.Building
import DataQuality.Proofs.Rules.Validity
import DataQuality.Proofs.Rules.Refusals
import DataQuality.Proofs.Rules.Description
import DataQuality.Proofs.Rules.Compilation
import DataQuality.Proofs.Rules.Reachability
import DataQuality.Proofs.Rules.Reloading
import DataQuality.Proofs.Overlay.Histories
import DataQuality.Proofs.Overlay.Listing
import DataQuality.Proofs.Time.Ticks
import DataQuality.Proofs.Table.Batches
import DataQuality.Proofs.Table.Moments
import DataQuality.Proofs.Report.Listing
import DataQuality.Proofs.Text.Truncated
import DataQuality.Proofs.Function.Registration
import DataQuality.Proofs.Function.Quoting
import DataQuality.Proofs.Json.Floats
import DataQuality.Proofs.Report.Formatting
