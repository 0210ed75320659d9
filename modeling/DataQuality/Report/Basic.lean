import DataQuality.Overlay
import DataQuality.Pass.Stats
import DataQuality.Time.Rfc3339
/-!
# Reports — metrics as the last passes left them

A report is a snapshot of one metric: what it is about, its checks, its
measure and its dirty rows. What of it is shown is a choice of the reader,
which limits the dirty rows that are listed but not the number that is
told.
-/

namespace DataQuality

open Json (Tree)

/-- What a metric is about. -/
inductive MetricKind where
  | column
  | spanning
  deriving DecidableEq

/-- The word of a kind. -/
def MetricKind.word : MetricKind → String
  | column => "column"
  | spanning => "spanning"

/-- A metric as it was at one time. -/
structure Report where
  name : String
  kind : MetricKind
  /-- The column of a column metric, or the columns of a spanning metric. -/
  columns : List String
  description : Option String
  function : Option String
  /-- Nothing before the first complete pass. -/
  measure : Option Float
  dirtyRowCount : Nat
  dirtyRows : List Nat
  checks : List CheckDefinition
  /-- The counters of the pass, if they are attached. -/
  stats : Option PassStats
  time : Time.Instant

namespace Report

/-! ## Making reports -/

/-- The report of a rule. -/
def ofRule (rule : Rule) (kind : MetricKind) (columns : List String) (function : Option String)
    (time : Time.Instant) : Report where
  name := rule.name
  kind
  columns
  description := rule.description
  function
  measure := rule.measure
  dirtyRowCount := rule.dirty.size
  dirtyRows := rule.dirty.keys
  checks := rule.checks.map Check.definition
  stats := none
  time

/-- The report of a column metric. -/
def ofColumn (m : ColumnMetric) (time : Time.Instant) : Report :=
  ofRule m.rule .column m.column.toList none time

/-- The report of a spanning metric. -/
def ofSpanning (m : SpanningMetric) (time : Time.Instant) : Report :=
  ofRule m.rule .spanning m.columns (m.call.map (·.function)) time

/-- The report of a metric. -/
def ofMetric : Metric → Time.Instant → Report
  | .column m => ofColumn m
  | .spanning m => ofSpanning m

/-- The reports of all metrics: column metrics by column and name, then
uniqueness, then spanning metrics in the order they were added. -/
def ofOverlay (o : Overlay) (time : Time.Instant) : List Report :=
  (o.columns.values.flatMap fun named => named.values.map (ofColumn · time)) ++
    ofSpanning o.uniqueness time :: o.spanning.map (ofSpanning · time)

/-- The report with the counters of a pass. -/
def withStats (r : Report) (stats : PassStats) : Report := { r with stats := some stats }

/-- Whether the metric was evaluated and no row is dirty. -/
def isClean (r : Report) : Bool := r.measure.isSome && r.dirtyRowCount == 0

/-- The tree of a report. -/
def toTree (r : Report) : Tree :=
  .object (Tree.field "name" (Tree.ofString r.name) ++
    Tree.field "kind" (Tree.ofString r.kind.word) ++
    Tree.field "columns" (.array (r.columns.map Tree.ofString)) ++
    Tree.field? "description" Tree.ofString r.description ++
    Tree.field? "function" Tree.ofString r.function ++
    Tree.field "measure" (Tree.ofOption Tree.ofFloat r.measure) ++
    Tree.field "dirtyRowCount" (Tree.ofNat r.dirtyRowCount) ++
    Tree.field "dirtyRows" (.array (r.dirtyRows.map Tree.ofNat)) ++
    Tree.field "checks" (.array (r.checks.map CheckDefinition.toTree)) ++
    Tree.field? "stats" PassStats.toTree r.stats ++
    Tree.field "timestamp" (.string (Text.quoteBody (r.time.text "Z"))))

end Report

/-! ## What is shown -/

/-- What of a report is shown. -/
structure ReportConfig where
  checks : Bool
  dirtyRows : Bool
  /-- How many dirty rows are listed at most; all of them without a limit. -/
  maxDirtyRows : Option Nat
  /-- Whether lines on a console are coloured. -/
  colors : Bool
  /-- Whether a console shows the time. -/
  timestamps : Bool
  deriving DecidableEq

namespace ReportConfig

/-- Everything. -/
def full : ReportConfig := ⟨true, true, none, true, true⟩

/-- Names and measures. -/
def minimal : ReportConfig := ⟨false, false, some 0, false, false⟩

/-- Everything without colours, and at most 50 dirty rows. -/
def continuousIntegration : ReportConfig := ⟨true, true, some 50, false, true⟩

/-- The choice that a word names. -/
def ofWord? : String → Option ReportConfig
  | "default" => some full
  | "minimal" => some minimal
  | "ci" => some continuousIntegration
  | _ => none

/-- The dirty rows that are listed. -/
def listed (c : ReportConfig) (rows : List Nat) : List Nat :=
  if c.dirtyRows then
    match c.maxDirtyRows with
    | some limit => rows.take limit
    | none => rows
  else []

/-- The part of a report that is shown in a document. -/
def shown (c : ReportConfig) (r : Report) : Report :=
  { r with
    dirtyRows := c.listed r.dirtyRows
    checks := if c.checks then r.checks else [] }

end ReportConfig

end DataQuality
