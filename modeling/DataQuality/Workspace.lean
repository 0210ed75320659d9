import DataQuality.Pass.Run
import DataQuality.Report.Basic
import DataQuality.RowFilter.Definition
import DataQuality.Rules.Compile
/-!
# Workspaces — a project with its metrics, worked on step by step

A workspace holds a project, the metrics over it and the compilers that
expressions and functions go through. Each operation yields the workspace
afterwards; one that ends in a fault leaves it as it was.
-/

namespace DataQuality

/-- A project and the metrics over it. -/
structure Workspace where
  project : Project
  overlay : Overlay
  registry : Registry
  compiler : Compiler
  /-- The counters of the last pass that was completed. -/
  lastStats : Option PassStats

namespace Workspace

/-- The workspace of a project; the metrics are those of a rule document,
if there is one. -/
def ofRules (project : Project) (registry : Registry) (compiler : Compiler)
    (rules : Option String) : Except Fault Workspace :=
  match rules with
  | none => .ok ⟨project, Overlay.empty, registry, compiler, none⟩
  | some s =>
    match Rules.ofText s with
    | .error fault => .error fault
    | .ok r =>
      match r.compile compiler registry with
      | .error fault => .error fault
      | .ok overlay => .ok ⟨project, overlay, registry, compiler, none⟩

/-- The metric that a column and a name address. -/
def target (w : Workspace) (column : Option String) (name : String) : Except Fault Metric :=
  w.overlay.target column name

/-- Gives the addressed metric another rule. -/
def putRule (w : Workspace) (column : Option String) (name : String) (rule : Rule) : Workspace :=
  { w with overlay := w.overlay.putRule column name rule }

/-! ## Passes -/

/-- Runs one pass of the addressed metric over the rows that some filters
accept. The filters are built before the metric is looked up. -/
def evaluate (w : Workspace) (column : Option String) (name : String) (binder : Binder)
    (config : EvaluationConfig) (filters : List RowFilterDefinition) :
    Workspace × List Event × Ending PassStats :=
  match RowFilterDefinition.buildAll filters w.project w.compiler with
  | .error fault => (w, [], .failed fault)
  | .ok filters =>
    match w.overlay.evaluateOver w.project column name (filters.map RowFilter.test) binder config with
    | (overlay, events, .returned stats) =>
      ({ w with overlay, lastStats := some stats }, events, .returned stats)
    | (overlay, events, ending) => ({ w with overlay }, events, ending)

/-! ## Changes -/

/-- Switches a check of the addressed metric off or on, and tells whether
there is such a check. -/
def setDisabled (w : Workspace) (column : Option String) (name : String) (index : Nat)
    (disabled : Bool) : Workspace × Except Fault Bool :=
  match w.target column name with
  | .error fault => (w, .error fault)
  | .ok m =>
    (w.putRule column name (m.rule.setDisabled index disabled),
      .ok (decide (index < m.rule.checks.length)))

/-- Gives the addressed metric one more check, and tells how many are
enabled then. The check is compiled before the metric is looked up. -/
def pushCheck (w : Workspace) (column : Option String) (name : String) (d : CheckDefinition) :
    Workspace × Except Fault Nat :=
  match Check.compile w.compiler d with
  | .error fault => (w, .error fault)
  | .ok check =>
    match w.target column name with
    | .error fault => (w, .error fault)
    | .ok m =>
      let rule := m.rule.pushCheck check
      (w.putRule column name rule, .ok rule.enabledChecks)

/-- Adds a column metric. -/
def addMetric (w : Workspace) (d : MetricDefinition) : Workspace × Except Fault Unit :=
  match d.compileIn .bare w.compiler with
  | .error fault => (w, .error fault)
  | .ok m => ({ w with overlay := w.overlay.add m }, .ok ())

/-- Puts a spanning metric where `put` puts it. -/
def putSpanning (w : Workspace) (put : Overlay → SpanningMetric → Overlay)
    (d : SpanningDefinition) : Workspace × List Event × Except Fault Unit :=
  let events := d.callEvents w.registry
  match d.compileIn .bare w.compiler w.registry with
  | .error fault => (w, events, .error fault)
  | .ok m => ({ w with overlay := put w.overlay m }, events, .ok ())

/-- The workspace with one more row. -/
def pushRow (w : Workspace) (row : Row) : Workspace :=
  { w with project := w.project.push row }

/-! ## Reports -/

/-- The reports of all metrics, or that of the one that is addressed. The
last counters are attached if that is asked. -/
def reports (w : Workspace) (column name : Option String) (withStats : Bool)
    (time : Time.Instant) : Except Fault (List Report) :=
  let attach (r : Report) : Report :=
    match withStats, w.lastStats with
    | true, some stats => r.withStats stats
    | _, _ => r
  match name with
  | none => .ok ((Report.ofOverlay w.overlay time).map attach)
  | some name =>
    match w.target column name with
    | .error fault => .error fault
    | .ok m => .ok [attach (Report.ofMetric m time)]

end Workspace

end DataQuality
