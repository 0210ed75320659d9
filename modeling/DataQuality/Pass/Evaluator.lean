import DataQuality.Pass.Row
import DataQuality.Pass.Stats
import DataQuality.Rows
/-!
# Evaluation — a pass of one metric over rows

A pass is started, visits rows and is finished. What it finds is staged:
the rule gets dirty rows and measure when the pass is finished and not
before. A crash closes the pass, and so does finishing it; a row that is
visited when no pass is open is not looked at.
-/

namespace DataQuality

/-- What exists between start and finish. -/
structure Pass where
  bindings : Bindings
  /-- The place of the scope's column. -/
  contextIndex : Option Nat
  pending : DirtyIndex
  stats : PassStats

namespace Pass

/-- Counts a row that could not be bound, and keeps what is left of the
bindings. -/
def skip (p : Pass) (bindings : Bindings) : Pass :=
  { p with
    bindings
    stats :=
      { p.stats with visited := p.stats.visited + 1, skippedRows := p.stats.skippedRows + 1 } }

/-- Counts a row that was evaluated, and stages it if it is dirty. -/
def stage (p : Pass) (index : Nat) (o : RowOutcome) (dirty : Bool) : Pass :=
  { p with
    bindings := o.bindings
    pending := if dirty then p.pending.insert index o.results else p.pending
    stats :=
      { p.stats with
        visited := p.stats.visited + 1
        evaluated := p.stats.evaluated + 1
        excluded := p.stats.excluded + o.excluded
        dirtyRows := p.stats.dirtyRows + if dirty then 1 else 0 } }

end Pass

/-- A rule that passes are made of. -/
structure Evaluator where
  binder : Binder
  config : EvaluationConfig
  scope : Scope
  rule : Rule
  pass : Option Pass
  /-- The counters of the last complete pass. -/
  lastStats : Option PassStats

namespace Evaluator

/-- The evaluator of a metric, before any pass. -/
def ofMetric (metric : Metric) (binder : Binder) (config : EvaluationConfig) : Evaluator :=
  ⟨binder, config, metric.scope, metric.rule, none, none⟩

/-- Events that are reported if a flag is set. -/
def reportIf (flag : Bool) (event : Event) : List Event := if flag then [event] else []

/-! ## Start -/

/-- The place of the scope's column in a project. -/
def contextIndex (e : Evaluator) (project : Project) : Option Nat :=
  project.columns.index? e.scope.columnName

/-- What is reported when a pass starts. -/
def startEvents (e : Evaluator) (project : Project) : List Event :=
  reportIf (e.config.log.skipped && (e.contextIndex project).isNone && e.scope.columnName != "")
      (.columnMissing e.scope.columnName) ++
    reportIf e.config.log.passSummary (.passStarted project.rows.length e.rule.enabledChecks)

/-- Opens a pass; one that is open is dropped. -/
def start (e : Evaluator) (project : Project) : Evaluator :=
  let pass : Pass := ⟨e.binder.create project, e.contextIndex project, OrderedMap.empty, {}⟩
  { e with pass := some pass }

/-! ## Visit -/

/-- The row as this evaluator meets it. -/
def rowVisit (e : Evaluator) (project : Project) (index : Nat) (row : Row) : RowVisit :=
  ⟨project, index, row, e.binder, e.config⟩

/-- Shows a row to the open pass. -/
def visit (e : Evaluator) (project : Project) (index : Nat) (row : Row) :
    Evaluator × List Event × Except Crash Control :=
  match e.pass with
  | none => (e, [.rowOutsidePass index], .ok .stop)
  | some p =>
    let column := e.scope.columnName
    let cell := p.contextIndex.bind row.cell?
    match e.binder.bind p.bindings row index column cell with
    | .error fault =>
      let left := e.binder.refused p.bindings row index column cell
      ({ e with pass := some (p.skip left) },
        reportIf e.config.log.skipped (.rowRefused index fault.message), .ok .proceed)
    | .ok b =>
      let o := (e.rowVisit project index row).run e.scope e.rule.checks b
      let rule := { e.rule with checks := o.checks }
      match o.crash with
      | some crash => ({ e with rule, pass := none }, o.events, .error crash)
      | none =>
        let dirty := rule.combination.isDirty o.results
        ({ e with rule, pass := some (p.stage index o dirty) },
          o.events ++ reportIf e.config.log.rowDetails (.rowEvaluated index dirty o.results),
          .ok .proceed)

/-! ## Finish -/

/-- What is reported when a pass finishes. -/
def finishEvents (e : Evaluator) (stats : PassStats) : List Event :=
  reportIf e.config.log.passSummary
    (.passFinished stats.evaluated stats.skippedRows stats.dirtyRows stats.excluded
      stats.measure)

/-- Closes the open pass and publishes what it staged. -/
def finish (e : Evaluator) : Evaluator × List Event × Except Fault Unit :=
  match e.pass with
  | none => (e, [], .error (.internal "Evaluation pass was not started"))
  | some p =>
    ({ e with
        rule := e.rule.publish p.pending p.stats.measure
        pass := none
        lastStats := some p.stats },
      e.finishEvents p.stats, .ok ())

/-- The evaluator as a visitor of rows. -/
def visitor : Visitor Evaluator where
  start e project := (e.start project, e.startEvents project, .ok ())
  visit := visit
  finish e _ := e.finish

end Evaluator

end DataQuality
