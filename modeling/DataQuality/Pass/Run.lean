import DataQuality.Overlay
import DataQuality.Pass.Evaluator
/-!
# Running passes — one metric over the rows of a project

A metric by itself is evaluated over the rows that pass some tests. A
metric of an overlay is addressed first, and then the overlay holds what
the pass made of it, also when the pass ended in a crash.
-/

namespace DataQuality

/-- Runs one pass of a metric over the rows that pass the tests. Yields the
metric afterwards, what was reported and the counters. -/
def Metric.evaluate (metric : Metric) (project : Project) (tests : List RowTest) (binder : Binder)
    (config : EvaluationConfig) : Metric × List Event × Ending PassStats :=
  match Evaluator.visitor.traverse tests project (Evaluator.ofMetric metric binder config) with
  | (e, events, .returned ()) => (metric.withRule e.rule, events, .returned (e.lastStats.getD {}))
  | (e, events, .failed fault) => (metric.withRule e.rule, events, .failed fault)
  | (e, events, .crashed crash) => (metric.withRule e.rule, events, .crashed crash)

namespace Overlay

/-- Runs one pass of the metric that a column and a name address over the
rows that pass the tests. -/
def evaluateOver (o : Overlay) (project : Project) (column : Option String) (name : String)
    (tests : List RowTest) (binder : Binder) (config : EvaluationConfig) :
    Overlay × List Event × Ending PassStats :=
  match o.target column name with
  | .error fault => (o, [], .failed fault)
  | .ok metric =>
    let (metric, events, ending) := metric.evaluate project tests binder config
    (o.putRule column name metric.rule, events, ending)

/-- Runs one pass of the addressed metric over all rows. -/
def evaluate (o : Overlay) (project : Project) (column : Option String) (name : String)
    (binder : Binder) (config : EvaluationConfig) : Overlay × List Event × Ending PassStats :=
  o.evaluateOver project column name [] binder config

end Overlay

end DataQuality
