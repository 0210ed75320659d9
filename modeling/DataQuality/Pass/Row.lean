import DataQuality.Event
import DataQuality.Metric.Basic
import DataQuality.Text.Truncated
/-!
# One row of a pass — the results of a rule's checks

On a bound row the call of the scope is evaluated first and then every
enabled check, with the row bound to the check's column. A truth value is
a result; anything else is left out and counted. A crash that is not
caught ends the row where it is.
-/

namespace DataQuality

/-- What became of one row. -/
structure RowOutcome where
  /-- The checks, each with the column it keeps. -/
  checks : List Check
  bindings : Bindings
  results : List Bool
  /-- How many results are left out. -/
  excluded : Nat
  events : List Event
  crash : Option Crash

namespace RowOutcome

/-- The outcome with a check in front that was not evaluated or crashed. -/
def withCheck (check : Check) (o : RowOutcome) : RowOutcome :=
  { o with checks := check :: o.checks }

/-- The outcome with a result in front, or with one more left out. -/
def withValue (value : Value) (event : String → Event) (config : LogConfig) (o : RowOutcome) :
    RowOutcome :=
  match value with
  | .bool result => { o with results := result :: o.results }
  | other =>
    let reported :=
      if config.rowDetails then [event (Text.truncate config.maxFieldLength other.text)] else []
    { o with excluded := o.excluded + 1, events := reported ++ o.events }

end RowOutcome

/-- A row as a pass meets it. -/
structure RowVisit where
  project : Project
  index : Nat
  row : Row
  binder : Binder
  config : EvaluationConfig

namespace RowVisit

/-- The value of an expression; a crash is an error if crashes are caught. -/
def evaluate (v : RowVisit) (expression : Expression) (b : Bindings) : Except Crash Value :=
  if v.config.catchesCrashes then .ok (caught (expression.evaluate b)) else expression.evaluate b

/-- Evaluates checks in order in a metric with the column `context`. -/
def runChecks (v : RowVisit) (context : String) : List Check → Bindings → RowOutcome
  | [], b => ⟨[], b, [], 0, [], none⟩
  | check :: rest, b =>
    if check.disabled then (v.runChecks context rest b).withCheck check
    else
      let column := check.columnIn context
      let b := v.binder.rebind b column (v.project.cell? v.row column)
      match v.evaluate check.expression b with
      | .error crash => ⟨check.keeping context :: rest, b, [], 0, [], some crash⟩
      | .ok value =>
        ((v.runChecks context rest b).withValue value
          (.checkExcluded v.index check.expression.source) v.config.log).withCheck
            (check.keeping context)

/-- Evaluates the call of a scope, if there is one, and then the checks. -/
def run (v : RowVisit) (scope : Scope) (checks : List Check) (b : Bindings) : RowOutcome :=
  match scope.call with
  | none => v.runChecks scope.columnName checks b
  | some call =>
    match v.evaluate call.expression b with
    | .error crash => ⟨checks, b, [], 0, [], some crash⟩
    | .ok value =>
      (v.runChecks scope.columnName checks b).withValue value
        (.callExcluded v.index call.function) v.config.log

end RowVisit

end DataQuality
