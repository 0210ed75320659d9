import DataQuality.Function.Basic
import DataQuality.Metric.Check
import DataQuality.Metric.Combination
/-!
# Metrics — rules and what the last pass found

Every metric is a rule: checks, how their results combine, and the dirty
rows and the measure of the last complete pass. A column metric is about
one column or about whole rows. A spanning metric is about several
columns, and may have the call of a function that is checked first.
-/

namespace DataQuality

open Json (Tree)

/-- The dirty rows by index, each with its results. -/
abbrev DirtyIndex := OrderedMap Nat (List Bool)

/-- What metrics of both kinds have. -/
structure Rule where
  name : String
  description : Option String
  checks : List Check
  combination : Combination
  dirty : DirtyIndex := OrderedMap.empty
  measure : Option Float := none

namespace Rule

/-- How many checks are enabled. -/
def enabledChecks (r : Rule) : Nat := r.checks.countP (!·.disabled)

/-- The rule with the findings of a pass; dirty rows and measure are
replaced together. -/
def publish (r : Rule) (dirty : DirtyIndex) (measure : Float) : Rule :=
  { r with dirty, measure := some measure }

/-- The rule with a check after the last one. -/
def pushCheck (r : Rule) (check : Check) : Rule := { r with checks := r.checks ++ [check] }

/-- The rule with a check switched off or on. -/
def setDisabled (r : Rule) (index : Nat) (disabled : Bool) : Rule :=
  { r with checks := r.checks.modify index (·.setDisabled disabled) }

/-- The tree of the results of a row. -/
def resultsTree (results : List Bool) : Tree := .array (results.map .bool)

/-- The tree of the dirty rows, in the order of their numbers. -/
def dirtyTree (dirty : DirtyIndex) : Tree :=
  .object (dirty.entries.map fun e => (Decimal.digitsOf e.1, resultsTree e.2))

/-- The fields of a rule that follow those of its kind. -/
def findingsFields (r : Rule) : List (List Char × Tree) :=
  Tree.field "evalTuples" (.array (r.checks.map Check.toTree)) ++
    Tree.field "concat" r.combination.toTree ++
    Tree.field "dirtyIndex" (dirtyTree r.dirty) ++
    Tree.field "measure" (Tree.ofOption Tree.ofFloat r.measure)

/-- The fields of a rule that come first. -/
def headFields (r : Rule) : List (List Char × Tree) :=
  Tree.field "name" (Tree.ofString r.name) ++
    Tree.field? "description" Tree.ofString r.description

end Rule

/-- A metric of one column, or of whole rows if it has none. -/
structure ColumnMetric where
  rule : Rule
  column : Option String

/-- A metric of several columns. -/
structure SpanningMetric where
  rule : Rule
  columns : List String
  call : Option SpanningCall

/-- The tree of a column metric. -/
def ColumnMetric.toTree (m : ColumnMetric) : Tree :=
  .object (m.rule.headFields ++
    Tree.field "columnName" (Tree.ofOption Tree.ofString m.column) ++ m.rule.findingsFields)

/-- The tree of a spanning metric. -/
def SpanningMetric.toTree (m : SpanningMetric) : Tree :=
  .object (m.rule.headFields ++
    Tree.field "spanningColumns" (.array (m.columns.map Tree.ofString)) ++
    Tree.field? "spanningEvaluable" SpanningCall.toTree m.call ++ m.rule.findingsFields)

/-- Where the checks of a rule are evaluated. -/
structure Scope where
  /-- The column that rows are bound with, if there is one. -/
  column : Option String
  /-- A call that is checked before the checks. -/
  call : Option SpanningCall

namespace Scope

/-- The name that rows are bound with. A missing column has the empty
name, and a data set may have a column of that name. -/
def columnName (s : Scope) : String := s.column.getD ""

end Scope

/-- The scope of a column metric. -/
def ColumnMetric.scope (m : ColumnMetric) : Scope := ⟨m.column, none⟩

/-- The scope of a spanning metric: its first column. -/
def SpanningMetric.scope (m : SpanningMetric) : Scope := ⟨m.columns.head?, m.call⟩

/-- A metric of either kind. -/
inductive Metric where
  | column (metric : ColumnMetric)
  | spanning (metric : SpanningMetric)

namespace Metric

/-- The rule of a metric. -/
def rule : Metric → Rule
  | column m => m.rule
  | spanning m => m.rule

/-- The metric with another rule. -/
def withRule (rule : Rule) : Metric → Metric
  | column m => column { m with rule }
  | spanning m => spanning { m with rule }

/-- Whether a metric is a spanning one. -/
def isSpanning : Metric → Bool
  | column _ => false
  | spanning _ => true

/-- The scope of a metric. -/
def scope : Metric → Scope
  | column m => m.scope
  | spanning m => m.scope

@[simp] theorem rule_withRule (m : Metric) (rule : Rule) : (m.withRule rule).rule = rule := by
  cases m <;> rfl

@[simp] theorem scope_withRule (m : Metric) (rule : Rule) : (m.withRule rule).scope = m.scope := by
  cases m <;> rfl

@[simp] theorem withRule_withRule (m : Metric) (rule rule' : Rule) :
    (m.withRule rule).withRule rule' = m.withRule rule' := by
  cases m <;> rfl

end Metric

end DataQuality
