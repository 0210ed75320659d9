import DataQuality.Metric.Basic
/-!
# The overlay — all metrics of a project, and how one is addressed

Column metrics are stored by column and by name; those of whole rows are
stored under the empty column name. Spanning metrics are a list, in the
order they were added. One spanning metric, uniqueness, stands apart under
a reserved name that no column and no other metric can take from it.
-/

namespace DataQuality

open Json (Tree)

/-- The metrics of a project. -/
structure Overlay where
  columns : OrderedMap String (OrderedMap String ColumnMetric)
  uniqueness : SpanningMetric
  spanning : List SpanningMetric

namespace Overlay

/-- The name of the uniqueness metric. -/
def uniquenessName : String := "uniqueness"

/-- The overlay with this uniqueness metric and no other one. -/
def ofUniqueness (uniqueness : SpanningMetric) : Overlay := ⟨OrderedMap.empty, uniqueness, []⟩

/-- The overlay without checks. -/
def empty : Overlay :=
  ofUniqueness ⟨⟨uniquenessName, none, [], .all, OrderedMap.empty, none⟩, [], none⟩

/-! ## Building -/

/-- Adds a column metric; one with the same column and name is replaced. -/
def add (o : Overlay) (m : ColumnMetric) : Overlay :=
  let column := m.column.getD ""
  let named := (o.columns.get? column).getD OrderedMap.empty
  { o with columns := o.columns.insert column (named.insert m.rule.name m) }

/-- Adds a spanning metric after the last one. -/
def addSpanning (o : Overlay) (m : SpanningMetric) : Overlay :=
  { o with spanning := o.spanning ++ [m] }

/-- Replaces the uniqueness metric. -/
def setUniqueness (o : Overlay) (m : SpanningMetric) : Overlay := { o with uniqueness := m }

/-! ## Looking up -/

/-- The columns that have metrics, in order. -/
def columnNames (o : Overlay) : List String := o.columns.keys

/-- The metrics of a column by name. -/
def metricsOf? (o : Overlay) (column : String) : Option (OrderedMap String ColumnMetric) :=
  o.columns.get? column

/-- The metric that a column and a name address. The name of the uniqueness
metric addresses it whatever the column is; without a column a name
addresses the first spanning metric that has it. -/
def target (o : Overlay) (column : Option String) (name : String) : Except Fault Metric :=
  if name = uniquenessName then .ok (.spanning o.uniqueness)
  else
    match column with
    | none =>
      match o.spanning.find? (·.rule.name == name) with
      | some m => .ok (.spanning m)
      | none => .error (.metricNotFound name none)
    | some c =>
      match (o.columns.get? c).bind (·.get? name) with
      | some m => .ok (.column m)
      | none => .error (.metricNotFound name (some c))

/-- Gives the first spanning metric with a name another rule. -/
def putFirst (name : String) (rule : Rule) : List SpanningMetric → List SpanningMetric
  | [] => []
  | m :: rest =>
    if m.rule.name = name then { m with rule } :: rest else m :: putFirst name rule rest

/-- Gives the metric that a column and a name address another rule. The
overlay stays as it is when they address none. -/
def putRule (o : Overlay) (column : Option String) (name : String) (rule : Rule) : Overlay :=
  if name = uniquenessName then { o with uniqueness := { o.uniqueness with rule } }
  else
    match column with
    | none => { o with spanning := putFirst name rule o.spanning }
    | some c =>
      match o.columns.get? c with
      | none => o
      | some named =>
        match named.get? name with
        | none => o
        | some m => { o with columns := o.columns.insert c (named.insert name { m with rule }) }

/-! ## Writing -/

/-- The tree of a map whose keys are names. -/
def mapTree {α : Type} (encode : α → Tree) (m : OrderedMap String α) : Tree :=
  .object (m.entries.map fun e => (Text.quoteBody e.1.toList, encode e.2))

/-- The tree of an overlay. -/
def toTree (o : Overlay) : Tree :=
  .object (Tree.field "metricsColumns" (mapTree (mapTree ColumnMetric.toTree) o.columns) ++
    Tree.field "uniqueness" o.uniqueness.toTree ++
    Tree.field "spanMetrics" (.array (o.spanning.map SpanningMetric.toTree)))

end Overlay

end DataQuality
