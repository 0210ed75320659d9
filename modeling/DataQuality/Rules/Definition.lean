import DataQuality.Function.Registry
import DataQuality.Metric.Basic
/-!
# Rule documents — the metrics of a project as they are written

A document lists column metrics and spanning metrics and may define the
uniqueness metric. What is absent is not written, lists and flags always
are. Reading takes the default for what may be left out.
-/

namespace DataQuality

open Json (Tree Decoder)

/-- A column metric as it is written. Without a column it is about rows. -/
structure MetricDefinition where
  name : String
  column : Option String
  description : Option String
  combination : Combination
  checks : List CheckDefinition
  deriving DecidableEq

/-- A function as it is written. Without parameters it has its own. -/
structure FunctionDefinition where
  name : String
  params : Option (List String)
  deriving DecidableEq

/-- A spanning metric as it is written. -/
structure SpanningDefinition where
  name : String
  columns : List String
  description : Option String
  function : Option FunctionDefinition
  combination : Combination
  checks : List CheckDefinition
  deriving DecidableEq

/-- The metrics of a project as they are written. -/
structure Rules where
  metrics : List MetricDefinition
  uniqueness : Option SpanningDefinition
  spanning : List SpanningDefinition
  deriving DecidableEq

/-! ## Writing -/

/-- The fields of a definition that come last. -/
def checkFields (combination : Combination) (checks : List CheckDefinition) :
    List (List Char × Tree) :=
  Tree.field "concat" combination.toTree ++
    Tree.field "evalTuples" (.array (checks.map CheckDefinition.toTree))

/-- The tree of a column metric. -/
def MetricDefinition.toTree (d : MetricDefinition) : Tree :=
  .object (Tree.field "name" (Tree.ofString d.name) ++
    Tree.field? "column" Tree.ofString d.column ++
    Tree.field? "description" Tree.ofString d.description ++
    checkFields d.combination d.checks)

/-- The tree of texts. -/
def textsTree (texts : List String) : Tree := .array (texts.map Tree.ofString)

/-- The tree of a function. -/
def FunctionDefinition.toTree (d : FunctionDefinition) : Tree :=
  .object (Tree.field "name" (Tree.ofString d.name) ++ Tree.field? "params" textsTree d.params)

/-- The tree of a spanning metric. -/
def SpanningDefinition.toTree (d : SpanningDefinition) : Tree :=
  .object (Tree.field "name" (Tree.ofString d.name) ++
    Tree.field "columns" (textsTree d.columns) ++
    Tree.field? "description" Tree.ofString d.description ++
    Tree.field? "function" FunctionDefinition.toTree d.function ++
    checkFields d.combination d.checks)

/-- The tree of a rule document. -/
def Rules.toTree (r : Rules) : Tree :=
  .object (Tree.field "metrics" (.array (r.metrics.map MetricDefinition.toTree)) ++
    Tree.field? "uniqueness" SpanningDefinition.toTree r.uniqueness ++
    Tree.field "spanningMetrics" (.array (r.spanning.map SpanningDefinition.toTree)))

/-! ## Reading -/

/-- A text that may be null or left out. -/
def optionalText (found : Json.Decode.Fields) (room : Nat) (name : String) :
    Option (Option String) :=
  found.withDefault room name none (Json.Decode.optional Json.Decode.string)

/-- How the results of the checks combine; by default all must be true. -/
def combinationField (found : Json.Decode.Fields) (room : Nat) : Option Combination :=
  found.withDefault room "concat" .all Combination.decode

/-- The checks of a definition; none by default. -/
def checksField (found : Json.Decode.Fields) (room : Nat) : Option (List CheckDefinition) :=
  found.withDefault room "evalTuples" [] (Json.Decode.list CheckDefinition.decode)

/-- The column metric of a tree. -/
def MetricDefinition.decode : Decoder MetricDefinition := fun room t => do
  let (room, found) ← Json.Decode.fields
    ["name", "column", "description", "concat", "evalTuples"] room t
  let name ← found.required room "name" Json.Decode.string
  let column ← optionalText found room "column"
  let description ← optionalText found room "description"
  let combination ← combinationField found room
  let checks ← checksField found room
  return ⟨name, column, description, combination, checks⟩

/-- The function of a tree. -/
def FunctionDefinition.decode : Decoder FunctionDefinition := fun room t => do
  let (room, found) ← Json.Decode.fields ["name", "params"] room t
  let name ← found.required room "name" Json.Decode.string
  let params ← found.withDefault room "params" none
    (Json.Decode.optional (Json.Decode.list Json.Decode.string))
  return ⟨name, params⟩

/-- The spanning metric of a tree. -/
def SpanningDefinition.decode : Decoder SpanningDefinition := fun room t => do
  let (room, found) ← Json.Decode.fields
    ["name", "columns", "description", "function", "concat", "evalTuples"] room t
  let name ← found.required room "name" Json.Decode.string
  let columns ← found.required room "columns" (Json.Decode.list Json.Decode.string)
  let description ← optionalText found room "description"
  let function ← found.withDefault room "function" none
    (Json.Decode.optional FunctionDefinition.decode)
  let combination ← combinationField found room
  let checks ← checksField found room
  return ⟨name, columns, description, function, combination, checks⟩

/-- The rule document of a tree. -/
def Rules.decode : Decoder Rules := fun room t => do
  let (room, found) ← Json.Decode.fields ["metrics", "uniqueness", "spanningMetrics"] room t
  let metrics ← found.withDefault room "metrics" [] (Json.Decode.list MetricDefinition.decode)
  let uniqueness ← found.withDefault room "uniqueness" none
    (Json.Decode.optional SpanningDefinition.decode)
  let spanning ← found.withDefault room "spanningMetrics" []
    (Json.Decode.list SpanningDefinition.decode)
  return ⟨metrics, uniqueness, spanning⟩

end DataQuality
