import DataQuality.Function.Call
import DataQuality.Rules.Validation
/-!
# Compiled rules — from definitions to the overlay

Definitions are compiled in the order uniqueness, column metrics, spanning
metrics, and of a spanning metric the function before the checks. The
first fault ends it. Faults of functions and checks are told with the name
of the metric; that a function is unknown is told as it is.
-/

namespace DataQuality

/-- What is put in front of the faults of a metric's parts. -/
structure PartContexts where
  function : Fault → Fault
  check : Fault → Fault

namespace PartContexts

/-- Faults are told as they are. -/
def bare : PartContexts := ⟨id, id⟩

/-- Faults are told with the name of the metric. -/
def ofMetric (name : String) : PartContexts where
  function := Fault.within ("compiling function of metric '" ++ name ++ "'")
  check := Fault.within ("compiling check of metric '" ++ name ++ "'")

end PartContexts

/-- Compiles a column metric, telling faults in these contexts. -/
def MetricDefinition.compileIn (d : MetricDefinition) (contexts : PartContexts)
    (compiler : Compiler) : Except Fault ColumnMetric :=
  match Check.compileAll compiler d.checks with
  | .error fault => .error (contexts.check fault)
  | .ok checks =>
    .ok ⟨⟨d.name, d.description, checks, d.combination, OrderedMap.empty, none⟩, d.column⟩

/-- Compiles a column metric. -/
def MetricDefinition.compile (d : MetricDefinition) (compiler : Compiler) :
    Except Fault ColumnMetric :=
  d.compileIn (.ofMetric d.name) compiler

/-- Compiles the call of a function on columns. -/
def FunctionDefinition.compileIn (d : FunctionDefinition) (contexts : PartContexts)
    (columns : List String) (registry : Registry) : Except Fault SpanningCall :=
  match registry.require d.name with
  | .error fault => .error fault
  | .ok function =>
    match function.compileCall columns d.params registry.compiler with
    | .error fault => .error (contexts.function fault)
    | .ok call => .ok call

/-- Compiles the call of a spanning metric, if it has a function. -/
def SpanningDefinition.compileCallIn (d : SpanningDefinition) (contexts : PartContexts)
    (registry : Registry) : Except Fault (Option SpanningCall) :=
  match d.function with
  | none => .ok none
  | some function =>
    match function.compileIn contexts d.columns registry with
    | .error fault => .error fault
    | .ok call => .ok (some call)

/-- Compiles a spanning metric, telling faults in these contexts. -/
def SpanningDefinition.compileIn (d : SpanningDefinition) (contexts : PartContexts)
    (compiler : Compiler) (registry : Registry) : Except Fault SpanningMetric :=
  match d.compileCallIn contexts registry with
  | .error fault => .error fault
  | .ok call =>
    match Check.compileAll compiler d.checks with
    | .error fault => .error (contexts.check fault)
    | .ok checks =>
      .ok ⟨⟨d.name, d.description, checks, d.combination, OrderedMap.empty, none⟩,
        d.columns, call⟩

/-- Compiles a spanning metric. -/
def SpanningDefinition.compile (d : SpanningDefinition) (compiler : Compiler)
    (registry : Registry) : Except Fault SpanningMetric :=
  d.compileIn (.ofMetric d.name) compiler registry

/-- What is reported when the call of a spanning metric is compiled: the
text of the call, if the function is known. -/
def SpanningDefinition.callEvents (d : SpanningDefinition) (registry : Registry) : List Event :=
  match d.function with
  | none => []
  | some definition =>
    match registry.get? definition.name with
    | none => []
    | some function =>
      [.callCompiled function.name (function.invocation d.columns definition.params)]

namespace Rules

/-- Compiles column metrics into an overlay, in order. -/
def addMetrics (compiler : Compiler) : List MetricDefinition → Overlay → Except Fault Overlay
  | [], o => .ok o
  | d :: rest, o =>
    match d.compile compiler with
    | .error fault => .error fault
    | .ok m => addMetrics compiler rest (o.add m)

/-- Compiles spanning metrics into an overlay, in order. -/
def addSpanning (compiler : Compiler) (registry : Registry) :
    List SpanningDefinition → Overlay → Except Fault Overlay
  | [], o => .ok o
  | d :: rest, o =>
    match d.compile compiler registry with
    | .error fault => .error fault
    | .ok m => addSpanning compiler registry rest (o.addSpanning m)

/-- The overlay with the uniqueness metric of a document. Whatever name it
is given there, it has the reserved one. -/
def startOverlay (r : Rules) (compiler : Compiler) (registry : Registry) :
    Except Fault Overlay :=
  match r.uniqueness with
  | none => .ok Overlay.empty
  | some d =>
    match { d with name := Overlay.uniquenessName }.compile compiler registry with
    | .error fault => .error fault
    | .ok m => .ok (Overlay.ofUniqueness m)

/-- Compiles a document, which must be valid. Functions come from the
registry. -/
def compile (r : Rules) (compiler : Compiler) (registry : Registry) : Except Fault Overlay :=
  match r.validate with
  | .error fault => .error fault
  | .ok () =>
    match r.startOverlay compiler registry with
    | .error fault => .error fault
    | .ok o =>
      match addMetrics compiler r.metrics o with
      | .error fault => .error fault
      | .ok o => addSpanning compiler registry r.spanning o

end Rules

end DataQuality
