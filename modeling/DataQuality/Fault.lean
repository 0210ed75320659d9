/-!
# Faults — what the library reports instead of a result

A fault names its cause; the wording is in one place. Context that is
added to a fault keeps the text of the fault and makes it an internal one.
-/

namespace DataQuality

/-- Why an operation has no result. -/
inductive Fault where
  /-- A rule or a function is set up in a way that is not allowed. -/
  | configuration (reason : String)
  /-- An expression cannot be compiled. -/
  | expression (source reason : String)
  /-- No spanning function has the name. -/
  | unknownFunction (name : String)
  /-- The model has no such metric. -/
  | metricNotFound (metric : String) (column : Option String)
  /-- The data set has no such column. -/
  | columnNotFound (column : String)
  /-- A data source cannot deliver. -/
  | dataSource (kind reason : String) (cause : Option String)
  /-- The query engine failed. -/
  | query (cause : String)
  /-- Column data could not be processed. -/
  | columnData (cause : String)
  /-- A file could not be read. -/
  | file (cause : String)
  /-- A text does not have the form it should have. -/
  | document (reason : String)
  /-- Anything that should not happen. -/
  | internal (reason : String)
  deriving DecidableEq

namespace Fault

/-- The wording of a fault. -/
def message : Fault → String
  | configuration reason => "Configuration error: " ++ reason
  | expression source reason => "Failed to parse expression '" ++ source ++ "': " ++ reason
  | unknownFunction name => "Unknown function '" ++ name ++ "'"
  | metricNotFound metric none => "Metric '" ++ metric ++ "' not found"
  | metricNotFound metric (some column) =>
    "Metric '" ++ metric ++ "' not found for column '" ++ column ++ "'"
  | columnNotFound column => "Column '" ++ column ++ "' not found in dataset"
  | dataSource _ reason _ => "Data source error: " ++ reason
  | query cause => "DataFusion error: " ++ cause
  | columnData cause => "Arrow error: " ++ cause
  | file cause => "IO error: " ++ cause
  | document reason => "Serialization error: " ++ reason
  | internal reason => "Internal error: " ++ reason

/-- The wording of the failure beneath a fault, if there is one. -/
def cause : Fault → Option String
  | dataSource _ _ cause => cause
  | query cause => some cause
  | columnData cause => some cause
  | file cause => some cause
  | _ => none

/-- The fault of a report that could not be written. -/
def unwritable : Fault :=
  internal "Failed to write formatted output: an error occurred when formatting an argument"

/-- The fault with a context in front of its text. An internal fault shows
its reason alone, so that contexts line up. -/
def within (context : String) : Fault → Fault
  | internal reason => internal (context ++ ": " ++ reason)
  | other => internal (context ++ ": " ++ other.message)

end Fault

/-- A context for a fault. A deferred one is worded only when it is needed. -/
structure Context where
  text : String
  deferred : Bool
  deriving DecidableEq

namespace Context

/-- Adds contexts to a result in turn. A result without fault stays. -/
def addAll {α : Type} (result : Except Fault α) (contexts : List Context) : Except Fault α :=
  contexts.foldl (fun r c => r.mapError (Fault.within c.text)) result

/-- How many deferred contexts are worded for a result. -/
def worded {α : Type} (result : Except Fault α) (contexts : List Context) : Nat :=
  match result with
  | .ok _ => 0
  | .error _ => contexts.countP (·.deferred)

end Context

end DataQuality
