import DataQuality.Json.Decode
import DataQuality.Logging
import DataQuality.Value.Tagged
import DataQuality.Value.Text
/-!
# Events — what is reported while work is done

An event says one thing that happened, with a level and with fields. Its
wording is in one place. Values in fields are cut by whoever makes the
event.
-/

namespace DataQuality

open Json (Tree)

/-- Something that happened. -/
inductive Event where
  /-- Rows are bound without a cell. -/
  | columnMissing (column : String)
  | passStarted (rows checks : Nat)
  | rowOutsidePass (row : Nat)
  | rowRefused (row : Nat) (error : String)
  | callExcluded (row : Nat) (function result : String)
  | checkExcluded (row : Nat) (check result : String)
  | rowEvaluated (row : Nat) (dirty : Bool) (results : List Bool)
  | passFinished (evaluated skipped dirty excludedChecks : Nat) (measure : Float)
  | filterRefused (row : Nat) (error : String)
  | rowFiltered (row : Nat) (matched : Bool)
  | visitorStopped (row : Nat)
  | traversalFinished (project : String) (accepted filters : Nat)
  | callCompiled (function expression : String)
  | rulesLoaded (path : String) (metrics spanningMetrics : Nat)

namespace Event

/-- How much an event matters. -/
def level : Event → Level
  | columnMissing .. | rowRefused .. => .warn
  | passStarted .. | passFinished .. | rulesLoaded .. => .info
  | rowOutsidePass .. | callExcluded .. | checkExcluded .. | rowEvaluated .. => .debug
  | visitorStopped .. | traversalFinished .. | callCompiled .. => .debug
  | filterRefused .. | rowFiltered .. => .trace

/-- The wording of an event. -/
def message : Event → String
  | columnMissing .. => "Bound column is not part of the project; rows are bound without a cell"
  | passStarted .. => "Starting evaluation pass"
  | rowOutsidePass .. => "Row visited outside of a pass"
  | rowRefused .. => "Failed to bind row, skipping"
  | callExcluded .. => "Spanning check excluded"
  | checkExcluded .. => "Check excluded"
  | rowEvaluated .. => "Evaluated row"
  | passFinished .. => "Evaluation pass finished"
  | filterRefused .. => "Failed to bind row for filtering"
  | rowFiltered .. => "Filtered row"
  | visitorStopped .. => "Visitor stopped iteration"
  | traversalFinished .. => "Row iteration finished"
  | callCompiled .. => "Compiling spanning evaluable"
  | rulesLoaded .. => "Loaded rules"

/-- The content of a field. -/
inductive Field where
  | number (n : Nat)
  | truth (b : Bool)
  | float (x : Float)
  | text (s : String)

/-- The tree of a field's content; floats are tagged. -/
def Field.toTree : Field → Tree
  | number n => Tree.ofNat n
  | truth b => .bool b
  | float x => (Value.float x).tagged
  | text s => Tree.ofString s

/-- Truth values in brackets, with a comma and a space between neighbours. -/
def resultsText (results : List Bool) : String :=
  (Value.array (results.map .bool)).text

/-- The fields of an event, by name and in order. -/
def fields : Event → List (String × Field)
  | columnMissing column => [("column", .text column)]
  | passStarted rows checks => [("rows", .number rows), ("checks", .number checks)]
  | rowOutsidePass row => [("row_index", .number row)]
  | rowRefused row error => [("row_index", .number row), ("error", .text error)]
  | callExcluded row function result =>
    [("row_index", .number row), ("function", .text function), ("result", .text result)]
  | checkExcluded row check result =>
    [("row_index", .number row), ("check", .text check), ("result", .text result)]
  | rowEvaluated row dirty results =>
    [("row_index", .number row), ("dirty", .truth dirty), ("results", .text (resultsText results))]
  | passFinished evaluated skipped dirty excludedChecks measure =>
    [("evaluated", .number evaluated), ("skipped", .number skipped), ("dirty", .number dirty),
      ("excluded_checks", .number excludedChecks), ("measure", .float measure)]
  | filterRefused row error => [("row_index", .number row), ("error", .text error)]
  | rowFiltered row matched => [("row_index", .number row), ("matched", .truth matched)]
  | visitorStopped row => [("row_index", .number row)]
  | traversalFinished project accepted filters =>
    [("project", .text project), ("accepted", .number accepted), ("filters", .number filters)]
  | callCompiled function expression =>
    [("function", .text function), ("expression", .text expression)]
  | rulesLoaded path metrics spanningMetrics =>
    [("path", .text path), ("metrics", .number metrics),
      ("spanning_metrics", .number spanningMetrics)]

/-- The events that matter at least as much as a level. -/
def atLeast (level : Level) (events : List Event) : List Event :=
  events.filter fun e => level.rank ≤ e.level.rank

/-- The tree of an event: level, wording and fields. -/
def toTree (e : Event) : Tree :=
  .array [Tree.ofString e.level.word, Tree.ofString e.message,
    .array (e.fields.map fun f => .array [Tree.ofString f.1, f.2.toTree])]

end Event

end DataQuality
