import DataQuality.Bindings
import DataQuality.Decimal.Signed
import DataQuality.Json.Decode
import DataQuality.Text.Blank
import DataQuality.Value.Text
/-!
# Intervals — the time between two columns

The time from one date-time column to another of the same row is measured
in seconds, converted to a unit by division toward zero and compared with
a threshold. What the comparison is, and in which unit, comes with each
call; words that mean nothing make the result an error.
-/

namespace DataQuality

namespace Interval

/-- How an interval is held against a threshold. -/
inductive Comparison where
  | gteq
  | lteq
  | gt
  | lt
  | eq
  deriving DecidableEq

/-- The unit an interval is expressed in. -/
inductive TimeUnit where
  | seconds
  | minutes
  | hours
  | days
  | weeks
  | months
  | years
  deriving DecidableEq

/-- Why the parameters of a call mean nothing. -/
inductive ParameterError where
  | unknownComparison (word : String)
  | unknownUnit (word : String)
  | invalidThreshold (text : String)
  deriving DecidableEq

/-- The wording of the error. -/
def ParameterError.message : ParameterError → String
  | unknownComparison word => "Unknown comparison " ++ word
  | unknownUnit word => "Unknown time unit " ++ word
  | invalidThreshold text => "Invalid threshold " ++ text

namespace Comparison

/-- The word of a comparison. -/
def word : Comparison → String
  | gteq => "gteq"
  | lteq => "lteq"
  | gt => "gt"
  | lt => "lt"
  | eq => "eq"

/-- The comparison of a word. -/
def ofWord? : String → Option Comparison
  | "gteq" => some gteq
  | "lteq" => some lteq
  | "gt" => some gt
  | "lt" => some lt
  | "eq" => some eq
  | _ => none

/-- The comparison of a word, or the error that it is none. -/
def parse (word : String) : Except ParameterError Comparison :=
  match ofWord? word with
  | some c => .ok c
  | none => .error (.unknownComparison word)

/-- Whether the comparison holds between an interval and a threshold. -/
def holds (c : Comparison) (interval threshold : Int64) : Bool :=
  match c with
  | gteq => threshold ≤ interval
  | lteq => interval ≤ threshold
  | gt => threshold < interval
  | lt => interval < threshold
  | eq => interval == threshold

/-- The comparison of a tree. -/
def decode : Json.Decoder Comparison := Json.Decode.word ofWord?

end Comparison

namespace TimeUnit

/-- The word of a unit. -/
def word : TimeUnit → String
  | seconds => "seconds"
  | minutes => "minutes"
  | hours => "hours"
  | days => "days"
  | weeks => "weeks"
  | months => "months"
  | years => "years"

/-- The unit of a word. -/
def ofWord? : String → Option TimeUnit
  | "seconds" => some seconds
  | "minutes" => some minutes
  | "hours" => some hours
  | "days" => some days
  | "weeks" => some weeks
  | "months" => some months
  | "years" => some years
  | _ => none

/-- The unit of a word, or the error that it is none. -/
def parse (word : String) : Except ParameterError TimeUnit :=
  match ofWord? word with
  | some u => .ok u
  | none => .error (.unknownUnit word)

/-- A number of seconds in the unit, each step cut toward zero. Weeks,
months and years are 7, 30 and 365 days. -/
def convert (u : TimeUnit) (total : Int64) : Int64 :=
  match u with
  | seconds => total
  | minutes => total / 60
  | hours => total / 60 / 60
  | days => total / 60 / 60 / 24
  | weeks => total / 60 / 60 / 24 / 7
  | months => total / 60 / 60 / 24 / 30
  | years => total / 60 / 60 / 24 / 365

/-- The unit of a tree. -/
def decode : Json.Decoder TimeUnit := Json.Decode.word ofWord?

end TimeUnit

/-! ## Parameters -/

/-- The instant a column argument leads to: the argument names a column of
the row, and its cell holds a date-time. -/
def instant? (b : Bindings) (argument : Value) : Option Time.Instant := do
  (← b.cellValue? (← argument.toText?)).toInstant?

/-- The threshold of an argument: an integer, or a text that reads as one
between blanks. -/
def threshold (argument : Value) : Except ParameterError Int64 :=
  match argument.toInt64? with
  | some n => .ok n
  | none =>
    match argument.toText?.bind fun s => Decimal.readInt64? (Text.trim s.toList) with
    | some n => .ok n
    | none => .error (.invalidThreshold argument.text)

/-- The comparison of an argument. -/
def comparison (argument : Value) : Except ParameterError Comparison :=
  match argument.toText? with
  | some word => Comparison.parse word
  | none => .error (.unknownComparison argument.text)

/-- The unit of an argument. -/
def unit (argument : Value) : Except ParameterError TimeUnit :=
  match argument.toText? with
  | some word => TimeUnit.parse word
  | none => .error (.unknownUnit argument.text)

/-- Whether an interval of so many seconds passes the parameters. Without
any it must not be positive; a comparison alone is with zero; a threshold
without unit counts seconds. Parameters after the third do not matter. -/
def passes (interval : Int64) : List Value → Except ParameterError Bool
  | [] => .ok (interval ≤ 0)
  | [c] => do
    return (← comparison c).holds interval 0
  | [c, t] => do
    let c ← comparison c
    let t ← threshold t
    return c.holds interval t
  | c :: t :: u :: _ => do
    let c ← comparison c
    let t ← threshold t
    let u ← unit u
    return c.holds (u.convert interval) t

/-- The verdict on the interval between two columns. It is false when
there are fewer than two arguments or a column holds no date-time. -/
def evaluate (b : Bindings) : List Value → Value
  | startColumn :: endColumn :: parameters =>
    match instant? b startColumn, instant? b endColumn with
    | some start, some finish =>
      match passes (Int64.ofInt (start.secondsSince finish)) parameters with
      | .ok verdict => .bool verdict
      | .error e => .error e.message
    | _, _ => .bool false
  | _ => .bool false

end Interval

end DataQuality
