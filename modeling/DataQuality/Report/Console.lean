import DataQuality.Decimal.Places
import DataQuality.Report.Basic
/-!
# Reports on a console

A heading counts the reports; each report then has a paragraph of its own.
Every line ends with a line break. The measure is shown in percent with
two places.
-/

namespace DataQuality

namespace Console

/-- A colour of the console, by its number. -/
inductive Colour where
  | red
  | green
  | yellow
  deriving DecidableEq

/-- The number of a colour. -/
def Colour.code : Colour → String
  | red => "31"
  | green => "32"
  | yellow => "33"

/-- A text in a colour, if colours are shown. -/
def paint (c : ReportConfig) (colour : Colour) (s : String) : String :=
  if c.colors then "\x1b[" ++ colour.code ++ "m" ++ s ++ "\x1b[0m" else s

/-- A measure in percent. -/
def percent (measure : Float) : String := String.ofList (Decimal.fixed 2 (measure * 100.0)) ++ "%"

/-- The line that counts the reports. -/
def heading (reports : List Report) : String :=
  "📊 Metrics: " ++ toString reports.length ++
    " (" ++ toString (reports.countP (·.measure.isSome)) ++ " evaluated, " ++
    toString (reports.countP Report.isClean) ++ " clean)"

/-- What a report is about. -/
def subject (r : Report) : String :=
  if r.columns.isEmpty then "row" else ", ".intercalate r.columns

/-- The line of the measure. -/
def qualityLine (c : ReportConfig) (r : Report) : String :=
  "   " ++
    match r.measure with
    | none => paint c .yellow "⏭️  Not evaluated"
    | some measure =>
      if r.dirtyRowCount = 0 then paint c .green ("✅ Quality: " ++ percent measure)
      else
        paint c .red ("❌ Quality: " ++ percent measure ++
          " (" ++ toString r.dirtyRowCount ++ " dirty rows)")

/-- The line of the dirty rows; there is none when none is listed. -/
def dirtyLines (c : ReportConfig) (r : Report) : List String :=
  let rows := c.listed r.dirtyRows
  if rows.isEmpty then []
  else
    let more := r.dirtyRows.length - rows.length
    ["   Dirty rows: " ++ ", ".intercalate (rows.map toString) ++
      if 0 < more then " ... and " ++ toString more ++ " more" else ""]

/-- The lines of a check. -/
def checkLines (d : CheckDefinition) : List String :=
  let target := match d.column with
    | some column => " on " ++ column
    | none => ""
  let state := if d.disabled then " (disabled)" else ""
  ("   • " ++ d.expression ++ target ++ state) :: (d.comment.toList.map ("     " ++ ·))

/-- The lines of a report; the first one is empty. -/
def lines (c : ReportConfig) (r : Report) : List String :=
  ["", r.name ++ " [" ++ subject r ++ "]"] ++
    r.description.toList.map ("   " ++ ·) ++
    r.function.toList.map ("   Function: " ++ ·) ++
    [qualityLine c r] ++
    dirtyLines c r ++
    (if c.checks then r.checks.flatMap checkLines else []) ++
    if c.timestamps then ["   Timestamp: " ++ String.ofList (r.time.text "+00:00")] else []

/-- The text of reports. -/
def text (c : ReportConfig) (reports : List Report) : String :=
  String.join ((heading reports :: reports.flatMap (lines c)).map (· ++ "\n"))

end Console

end DataQuality
