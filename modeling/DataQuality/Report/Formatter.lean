import DataQuality.Report.Console
/-!
# Formatters — reports as texts of several kinds

A formatter has a choice of what is shown and can be given another one for
a single text. A formatter that shows nothing but names has no such choice
and passes over the one it is given.
-/

namespace DataQuality

/-- A way to turn reports into text. -/
inductive Formatter where
  /-- A document, on indented lines or on one. -/
  | document (config : ReportConfig) (pretty : Bool)
  /-- Paragraphs for a console. -/
  | console (config : ReportConfig)
  /-- The names with commas between them. -/
  | names

namespace Formatter

/-- The reports as one document. -/
def documentText (config : ReportConfig) (pretty : Bool) (reports : List Report) : String :=
  let tree := Json.Tree.array (reports.map fun r => (config.shown r).toTree)
  String.ofList (if pretty then tree.pretty 0 else tree.compact)

/-- The text of reports under a choice of what is shown. -/
def formatWith (f : Formatter) (config : ReportConfig) (reports : List Report) : String :=
  match f with
  | document _ pretty => documentText config pretty reports
  | console _ => Console.text config reports
  | names => ",".intercalate (reports.map (·.name))

/-- The text of reports under the formatter's own choice. -/
def format (f : Formatter) (reports : List Report) : String :=
  match f with
  | document config _ => f.formatWith config reports
  | console config => f.formatWith config reports
  | names => f.formatWith ReportConfig.full reports

end Formatter

end DataQuality
