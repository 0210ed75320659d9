import DataQuality.Event
import DataQuality.Overlay
import DataQuality.Rules.Definition
import DataQuality.Text.Blank
/-!
# Valid rules — what is asked of a document before it is used

Names say something, no metric is defined twice, the reserved name stays
free and spanning metrics have columns. Blank names are looked for first,
in all metrics; then column metrics are compared, then spanning metrics
are checked one after another.
-/

namespace DataQuality

namespace Rules

/-- What can be wrong with a rule document. -/
inductive Problem where
  | blankName
  | duplicateMetric (name : String) (column : Option String)
  | reservedName
  | duplicateSpanning (name : String)
  | noColumns (name : String)
  deriving DecidableEq

/-- The wording of a problem. -/
def Problem.message : Problem → String
  | blankName => "Metric name cannot be empty"
  | duplicateMetric name column =>
    "Duplicate metric '" ++ name ++ "' on column '" ++ column.getD "" ++ "'"
  | reservedName =>
    "'" ++ Overlay.uniquenessName ++ "' is reserved; configure it under \"uniqueness\""
  | duplicateSpanning name => "Duplicate spanning metric '" ++ name ++ "'"
  | noColumns name => "Spanning metric '" ++ name ++ "' needs at least one column"

/-- A problem as a fault. -/
def Problem.fault (p : Problem) : Fault := .configuration p.message

/-- Whether a name holds nothing but blanks. -/
def isBlankName (name : String) : Bool := name.toList.all Text.isBlank

/-- The first column metric with the column and name of an earlier one. -/
def metricsProblem? (seen : List (String × Option String)) :
    List MetricDefinition → Option Problem
  | [] => none
  | m :: rest =>
    if seen.contains (m.name, m.column) then some (.duplicateMetric m.name m.column)
    else metricsProblem? ((m.name, m.column) :: seen) rest

/-- The first problem of the spanning metrics. -/
def spanningProblem? (seen : List String) : List SpanningDefinition → Option Problem
  | [] => none
  | m :: rest =>
    if m.name = Overlay.uniquenessName then some .reservedName
    else if seen.contains m.name then some (.duplicateSpanning m.name)
    else if m.columns.isEmpty then some (.noColumns m.name)
    else spanningProblem? (m.name :: seen) rest

/-- The problem of a document that counts, if there is one. -/
def problem? (r : Rules) : Option Problem :=
  if (r.metrics.map (·.name) ++ r.spanning.map (·.name)).any isBlankName then some .blankName
  else
    match metricsProblem? [] r.metrics with
    | some p => some p
    | none => spanningProblem? [] r.spanning

/-- Accepts the documents without a problem. -/
def validate (r : Rules) : Except Fault Unit :=
  match r.problem? with
  | some p => .error p.fault
  | none => .ok ()

/-! ## From texts and files -/

/-- The document of a text, which must be valid. -/
def ofText (s : String) : Except Fault Rules :=
  match Json.Decode.text? decode s with
  | none => .error (.document "not a rule document")
  | some r =>
    match r.validate with
    | .error fault => .error fault
    | .ok () => .ok r

/-- The document of a file, whose content is given unless the file is
missing. What is wrong with the content is told with the file's path. -/
def ofFile (path : String) (content : Option ByteArray) : List Event × Except Fault Rules :=
  match content with
  | none => ([], .error (.file "no such file"))
  | some bytes =>
    match String.fromUTF8? bytes with
    | none => ([], .error (.file "not a text in UTF-8"))
    | some s =>
      match ofText s with
      | .error fault => ([], .error (fault.within ("loading rules from " ++ path)))
      | .ok r => ([.rulesLoaded path r.metrics.length r.spanning.length], .ok r)

end Rules

end DataQuality
