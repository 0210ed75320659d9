import DataQuality.Expression
import DataQuality.Value.Tagged
import DataQuality.Value.Text
/-!
# The check language — words about a value and its row

A source text is one word, which may have an argument after a colon. A
word that is none of the language is left to another compiler, with the
whole text; that is how calls come into expressions.
-/

namespace DataQuality

namespace CheckLanguage

/-- The word and the argument of a source text. -/
def split (source : String) : String × String :=
  let s := source.toList
  (String.ofList (s.takeWhile (· != ':')), String.ofList ((s.dropWhile (· != ':')).drop 1))

/-- A comparison of a number, or the error that there is none. -/
def numeric (test : Float → Bool) (v : Value) : Value :=
  match v.toFloat? with
  | some x => .bool (test x)
  | none => .error (v.kind ++ " is not a number")

/-- The document that a value's text is. -/
def parsed (v : Value) : Value :=
  match v.toText?.bind (Json.Decode.text? Json.Decode.document) with
  | some j => .json j
  | none => .error "not JSON"

/-- A word that gives a value under all bindings. -/
def total (f : Bindings → Value) : Except Fault Evaluable := .ok fun b => .ok (f b)

/-- A word that crashes under all bindings. -/
def crashing (crash : Crash) : Except Fault Evaluable := .ok fun _ => .error crash

/-- A word whose argument is a value in the tagged notation. -/
def withLiteral (source argument : String) (f : Value → Bindings → Value) :
    Except Fault Evaluable :=
  match Value.literal? argument with
  | some v => total (f v)
  | none => .error (.expression source "bad literal")

/-- Compiles source texts; `calls` compiles those that start with no word
of the language. -/
def compiler (calls : Compiler) : Compiler := fun source =>
  let (word, argument) := split source
  match word with
  | "true" => total fun _ => .bool true
  | "false" => total fun _ => .bool false
  | "value" => total (·.value)
  | "nonBlank" => total fun b => .bool b.value.isData
  | "blank" => total fun b => .bool b.value.isBlank
  | "isError" => total fun b => .bool b.value.isError
  | "numeric" => total fun b => .bool b.value.isNumeric
  | "positive" => total fun b => numeric (0 < ·) b.value
  | "nonNegative" => total fun b => numeric (0 ≤ ·) b.value
  | "column" => total fun b => .string b.column
  | "project" => total fun b => .string b.projectName
  | "row" => total fun b => .int (Int64.ofInt b.rowIndex)
  | "rowLen" => total fun b => .int (Int64.ofInt b.row.size)
  | "evenRow" => total fun b => .bool (b.rowIndex % 2 == 0)
  | "hasCell" => total fun b => .bool b.cell.isSome
  | "type" => total fun b => .string b.value.kind
  | "display" => total fun b => .string b.value.text
  | "parse" => total fun b => parsed b.value
  | "cell" => total fun b => (b.cellValue? argument).getD (.error ("no column " ++ argument))
  | "slot" => total fun b => (b.slot? argument).getD .null
  | "columnIs" => total fun b => .bool (b.column == argument)
  | "error" => total fun _ => .error argument
  | "panic" => crashing (.text argument)
  | "panicStr" => crashing (.text "static panic")
  | "panicAny" => crashing .unknown
  | "is" => withLiteral source argument fun literal b => .bool (b.value.matchesLiteral literal)
  | "const" => withLiteral source argument fun literal _ => literal
  | _ => calls source

end CheckLanguage

end DataQuality
