import DataQuality.Expression
import DataQuality.Json.Decode
/-!
# Checks — the expressions of a metric

A check is an expression that should be true of a row. It looks at its own
column, or at the column of the metric it belongs to when it has none. The
first such column it meets it keeps, and looks at from then on.
-/

namespace DataQuality

open Json (Tree Decoder)

/-- A check as rules and reports show it. -/
structure CheckDefinition where
  expression : String
  column : Option String
  disabled : Bool
  comment : Option String
  deriving DecidableEq

namespace CheckDefinition

/-- The tree of a definition; what is absent is left out. -/
def toTree (d : CheckDefinition) : Tree :=
  .object (Tree.field "expression" (Tree.ofString d.expression) ++
    Tree.field? "column" Tree.ofString d.column ++
    Tree.field "disabled" (.bool d.disabled) ++
    Tree.field? "comment" Tree.ofString d.comment)

/-- The definition of a tree; all but the expression may be left out. -/
def decode : Decoder CheckDefinition := fun room t => do
  let (room, found) ← Json.Decode.fields ["expression", "column", "disabled", "comment"] room t
  let expression ← found.required room "expression" Json.Decode.string
  let column ← found.withDefault room "column" none (Json.Decode.optional Json.Decode.string)
  let disabled ← found.withDefault room "disabled" false Json.Decode.bool
  let comment ← found.withDefault room "comment" none (Json.Decode.optional Json.Decode.string)
  return ⟨expression, column, disabled, comment⟩

end CheckDefinition

/-- A compiled check. -/
structure Check where
  expression : Expression
  /-- The column the check is about, if it has one of its own. -/
  column : Option String
  disabled : Bool
  comment : Option String
  /-- The column of a metric that the check keeps. -/
  kept : Option String

namespace Check

/-- Compiles a definition. -/
def compile (compiler : Compiler) (d : CheckDefinition) : Except Fault Check :=
  match Expression.compile compiler d.expression with
  | .ok expression => .ok ⟨expression, d.column, d.disabled, d.comment, none⟩
  | .error fault => .error fault

/-- Compiles definitions in order, up to the first fault. -/
def compileAll (compiler : Compiler) : List CheckDefinition → Except Fault (List Check)
  | [] => .ok []
  | d :: rest =>
    match compile compiler d with
    | .error fault => .error fault
    | .ok check =>
      match compileAll compiler rest with
      | .error fault => .error fault
      | .ok checks => .ok (check :: checks)

/-- The check as rules and reports show it. -/
def definition (check : Check) : CheckDefinition :=
  ⟨check.expression.source, check.column, check.disabled, check.comment⟩

/-- The column the check looks at in a metric with this column. -/
def columnIn (check : Check) (context : String) : String :=
  check.column.getD (check.kept.getD context)

/-- The check after it has looked at a row of a metric with this column. -/
def keeping (check : Check) (context : String) : Check :=
  { check with kept := if check.column.isSome then check.kept else some (check.kept.getD context) }

/-- The columns the check looks at in metrics with these columns, one
metric after another. -/
def columnsIn (check : Check) : List String → List String
  | [] => []
  | context :: rest => check.columnIn context :: (check.keeping context).columnsIn rest

/-- The check switched off or on. -/
def setDisabled (check : Check) (disabled : Bool) : Check := { check with disabled }

/-- The tree of a compiled check. -/
def toTree (check : Check) : Tree :=
  .object (Tree.field? "column" Tree.ofString check.column ++
    Tree.field "evaluable" (Tree.ofString check.expression.source) ++
    Tree.field "disabled" (.bool check.disabled) ++
    Tree.field? "comment" Tree.ofString check.comment)

end Check

end DataQuality
