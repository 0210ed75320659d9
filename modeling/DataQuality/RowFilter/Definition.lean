import DataQuality.RowFilter.Basic
import DataQuality.Value.Codec
/-!
# Filter definitions — filters in JSON texts

A definition names the column whose cell the expression is about. It is
built into a filter of one project, where the column must exist.
-/

namespace DataQuality

open Json (Tree Decoder)

/-- A filter as it is written. -/
structure RowFilterDefinition where
  expression : String
  column : Option String
  literals : List Value
  selectsBlank : Bool
  selectsError : Bool
  inverted : Bool

namespace RowFilterDefinition

/-- The tree of a definition. -/
def toTree (d : RowFilterDefinition) : Tree :=
  .object (Tree.field "expression" (Tree.ofString d.expression) ++
    Tree.field? "column" Tree.ofString d.column ++
    Tree.field "matches" (.array (d.literals.map Value.toTree)) ++
    Tree.field "selectBlank" (.bool d.selectsBlank) ++
    Tree.field "selectError" (.bool d.selectsError) ++
    Tree.field "invert" (.bool d.inverted))

/-- The definition of a tree; all but the expression may be left out. -/
def decode : Decoder RowFilterDefinition := fun room t => do
  let (room, found) ← Json.Decode.fields
    ["expression", "column", "matches", "selectBlank", "selectError", "invert"] room t
  let expression ← found.required room "expression" Json.Decode.string
  let column ← found.withDefault room "column" none (Json.Decode.optional Json.Decode.string)
  let literals ← found.withDefault room "matches" [] (Json.Decode.list Value.decode)
  let selectsBlank ← found.withDefault room "selectBlank" false Json.Decode.bool
  let selectsError ← found.withDefault room "selectError" false Json.Decode.bool
  let inverted ← found.withDefault room "invert" false Json.Decode.bool
  return ⟨expression, column, literals, selectsBlank, selectsError, inverted⟩

/-- The definition of a whole text. -/
def parse? (s : String) : Option RowFilterDefinition := Json.Decode.text? decode s

/-- Builds the filter for a project. A fault of the expression comes before
one of the column. -/
def build (d : RowFilterDefinition) (project : Project) (compiler : Compiler) :
    Except Fault RowFilter :=
  match Expression.compile compiler d.expression with
  | .error fault => .error fault
  | .ok expression =>
    let filter (column : String) (cellIndex : Option Nat) : RowFilter :=
      ⟨expression, column, cellIndex, d.literals, d.selectsBlank, d.selectsError, d.inverted,
        Binder.plain⟩
    match d.column with
    | none => .ok (filter "" none)
    | some column =>
      match project.requireIndex column with
      | .ok index => .ok (filter column (some index))
      | .error fault => .error fault

/-- Builds filters in order, up to the first fault. -/
def buildAll (definitions : List RowFilterDefinition) (project : Project) (compiler : Compiler) :
    Except Fault (List RowFilter) :=
  match definitions with
  | [] => .ok []
  | d :: rest =>
    match d.build project compiler with
    | .error fault => .error fault
    | .ok filter =>
      match buildAll rest project compiler with
      | .error fault => .error fault
      | .ok filters => .ok (filter :: filters)

end RowFilterDefinition

end DataQuality
