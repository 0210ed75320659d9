import DataQuality.Project.Basic
import DataQuality.Value.Codec
/-!
# Projects in JSON texts

Rows, columns and projects are written as records and read back with the
values' own reading, so a string that names a date-time comes back as one.
-/

namespace DataQuality

open Json (Tree Decoder)

/-- The tree of a cell. -/
def Cell.toTree (cell : Cell) : Tree := .object (Tree.field "value" cell.value.toTree)

/-- The cell of a tree. -/
def Cell.decode : Decoder Cell := fun room t => do
  let (room, found) ← Json.Decode.fields ["value"] room t
  return ⟨← found.required room "value" Value.decode⟩

/-- The tree of a row. -/
def Row.toTree (row : Row) : Tree :=
  .object (Tree.field "cells" (.array (row.cells.map (Tree.ofOption Cell.toTree))))

/-- The row of a tree. -/
def Row.decode : Decoder Row := fun room t => do
  let (room, found) ← Json.Decode.fields ["cells"] room t
  return ⟨← found.required room "cells" (Json.Decode.list (Json.Decode.optional Cell.decode))⟩

/-- The tree of column names. -/
def Columns.toTree (columns : Columns) : Tree :=
  .object (Tree.field "columns" (.array (columns.names.map Tree.ofString)))

/-- The column names of a tree. -/
def Columns.decode : Decoder Columns := fun room t => do
  let (room, found) ← Json.Decode.fields ["columns"] room t
  return ⟨← found.required room "columns" (Json.Decode.list Json.Decode.string)⟩

/-- The tree of a project. -/
def Project.toTree (project : Project) : Tree :=
  .object (Tree.field "name" (Tree.ofString project.name) ++
    Tree.field "columns" project.columns.toTree ++
    Tree.field "rows" (.array (project.rows.map Row.toTree)))

/-- The project of a tree. -/
def Project.decode : Decoder Project := fun room t => do
  let (room, found) ← Json.Decode.fields ["name", "columns", "rows"] room t
  let name ← found.required room "name" Json.Decode.string
  let columns ← found.required room "columns" Columns.decode
  let rows ← found.required room "rows" (Json.Decode.list Row.decode)
  return ⟨name, columns, rows⟩

/-- The project of a whole text. -/
def Project.parse? (s : String) : Option Project := Json.Decode.text? Project.decode s

end DataQuality
