import DataQuality.Fault
import DataQuality.Value.Basic
/-!
# Projects — named data sets in memory

A project has named columns and rows of cells. A column's place among the
names is the place of its cells; a name that is repeated means its first
place. Rows may be shorter or longer than the columns.
-/

namespace DataQuality

/-- What one place of a row holds. -/
structure Cell where
  value : Value

/-- The cells of one row by place. A place may hold no cell, and that is
not the same as a cell that holds null. -/
structure Row where
  cells : List (Option Cell)

namespace Row

/-- The row without places. -/
def empty : Row := ⟨[]⟩

/-- The row of these values; a null makes a missing cell. -/
def ofValues (values : List Value) : Row :=
  ⟨values.map fun v => match v with
    | .null => none
    | v => some ⟨v⟩⟩

/-- The cell at a place, if there is one. -/
def cell? (row : Row) (index : Nat) : Option Cell := row.cells[index]?.join

/-- The value of a cell that may be missing. -/
def valueOf : Option Cell → Value
  | some cell => cell.value
  | none => .null

/-- The value at a place, null where there is no cell. -/
def value (row : Row) (index : Nat) : Value := valueOf (row.cell? index)

/-- The number of places. -/
def size (row : Row) : Nat := row.cells.length

/-- Puts a cell, or none, at a place. A row that is too short grows by
places without cells. -/
def setCell (row : Row) (index : Nat) (cell : Option Cell) : Row :=
  let grown := row.cells ++ List.replicate (index + 1 - row.cells.length) none
  ⟨grown.set index cell⟩

end Row

/-- The names of the columns in order. -/
structure Columns where
  names : List String
  deriving DecidableEq

namespace Columns

/-- The place of a column: that of the first with the name. -/
def index? (columns : Columns) (name : String) : Option Nat :=
  columns.names.findIdx? (· == name)

/-- The number of columns. -/
def size (columns : Columns) : Nat := columns.names.length

theorem index?_eq_none_iff {columns : Columns} {name : String} :
    columns.index? name = none ↔ name ∉ columns.names := by
  rw [index?, List.findIdx?_eq_none_iff]
  constructor
  · intro h hmem
    simpa using h name hmem
  · intro h other hother
    exact beq_false_of_ne (ne_of_mem_of_not_mem hother h)

end Columns

/-- A named data set. -/
structure Project where
  name : String
  columns : Columns
  rows : List Row

namespace Project

/-- The project with a row after the last one. -/
def push (project : Project) (row : Row) : Project :=
  { project with rows := project.rows ++ [row] }

/-- The place of a column that must be there. -/
def requireIndex (project : Project) (column : String) : Except Fault Nat :=
  match project.columns.index? column with
  | some index => .ok index
  | none => .error (.columnNotFound column)

/-- The cell of a row in a named column, if the column is known and the
row has a cell there. -/
def cell? (project : Project) (row : Row) (column : String) : Option Cell :=
  (project.columns.index? column).bind row.cell?

end Project

end DataQuality
