import DataQuality.OrderedMap
import DataQuality.Project.Basic
/-!
# Bindings — what an expression sees

Bindings hold one row of a project, one of its columns and that column's
cell, and named slots beside them. A binder makes bindings and points them
at a row; it may fill slots and may refuse a row. Within a row the bindings
are pointed at one column after another.
-/

namespace DataQuality

/-- The names an expression is evaluated against. -/
structure Bindings where
  projectName : String
  columns : Columns
  row : Row
  rowIndex : Nat
  column : String
  cell : Option Cell
  slots : OrderedMap String Value

namespace Bindings

/-- Bindings of a project that point at no row, column or cell. -/
def ofProject (project : Project) : Bindings :=
  ⟨project.name, project.columns, Row.empty, 0, "", none, OrderedMap.empty⟩

/-- The value of the bound cell, null if there is none. -/
def value (b : Bindings) : Value := Row.valueOf b.cell

/-- The value of the bound row in a column: null if the row has no cell
there, nothing if there is no such column. -/
def cellValue? (b : Bindings) (column : String) : Option Value :=
  (b.columns.index? column).map b.row.value

/-- The value of a slot. -/
def slot? (b : Bindings) (name : String) : Option Value := b.slots.get? name

/-- Fills a slot. -/
def setSlot (b : Bindings) (name : String) (value : Value) : Bindings :=
  { b with slots := b.slots.insert name value }

/-- Points at a row. -/
def setRow (b : Bindings) (row : Row) (rowIndex : Nat) : Bindings :=
  { b with row, rowIndex }

/-- Points at a column and a cell. -/
def setColumn (b : Bindings) (column : String) (cell : Option Cell) : Bindings :=
  { b with column, cell }

end Bindings

/-- How bindings are made and pointed at rows. -/
structure Binder where
  /-- Fresh bindings of a project. -/
  create : Project → Bindings
  /-- Points bindings at a row, its index, a column and that column's cell. -/
  bind : Bindings → Row → Nat → String → Option Cell → Except Fault Bindings
  /-- What is left of the bindings when a row is refused: a binder may have
  begun to change them. -/
  refused : Bindings → Row → Nat → String → Option Cell → Bindings := fun b _ _ _ _ => b
  /-- Points bindings at another column of the bound row. -/
  rebind : Bindings → String → Option Cell → Bindings

namespace Binder

/-- Binds the row, its index, the column and the cell and nothing else. -/
def plain : Binder where
  create := Bindings.ofProject
  bind b row rowIndex column cell := .ok ((b.setRow row rowIndex).setColumn column cell)
  rebind := Bindings.setColumn

/-- What a screening binder refuses, and the slots it fills. -/
structure Screen where
  rejectedRows : List Nat
  rejectsNegative : Bool
  slots : OrderedMap String Value

/-- Whether a cell holds a negative integer. -/
def isNegative (cell : Option Cell) : Bool :=
  match cell.bind (·.value.toInt64?) with
  | some n => n < 0
  | none => false

/-- Refuses the listed rows, and negative cells if it is told to; binds any
other row as the plain binder does, with the slots filled. -/
def screening (screen : Screen) : Binder where
  create := Bindings.ofProject
  bind b row rowIndex column cell :=
    if screen.rejectedRows.contains rowIndex then
      .error (.internal ("row " ++ toString rowIndex ++ " rejected"))
    else if screen.rejectsNegative && isNegative cell then .error (.internal "negative")
    else
      let filled := screen.slots.entries.foldl (fun b e => b.setSlot e.1 e.2) b
      plain.bind filled row rowIndex column cell
  rebind := Bindings.setColumn

end Binder

end DataQuality
