import DataQuality.Rows
/-!
# Row filters — rows selected by the result of an expression

A filter evaluates its expression on every row afresh and selects the row
by what comes out: an error and a blank by flags of their own, data by a
list of literals. Of a result with several values one that is selected is
enough. An inverted filter selects no row at all.
-/

namespace DataQuality

/-- A filter of rows. -/
structure RowFilter where
  expression : Expression
  /-- The name rows are bound with; empty if the filter has no column. -/
  column : String
  /-- The place of the cell that rows are bound with, if there is one. -/
  cellIndex : Option Nat
  /-- The literals that select data. -/
  literals : List Value
  selectsBlank : Bool
  selectsError : Bool
  inverted : Bool
  binder : Binder

namespace RowFilter

/-- Whether a single value is selected. -/
def selects (f : RowFilter) (v : Value) : Bool :=
  if v.isError then f.selectsError
  else if v.isData then f.literals.any v.matchesLiteral
  else f.selectsBlank

/-- The plain values among the elements of a JSON array. -/
def plainValues (elements : List Json) : List Value :=
  elements.filterMap fun j => (Value.ofScalar j).toOption

/-- Whether a result is selected. -/
def selectsResult (f : RowFilter) : Value → Bool
  | .array values => values.any f.selects
  | .json (.array elements) => (plainValues elements).any f.selects
  | v => f.selects v

/-- Whether the filter accepts a row, and what it reports. A row that cannot
be bound is not accepted. -/
def test (f : RowFilter) : RowTest := fun project index row =>
  match f.binder.bind (f.binder.create project) row index f.column (f.cellIndex.bind row.cell?) with
  | .error fault => ([.filterRefused index fault.message], .ok false)
  | .ok b =>
    match f.expression.evaluate b with
    | .error crash => ([], .error crash)
    | .ok result =>
      let matched := f.selectsResult result
      ([.rowFiltered index matched], .ok (matched && !f.inverted))

end RowFilter

end DataQuality
