import DataQuality.Project.Basic
import DataQuality.Table.Entry
/-!
# Batches — projects from columns of data

Data comes in batches of columns, and the rows of all batches are laid end
to end. Every batch must have as many columns as the project. The first
fault counts: batches in order, in a batch its number of columns before
its entries, and the entries row by row.
-/

namespace DataQuality

/-- A piece of a table: its columns, and its rows by number, since a batch
may have no columns. -/
structure Batch where
  columns : List (List Entry)
  rowCount : Nat

namespace Batch

/-- The entries of a row, by column. -/
def entriesAt (b : Batch) (row : Nat) : List Entry :=
  b.columns.map fun column => column[row]?.getD .missing

/-- The values of entries, up to the first fault. -/
def values : List Entry → Except Fault (List Value)
  | [] => .ok []
  | e :: rest =>
    match e.value with
    | .error fault => .error fault
    | .ok v =>
      match values rest with
      | .error fault => .error fault
      | .ok vs => .ok (v :: vs)

/-- The rows with these numbers, up to the first fault. -/
def rowsAt (b : Batch) : List Nat → Except Fault (List Row)
  | [] => .ok []
  | n :: rest =>
    match values (b.entriesAt n) with
    | .error fault => .error fault
    | .ok vs =>
      match b.rowsAt rest with
      | .error fault => .error fault
      | .ok rows => .ok (Row.ofValues vs :: rows)

/-- The rows of a batch that has `width` columns. -/
def rows (b : Batch) (width : Nat) : Except Fault (List Row) :=
  if b.columns.length = width then b.rowsAt (List.range b.rowCount)
  else
    .error (.dataSource "DataFusion"
      ("Batch has " ++ toString b.columns.length ++ " columns, expected " ++ toString width) none)

/-- The rows of all batches, laid end to end. -/
def allRows (width : Nat) : List Batch → Except Fault (List Row)
  | [] => .ok []
  | b :: rest =>
    match b.rows width with
    | .error fault => .error fault
    | .ok rows =>
      match allRows width rest with
      | .error fault => .error fault
      | .ok more => .ok (rows ++ more)

end Batch

/-- The project of batches that have these columns. -/
def Project.ofBatches (name : String) (columns : Columns) (batches : List Batch) :
    Except Fault Project :=
  match Batch.allRows columns.size batches with
  | .error fault => .error fault
  | .ok rows => .ok ⟨name, columns, rows⟩

end DataQuality
