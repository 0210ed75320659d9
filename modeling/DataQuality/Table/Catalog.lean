import DataQuality.OrderedMap
import DataQuality.Table.Batch
import DataQuality.Table.Name
/-!
# Catalogs — the tables an engine keeps

A table is kept under its own name, and opened by any name that leads
there. Only a table with a name, and with columns that all differ, can be
opened.
-/

namespace DataQuality

/-- A table: its columns by name and its batches. -/
structure Table where
  columns : List String
  batches : List Batch

namespace Table

/-- The batch with some of the columns, by place. -/
def pick (places : List Nat) (b : Batch) : Batch :=
  { b with columns := places.map fun p => b.columns[p]?.getD [] }

/-- The table with some of its columns, in the order they are asked for.
There is none when a column is unknown or is asked for twice. -/
def select? (t : Table) (names : List String) : Option Table := do
  let places ← names.mapM fun name => t.columns.findIdx? (· == name)
  if places.Nodup then return ⟨names, t.batches.map (pick places)⟩ else none

end Table

/-- The tables of an engine, by their own names. -/
structure Catalog where
  tables : OrderedMap String Table

namespace Catalog

/-- The catalog of these tables, as far as their names lead to it. -/
def ofList (tables : List (String × Table)) : Catalog :=
  let named := tables.map fun t => (TableName.ofText t.1, t.2)
  let kept := named.filter fun t => t.1.isKept
  ⟨OrderedMap.ofList (kept.map fun t => (t.1.table, t.2))⟩

/-- The table that a name leads to, if it can be opened. -/
def find? (c : Catalog) (n : TableName) : Option Table :=
  if n.isKept && n.table ≠ "" then
    (c.tables.get? n.table).filter fun t => t.columns.Nodup
  else none

end Catalog

end DataQuality
