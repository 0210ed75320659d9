import DataQuality.Table.Selection
/-!
# Sources — projects from the tables of an engine

A source is a table or a query over one. The project takes the name that
the table was asked for by, or the one it is given.
-/

namespace DataQuality

/-- Where the data of a project comes from. -/
inductive Origin where
  | table (name : String)
  | query (text : String)
  deriving DecidableEq

/-- A source of a project. -/
structure Source where
  projectName : String
  origin : Origin
  deriving DecidableEq

namespace Source

/-- A table; the project has its name. -/
def ofTable (name : String) : Source := ⟨name, .table name⟩

/-- A query, with a name for the project. -/
def ofQuery (projectName text : String) : Source := ⟨projectName, .query text⟩

/-- The source with another name for the project. -/
def named (s : Source) (projectName : String) : Source := { s with projectName }

/-- The source in words. -/
def description (s : Source) : String :=
  match s.origin with
  | .table name => "DataFusion table '" ++ name ++ "'"
  | .query text => "DataFusion query '" ++ text ++ "'"

/-- The data of a source. -/
def tableIn (s : Source) (catalog : Catalog) : Except Fault Table :=
  match s.origin with
  | .table name =>
    match catalog.find? (.ofText name) with
    | some t => .ok t
    | none =>
      .error (.dataSource "DataFusion" ("Failed to open table '" ++ name ++ "'")
        (some ("table '" ++ name ++ "' not found")))
  | .query text =>
    match (Selection.ofText? text).bind (·.run? catalog) with
    | some t => .ok t
    | none => .error (.dataSource "DataFusion" "Failed to plan query" (some "invalid query"))

/-- The project of a source. -/
def load (s : Source) (catalog : Catalog) : Except Fault Project :=
  match s.tableIn catalog with
  | .error fault => .error fault
  | .ok t => Project.ofBatches s.projectName ⟨t.columns⟩ t.batches

end Source

end DataQuality
