import DataQuality.Table.Token
/-!
# Names — what tables and columns are called

A table is named alone, with its schema, or with its catalog and schema. A
column may be named with the table it is looked for in. The engine has one
schema, in one catalog.
-/

namespace DataQuality

/-! ## Tables -/

/-- The name of a table, and where it is looked for as far as that is said. -/
structure TableName where
  table : String
  schema : Option String
  catalog : Option String
  deriving DecidableEq

namespace TableName

/-- The name of these parts, the widest first. -/
def ofParts? : List String → Option TableName
  | [table] => some ⟨table, none, none⟩
  | [schema, table] => some ⟨table, some schema, none⟩
  | [catalog, schema, table] => some ⟨table, some schema, some catalog⟩
  | _ => none

/-- The name that tokens spell, apostrophes not counting as quotes. -/
def ofTokens? (tokens : List Token) : Option TableName :=
  match Token.path? tokens with
  | some (path, []) => if path.any Word.isText then none else ofParts? (path.map Word.name)
  | _ => none

/-- The name that a text spells. A text that spells none is the name of a
table itself. -/
def ofText (s : String) : TableName :=
  ((Token.ofText? s).bind ofTokens?).getD ⟨s, none, none⟩

/-- Whether two parts of names are equal as far as both are said. -/
def agree : Option String → Option String → Bool
  | some x, some y => x == y
  | _, _ => true

/-- Whether two names can mean the same table. -/
def fits (m n : TableName) : Bool :=
  m.table == n.table && agree m.schema n.schema && agree m.catalog n.catalog

/-- Whether a name leads to the schema of the engine. -/
def isKept (n : TableName) : Bool :=
  agree n.schema (some "public") && agree n.catalog (some "datafusion")

end TableName

/-! ## Columns -/

/-- The name of a column, and the table it is looked for in if that is
said. -/
structure ColumnName where
  table : Option TableName
  column : String
  deriving DecidableEq

namespace ColumnName

/-- The name of these parts, the widest first. -/
def ofParts? (parts : List String) : Option ColumnName :=
  match parts.reverse with
  | [] => none
  | [column] => some ⟨none, column⟩
  | column :: table => (TableName.ofParts? table.reverse).map fun t => ⟨some t, column⟩

/-- Whether words with points between them can name a column. The first is
no text and no variable, and none is a keyword that stands for a value. What
a keyword calls has no columns, and is no column itself where it stands
alone and reads the clock. -/
def isPath (path : List Word) : Bool :=
  !(path.head?.any fun w => w.isText || w.isVariable) &&
    !(path.any fun w => w.isOneOf Word.valueKeywords) &&
    !(path.dropLast.any fun w => w.isOneOf Word.callKeywords) &&
    !(path.length == 1 && path.any Word.readsClock)

/-- The name that words with points between them spell. -/
def ofPath? (path : List Word) : Option ColumnName :=
  if isPath path then ofParts? (path.map Word.name) else none

/-- Whether the column is looked for in a table of this name. -/
def belongsTo (c : ColumnName) (t : TableName) : Bool := c.table.all (·.fits t)

end ColumnName

end DataQuality
