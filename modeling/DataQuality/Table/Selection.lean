import DataQuality.Table.Catalog
/-!
# Selections — queries for columns of one table

A query is the keyword `SELECT`, an asterisk or columns, the keyword `FROM`
and a table. A comma may follow the last column, and semicolons may stand
around the query.
-/

namespace DataQuality

/-- What a query asks for: columns of a table, or all of them. -/
structure Selection where
  columns : Option (List ColumnName)
  table : TableName
  deriving DecidableEq

namespace Selection

/-- What follows a keyword. -/
def afterKeyword? (keyword : String) : List Token → Option (List Token)
  | .word w :: rest => if w.isKeyword keyword then some rest else none
  | _ => none

/-- Whether tokens start with one of these keywords. -/
def startsWith (keywords : List String) : List Token → Bool
  | .word w :: _ => w.isOneOf keywords
  | _ => false

/-- The paths with commas between them that tokens start with, and the
tokens that follow. A clause may begin after the last comma. Without a
comma behind it, a last `NOT` would take the next word for its operand. -/
def paths? : List Token → Option (List (List Word) × List Token)
  | .word w :: .point :: rest =>
    match paths? rest with
    | some (path :: paths, after) => some ((w :: path) :: paths, after)
    | _ => none
  | .word w :: .comma :: rest =>
    if startsWith Word.clauseKeywords rest then some ([[w]], rest)
    else (paths? rest).map fun r => ([w] :: r.1, r.2)
  | .word w :: rest => if w.isKeyword "NOT" then none else some ([[w]], rest)
  | _ => none

/-- The columns that tokens start with, none for an asterisk, and the tokens
that follow. -/
def columns? : List Token → Option (Option (List ColumnName) × List Token)
  | .star :: .comma :: rest =>
    if startsWith Word.clauseKeywords rest then some (none, rest) else none
  | .star :: rest => some (none, rest)
  | tokens =>
    if startsWith Word.openingKeywords tokens then none
    else do
      let (paths, rest) ← paths? tokens
      return (some (← paths.mapM ColumnName.ofPath?), rest)

/-- The table that tokens name, with nothing but semicolons behind it. -/
def table? (tokens : List Token) : Option TableName :=
  if startsWith Word.relationKeywords tokens then none
  else
    match Token.path? tokens with
    | some (path, rest) =>
      if rest.all (· = .semicolon) then TableName.ofParts? (path.map Word.name) else none
    | none => none

/-- The selection that tokens spell. -/
def ofTokens? (tokens : List Token) : Option Selection := do
  let tokens ← afterKeyword? "SELECT" (tokens.dropWhile (· = .semicolon))
  let (columns, tokens) ← columns? tokens
  let tokens ← afterKeyword? "FROM" tokens
  return ⟨columns, ← table? tokens⟩

/-- The selection that a text spells. -/
def ofText? (s : String) : Option Selection := (Token.ofText? s).bind ofTokens?

/-- What is selected from the tables of a catalog. Every column must belong
to the table. -/
def run? (q : Selection) (catalog : Catalog) : Option Table := do
  let table ← catalog.find? q.table
  match q.columns with
  | none => return table
  | some columns =>
    if columns.all (·.belongsTo q.table) then table.select? (columns.map (·.column)) else none

end Selection

end DataQuality
