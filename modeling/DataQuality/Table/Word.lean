/-!
# Words — the parts of names, and keywords

A word stands in quotes or without them. Outside quotes its letters are the
same in either case, and it may be a keyword: which ones can name a column
depends on where they stand in a query.
-/

namespace DataQuality

/-- A word: its text, and the mark it was quoted by. -/
structure Word where
  text : String
  quote : Option Char
  deriving DecidableEq

namespace Word

/-- The name that a word gives. Outside quotes the capitals of ASCII are
the same as the small letters. -/
def name (w : Word) : String :=
  if w.quote.isSome then w.text else String.ofList (w.text.toList.map Char.toLower)

/-- Whether a word stood between apostrophes, as values do. -/
def isText (w : Word) : Bool := w.quote == some '\x27'

/-- Whether a word names a variable of the engine. -/
def isVariable (w : Word) : Bool := w.text.toList.head? == some '@'

/-! ## Keywords -/

/-- The capitals of a letter, as far as they are of ASCII. A ligature and
the sharp s have several. -/
def capitals : Char → List Char
  | 'ı' => ['I']
  | 'ſ' => ['S']
  | 'ß' => ['S', 'S']
  | 'ﬀ' => ['F', 'F']
  | 'ﬁ' => ['F', 'I']
  | 'ﬂ' => ['F', 'L']
  | 'ﬃ' => ['F', 'F', 'I']
  | 'ﬄ' => ['F', 'F', 'L']
  | 'ﬅ' => ['S', 'T']
  | 'ﬆ' => ['S', 'T']
  | c => [c.toUpper]

/-- Whether a word is one of these keywords, which are given in capitals. -/
def isOneOf (w : Word) (keywords : List String) : Bool :=
  w.quote.isNone && keywords.contains (String.ofList (w.text.toList.flatMap capitals))

/-- Whether a word is this keyword. -/
def isKeyword (w : Word) (keyword : String) : Bool := w.isOneOf [keyword]

/-- The keywords that do not name the first column: those that say which
rows count, and the one behind the columns. -/
def openingKeywords : List String := ["ALL", "DISTINCT", "TOP", "FROM"]

/-- The keywords that a clause starts with. After a comma they end the
columns. -/
def clauseKeywords : List String :=
  ["WITH", "EXPLAIN", "ANALYZE", "SELECT", "WHERE", "GROUP", "SORT", "HAVING", "ORDER", "TOP",
   "LATERAL", "VIEW", "LIMIT", "OFFSET", "FETCH", "UNION", "EXCEPT", "EXCLUDE", "INTERSECT",
   "MINUS", "CLUSTER", "DISTRIBUTE", "RETURNING", "FROM", "INTO", "END"]

/-- The keywords that are a value or start an expression wherever a column
may stand. -/
def valueKeywords : List String :=
  ["TRUE", "FALSE", "NULL", "EXISTS", "INTERVAL", "STRUCT", "TRIM"]

/-- The keywords that call a function without parentheses. They name a column
where there is no such function. -/
def callKeywords : List String :=
  ["CURRENT_CATALOG", "CURRENT_USER", "SESSION_USER", "USER", "CURRENT_TIMESTAMP",
   "CURRENT_TIME", "CURRENT_DATE", "LOCALTIME", "LOCALTIMESTAMP"]

/-- Whether a word calls a function the engine has. Those without
parentheses read the clock. -/
def readsClock (w : Word) : Bool :=
  w.isOneOf callKeywords &&
    ["current_timestamp", "current_time", "current_date"].contains w.name

/-- The keywords that start what is no name where a table may stand. -/
def relationKeywords : List String := ["LATERAL", "TABLE", "UNNEST"]

end Word

end DataQuality
