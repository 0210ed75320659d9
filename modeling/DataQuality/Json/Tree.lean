import DataQuality.Decimal.Numeral
/-!
# Document trees — a JSON text as written

A tree keeps what the text says: the order of fields, repeated fields, the
parts of a number, the body of a string. What a number or a string means
is decided by whoever reads the tree. Writing is by way of trees too, so
fields come out in the order they were put in.
-/

namespace DataQuality

namespace Json

open Decimal (Numeral)

/-- A JSON text as written. Strings and field names are bodies. -/
inductive Tree where
  | null
  | bool (value : Bool)
  | number (numeral : Numeral)
  | string (body : List Char)
  | array (items : List Tree)
  | object (fields : List (List Char × Tree))

namespace Tree

/-- A body between quotes. -/
def quoted (body : List Char) : List Char := '"' :: body ++ ['"']

/-! ## One line -/

mutual

/-- The tree as text without blanks. -/
def compact : Tree → List Char
  | null => ['n', 'u', 'l', 'l']
  | bool true => ['t', 'r', 'u', 'e']
  | bool false => ['f', 'a', 'l', 's', 'e']
  | number n => n.text
  | string body => quoted body
  | array items => '[' :: compactItems items ++ [']']
  | object fields => '{' :: compactFields fields ++ ['}']

/-- Items with a comma between neighbours. -/
def compactItems : List Tree → List Char
  | [] => []
  | [t] => compact t
  | t :: u :: rest => compact t ++ ',' :: compactItems (u :: rest)

/-- Fields with a comma between neighbours. -/
def compactFields : List (List Char × Tree) → List Char
  | [] => []
  | [(k, t)] => quoted k ++ ':' :: compact t
  | (k, t) :: u :: rest => quoted k ++ ':' :: compact t ++ ',' :: compactFields (u :: rest)

end

/-! ## Indented lines -/

/-- A line break and two spaces for each level. -/
def newline (level : Nat) : List Char := '\n' :: List.replicate (2 * level) ' '

mutual

/-- The tree on indented lines, its first line standing at `level`. An
empty array or object takes no line. -/
def pretty (level : Nat) : Tree → List Char
  | array [] => ['[', ']']
  | object [] => ['{', '}']
  | array items => '[' :: prettyItems (level + 1) items ++ newline level ++ [']']
  | object fields => '{' :: prettyFields (level + 1) fields ++ newline level ++ ['}']
  | null => ['n', 'u', 'l', 'l']
  | bool true => ['t', 'r', 'u', 'e']
  | bool false => ['f', 'a', 'l', 's', 'e']
  | number n => n.text
  | string body => quoted body

/-- Items on lines of their own. -/
def prettyItems (level : Nat) : List Tree → List Char
  | [] => []
  | [t] => newline level ++ pretty level t
  | t :: u :: rest => newline level ++ pretty level t ++ ',' :: prettyItems level (u :: rest)

/-- Fields on lines of their own. -/
def prettyFields (level : Nat) : List (List Char × Tree) → List Char
  | [] => []
  | [(k, t)] => newline level ++ quoted k ++ ':' :: ' ' :: pretty level t
  | (k, t) :: u :: rest =>
    newline level ++ quoted k ++ ':' :: ' ' :: pretty level t ++ ',' :: prettyFields level (u :: rest)

end

/-! ## Nesting -/

mutual

/-- How many arrays and objects lie inside one another. -/
def depth : Tree → Nat
  | array items => depthItems items + 1
  | object fields => depthFields fields + 1
  | _ => 0

/-- The greatest depth of the items. -/
def depthItems : List Tree → Nat
  | [] => 0
  | t :: rest => max (depth t) (depthItems rest)

/-- The greatest depth of the fields. -/
def depthFields : List (List Char × Tree) → Nat
  | [] => 0
  | (_, t) :: rest => max (depth t) (depthFields rest)

end

end Tree

end Json

end DataQuality
