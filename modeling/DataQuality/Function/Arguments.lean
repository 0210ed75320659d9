import DataQuality.Decimal.Signed
import DataQuality.Text.Blank
import DataQuality.Value.Basic
/-!
# Arguments — the text between the parentheses of a call

Arguments are literals with commas between them and blanks around them. A
literal is a text in quotes, where a backslash makes the character after
it plain, or a run without commas and blanks that reads as a signed
integer of 64 bits.

The text is taken one character at a time. `Place` is where the reader
stands, and what it has read of a literal is kept there, last first.
-/

namespace DataQuality

namespace Argument

/-- Why a text is no list of arguments. -/
inductive Problem where
  | missing
  | unfinishedEscape
  | unfinishedLiteral
  | unexpectedToken (token : List Char)
  | unexpectedCharacter (c : Char)
  deriving DecidableEq

/-- The wording of a problem. -/
def Problem.message : Problem → String
  | missing => "missing argument after ','"
  | unfinishedEscape => "unterminated escape"
  | unfinishedLiteral => "unterminated string literal"
  | unexpectedToken token => "unexpected token '" ++ String.ofList token ++ "'"
  | unexpectedCharacter c => "unexpected character '" ++ String.singleton c ++ "'"

/-- Where the reader of arguments stands. -/
inductive Place where
  /-- Before an argument. -/
  | before
  /-- Between quotes. -/
  | literal (read : List Char)
  /-- Between quotes and after a backslash. -/
  | escaped (read : List Char)
  /-- In a run without quotes. -/
  | token (read : List Char)
  /-- After an argument. -/
  | after
  deriving DecidableEq

/-- The integer of a run, which is given last character first. -/
def number (read : List Char) : Except Problem Value :=
  match Decimal.readInt64? read.reverse with
  | some n => .ok (.int n)
  | none => .error (.unexpectedToken read.reverse)

/-- Reads on from a place; `done` are the arguments so far, last first. -/
def scan : Place → List Value → List Char → Except Problem (List Value)
  | .before, [], [] => .ok []
  | .before, _ :: _, [] => .error .missing
  | .before, done, c :: rest =>
    if Text.isBlank c then scan .before done rest
    else if c = '"' then scan (.literal []) done rest
    else if c = ',' then .error (.unexpectedToken [])
    else scan (.token [c]) done rest
  | .literal _, _, [] => .error .unfinishedLiteral
  | .literal read, done, c :: rest =>
    if c = '\\' then scan (.escaped read) done rest
    else if c = '"' then scan .after (.string (String.ofList read.reverse) :: done) rest
    else scan (.literal (c :: read)) done rest
  | .escaped _, _, [] => .error .unfinishedEscape
  | .escaped read, done, c :: rest => scan (.literal (c :: read)) done rest
  | .token read, done, [] =>
    match number read with
    | .ok n => .ok (n :: done).reverse
    | .error problem => .error problem
  | .token read, done, c :: rest =>
    if c = ',' then
      match number read with
      | .ok n => scan .before (n :: done) rest
      | .error problem => .error problem
    else if Text.isBlank c then
      match number read with
      | .ok n => scan .after (n :: done) rest
      | .error problem => .error problem
    else scan (.token (c :: read)) done rest
  | .after, done, [] => .ok done.reverse
  | .after, done, c :: rest =>
    if Text.isBlank c then scan .after done rest
    else if c = ',' then scan .before done rest
    else .error (.unexpectedCharacter c)

/-- The arguments of a text. A blank text has none. -/
def parse (s : List Char) : Except Problem (List Value) := scan .before [] s

end Argument

end DataQuality
