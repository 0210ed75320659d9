import DataQuality.Table.Word
import DataQuality.Text.Alphabetic
/-!
# Tokens — the words and marks of names and queries

Names of tables and queries are written in words, points, commas and a few
other marks, with blanks and comments anywhere between them. A word in
quotes may hold any character, and a quote in it is written twice.
-/

namespace DataQuality

/-- A piece of a name or of a query. A gap is a blank or a comment. -/
inductive Token where
  | word (w : Word)
  | point
  | comma
  | star
  | semicolon
  | gap
  deriving DecidableEq

namespace Token

/-- Whether a token is a word that can name a table. -/
def isName : Token → Bool
  | word w => !w.isText
  | _ => false

/-- Whether a character starts a word. -/
def startsWord (c : Char) : Bool := Text.isAlphabetic c || c == '_'

/-- Whether a character goes on with a word. -/
def continuesWord (c : Char) : Bool :=
  Text.isAlphabetic c || c.isDigit || ['@', '$', '#', '_'].contains c

/-- The word without quotes that starts like this, and what follows it. -/
def plainWord (start rest : List Char) : Token × List Char :=
  (word ⟨String.ofList (start ++ rest.takeWhile continuesWord), none⟩,
    rest.dropWhile continuesWord)

/-- The word after a number sign, which is a part of it. The character next
to the sign may be any that makes no operator of it. -/
def numberSignWord? : List Char → Option (Token × List Char)
  | [] => none
  | c :: rest =>
    if [' ', '-', '>'].contains c then none else some (plainWord ['#', c] rest)

/-- The word after an at sign, which is a part of it. A second sign may
follow, and then any character that makes no operator of the first. -/
def atSignWord? : List Char → Option (Token × List Char)
  | [] => none
  | '@' :: [] => none
  | '@' :: c :: rest => if c = ' ' then none else some (plainWord ['@', '@', c] rest)
  | c :: rest =>
    if [' ', '>', '?', '"', '\x27', '\x60'].contains c then none
    else some (plainWord ['@', c] rest)

/-- The text up to the closing quote, and what follows it. -/
def quotedText? (quote : Char) : List Char → Option (List Char × List Char)
  | [] => none
  | [c] => if c = quote then some ([], []) else none
  | c :: d :: rest =>
    if c = quote then
      if d = quote then (quotedText? quote rest).map fun r => (quote :: r.1, r.2)
      else some ([], d :: rest)
    else (quotedText? quote (d :: rest)).map fun r => (c :: r.1, r.2)

/-- The word in quotes after its opening quote, and what follows it. -/
def quotedWord? (quote : Char) (s : List Char) : Option (Token × List Char) :=
  (quotedText? quote s).map fun r => (word ⟨String.ofList r.1, some quote⟩, r.2)

/-- What follows a comment with `depth` comments around it. -/
def afterComment? : Nat → List Char → Option (List Char)
  | 0, '*' :: '/' :: rest => some rest
  | depth + 1, '*' :: '/' :: rest => afterComment? depth rest
  | depth, '/' :: '*' :: rest => afterComment? (depth + 1) rest
  | depth, _ :: rest => afterComment? depth rest
  | _, [] => none

/-- The point before `rest`. A digit would make a number of it, and an
underscore may follow it only where a name stands right before it. -/
def point? (previous : Option Token) (rest : List Char) : Option (Token × List Char) :=
  match rest with
  | [] => some (point, [])
  | c :: _ =>
    if c.isDigit || (c == '_' && !previous.any isName) then none else some (point, rest)

/-- The first token of a text, which comes after `previous`, and what
follows it. -/
def first? (previous : Option Token) : List Char → Option (Token × List Char)
  | [] => none
  | ',' :: rest => some (comma, rest)
  | '*' :: rest => some (star, rest)
  | ';' :: rest => some (semicolon, rest)
  | '.' :: rest => point? previous rest
  | '#' :: rest => numberSignWord? rest
  | '@' :: rest => atSignWord? rest
  | '-' :: '-' :: rest => some (gap, rest.dropWhile (· != '\n'))
  | '/' :: '*' :: rest => (afterComment? 0 rest).map fun after => (gap, after)
  | c :: rest =>
    if ['"', '\x27', '\x60'].contains c then quotedWord? c rest
    else if Text.isBlank c then some (gap, rest)
    else if startsWord c then some (plainWord [c] rest)
    else none

/-- The tokens of a text that comes after `previous`. Each token takes a
character, and `fuel` bounds their number. -/
def scan : Nat → Option Token → List Char → Option (List Token)
  | _, _, [] => some []
  | 0, _, _ => none
  | fuel + 1, previous, s =>
    match first? previous s with
    | none => none
    | some (token, rest) => (scan fuel (some token) rest).map (token :: ·)

/-- The tokens of a text, gaps apart. -/
def ofText? (s : String) : Option (List Token) :=
  (scan s.length none s.toList).map fun tokens => tokens.filter (· ≠ gap)

/-- The words with points between them that tokens start with, and the
tokens that follow. -/
def path? : List Token → Option (List Word × List Token)
  | word w :: point :: rest => (path? rest).map fun r => (w :: r.1, r.2)
  | word w :: rest => some ([w], rest)
  | _ => none

end Token

end DataQuality
