import DataQuality.Json.Decode
import DataQuality.Time.Rfc3339
import DataQuality.Value.Basic
/-!
# Values in JSON texts

A value is written as plain JSON, which does not say its kind. Reading
takes the first kind that fits: an integer of 64 bits before a float, a
date-time before a string, an array always as an array of values, and an
object with one `message` that is a string as an error.
-/

namespace DataQuality

namespace Value

open Json (Tree)

mutual

/-- The tree that is written for a value. -/
def toTree : Value → Tree
  | null => .null
  | bool b => .bool b
  | int n => .number (Decimal.Numeral.ofInt n.toInt)
  | float x => Tree.ofFloat x
  | dateTime t => .string (Text.quoteBody (t.text "Z"))
  | string s => Tree.ofString s
  | array items => .array (toItems items)
  | error message => .object (Tree.field "message" (Tree.ofString message))
  | json j => j.toTree

/-- The trees of the items. -/
def toItems : List Value → List Tree
  | [] => []
  | v :: rest => toTree v :: toItems rest

end

/-- The value of a string: the date-time it names, else the string. -/
def ofText (s : String) : Value :=
  match Time.Instant.ofText? s.toList with
  | some t => dateTime t
  | none => string s

/-- The value of a number: an integer of 64 bits with sign, else a float. -/
def ofNumber (n : Json.Number) : Value :=
  match n.toInt64? with
  | some i => int i
  | none => float n.toFloat

/-- The message of an object that stands for an error. -/
def errorMessage? (fields : List (List Char × Tree)) : Option String :=
  match fields.filter fun f => Json.bodyText? f.1 == some "message" with
  | [(_, .string body)] => Json.bodyText? body
  | _ => none

mutual

/-- The value of a tree, unless a number is out of range or a string holds
an unpaired surrogate. -/
def ofTree? : Tree → Option Value
  | .null => some null
  | .bool b => some (bool b)
  | .number n => (Json.Number.ofNumeral? n).map ofNumber
  | .string body => (Json.bodyText? body).map ofText
  | .array items => (ofItems? items).map array
  | .object fields =>
    match Json.ofTree? (.object fields) with
    | none => none
    | some j =>
      match errorMessage? fields with
      | some message => some (error message)
      | none => some (json j)

/-- The values of the items. -/
def ofItems? : List Tree → Option (List Value)
  | [] => some []
  | t :: rest =>
    match ofTree? t, ofItems? rest with
    | some v, some vs => some (v :: vs)
    | _, _ => none

end

/-- A value, nested no deeper than is allowed here. -/
def decode : Json.Decoder Value
  | room, t => if t.depth ≤ room then ofTree? t else none

/-- The value of a whole text. -/
def parse? (s : String) : Option Value := Json.Decode.text? decode s

/-- The value as a JSON text. -/
def jsonText (v : Value) : String := v.toTree.text

end Value

end DataQuality
