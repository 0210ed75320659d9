import DataQuality.Json.Decode
import DataQuality.Value.Basic
/-!
# The tagged notation — values that say their kind

Plain JSON does not tell a date-time from its text or a float from an
integer. In the tagged notation every value but null and the truth values
is an object with one field, whose name is the kind: `i` an integer, `f`
the sixteen hexadecimal digits of a float's bits, `s` a string, `d` the
seconds and nanoseconds of an instant, `a` an array, `e` an error and `j`
the text of a document.
-/

namespace DataQuality

namespace Value

/-! ## Reading -/

/-- The number that hexadecimal digits stand for. -/
def hexNatural? (digits : List Char) : Option Nat :=
  digits.foldl (fun n c => do return (← n) * 16 + (← Text.hexValue? c)) (some 0)

/-- The float with these bits, given as sixteen hexadecimal digits. -/
def floatOfHex? (digits : String) : Option Float :=
  if digits.length = 16 then
    (hexNatural? digits.toList).map fun n => Float.ofBits n.toUInt64
  else none

mutual

/-- The value that the notation gives. -/
def ofTagged? : Json → Option Value
  | .null => some null
  | .bool b => some (bool b)
  | .object [("i", .number n)] => n.toInt64?.map int
  | .object [("f", .string digits)] => (floatOfHex? digits).map float
  | .object [("s", .string s)] => some (string s)
  | .object [("d", .array [.number (.integer seconds _ _), .number (.integer nanos _ _)])] =>
    if 0 ≤ nanos then (Time.Instant.ofParts? seconds nanos.toNat).map dateTime else none
  | .object [("a", .array items)] => (ofTaggedItems? items).map array
  | .object [("e", .string message)] => some (error message)
  | .object [("j", .string text)] => (Json.Decode.text? Json.Decode.document text).map json
  | _ => none

/-- The values of the items. -/
def ofTaggedItems? : List Json → Option (List Value)
  | [] => some []
  | j :: rest =>
    match ofTagged? j, ofTaggedItems? rest with
    | some v, some vs => some (v :: vs)
    | _, _ => none

end

/-- The value that a text gives in the notation. -/
def literal? (text : String) : Option Value := do
  ofTagged? (← Json.Decode.text? Json.Decode.document text)

/-! ## Writing -/

/-- The sixteen hexadecimal digits of a float's bits; the bits of what is
no number are not told apart. -/
def hexOfFloat (x : Float) : String :=
  if x.isNaN then "nan"
  else
    let digits := Nat.toDigits 16 x.toBits.toNat
    String.ofList (List.replicate (16 - digits.length) '0' ++ digits)

open Json (Tree)

mutual

/-- The value in the notation. -/
def tagged : Value → Tree
  | null => .null
  | bool b => .bool b
  | int n => .object (Tree.field "i" (.number (Decimal.Numeral.ofInt n.toInt)))
  | float x => .object (Tree.field "f" (Tree.ofString (hexOfFloat x)))
  | string s => .object (Tree.field "s" (Tree.ofString s))
  | dateTime t =>
    .object (Tree.field "d" (.array
      [.number (Decimal.Numeral.ofInt t.seconds), Tree.ofNat t.nanos]))
  | array items => .object (Tree.field "a" (.array (taggedItems items)))
  | error message => .object (Tree.field "e" (Tree.ofString message))
  | json j => .object (Tree.field "j" (Tree.ofString j.text))

/-- The items in the notation. -/
def taggedItems : List Value → List Tree
  | [] => []
  | v :: rest => tagged v :: taggedItems rest

end

end Value

end DataQuality
