import DataQuality.Time.Rfc3339
import DataQuality.Value.Basic
/-!
# Values as text

The text of a value is for readers: strings stand without quotes, floats
without a power of ten, and null is the empty text.
-/

namespace DataQuality

namespace Value

/-- Floats are shown positionally with the fewest digits that read back, a
half up, and an integral float without a point. -/
def layout : Decimal.Layout := ⟨fun _ => true, false, .up⟩

/-- The text of a float. -/
def floatText (x : Float) : List Char :=
  if x.isNaN then "NaN".toList
  else if x.isInf then (if Decimal.isSigned x then "-inf" else "inf").toList
  else (layout.ofFloat x).text

mutual

/-- The characters of a value's text. -/
def chars : Value → List Char
  | null => []
  | bool true => "true".toList
  | bool false => "false".toList
  | int n => Decimal.integerText n.toInt
  | float x => floatText x
  | dateTime t => t.text "+00:00"
  | string s => s.toList
  | array items => '[' :: itemChars items ++ [']']
  | error message => "#ERROR: ".toList ++ message.toList
  | json j => j.toTree.compact

/-- Items with a comma and a space between neighbours. -/
def itemChars : List Value → List Char
  | [] => []
  | [v] => chars v
  | v :: w :: rest => chars v ++ ", ".toList ++ itemChars (w :: rest)

end

/-- The text of a value. -/
def text (v : Value) : String := String.ofList v.chars

end Value

end DataQuality
