import DataQuality.Json.Basic
import DataQuality.Time.Instant
/-!
# Values — what cells hold and checks result in

A value is data of one of several kinds, nothing, or an error. Errors are
values because one bad row must not end a pass: whoever uses a result
decides whether an error counts.
-/

namespace DataQuality

/-- The content of a cell or the result of an expression. -/
inductive Value where
  | null
  | bool (value : Bool)
  | int (value : Int64)
  | float (value : Float)
  | dateTime (value : Time.Instant)
  | string (value : String)
  | array (items : List Value)
  | error (message : String)
  | json (value : Json)

/-- Why a JSON element is no plain value. -/
inductive ScalarError where
  | notScalar (element : Json)

/-- The wording of the error. -/
def ScalarError.message : ScalarError → String
  | notScalar element => "Cannot decode JSON element " ++ element.text ++ " as a scalar value"

namespace Value

instance : Inhabited Value := ⟨null⟩

/-! ## Classification -/

/-- The name of the value's kind. -/
def kind : Value → String
  | null => "Null"
  | bool _ => "Bool"
  | int _ => "Int"
  | float _ => "Float"
  | dateTime _ => "DateTime"
  | string _ => "String"
  | array _ => "Array"
  | error _ => "Error"
  | json _ => "Json"

/-- Whether the value is an error. -/
def isError : Value → Bool
  | error _ => true
  | _ => false

/-- Whether the value is nothing: null or the empty string. -/
def isBlank : Value → Bool
  | null => true
  | string s => s.isEmpty
  | json .null => true
  | _ => false

/-- Whether the value is data: neither blank nor an error. -/
def isData (v : Value) : Bool := !v.isError && !v.isBlank

/-- The truth value of a value that is one. -/
def toBool? : Value → Option Bool
  | bool b => some b
  | json (.bool b) => some b
  | _ => none

/-- The integer of a value that is one; floats are not cut. -/
def toInt64? : Value → Option Int64
  | int n => some n
  | json (.number n) => n.toInt64?
  | _ => none

/-- The number of a numeric value as a float. An integer is rounded to the
nearest float. -/
def toFloat? : Value → Option Float
  | int n => some (Float.ofInt n.toInt)
  | float x => some x
  | json (.number n) => some n.toFloat
  | _ => none

/-- The text of a value that is a string. -/
def toText? : Value → Option String
  | string s => some s
  | json (.string s) => some s
  | _ => none

/-- The instant of a value that is a date-time. -/
def toInstant? : Value → Option Time.Instant
  | dateTime t => some t
  | _ => none

/-- Whether the value is a number. -/
def isNumeric (v : Value) : Bool := v.toFloat?.isSome

/-! ## Equality -/

mutual

/-- Values are equal when they are of one kind and their parts are equal;
floats as floats. -/
def same : Value → Value → Bool
  | null, null => true
  | bool a, bool b => a == b
  | int a, int b => a == b
  | float a, float b => a == b
  | dateTime a, dateTime b => a == b
  | string a, string b => a == b
  | array a, array b => sameItems a b
  | error a, error b => a == b
  | json a, json b => a == b
  | _, _ => false

/-- Items in order. -/
def sameItems : List Value → List Value → Bool
  | [], [] => true
  | a :: as, b :: bs => same a b && sameItems as bs
  | _, _ => false

end

instance : BEq Value := ⟨same⟩

/-! ## Match literals -/

/-- The plain value of a JSON element. Arrays and objects have none. -/
def ofScalar : Json → Except ScalarError Value
  | .null => .ok null
  | .bool b => .ok (bool b)
  | .number n =>
    match n.toInt64? with
    | some i => .ok (int i)
    | none => .ok (float n.toFloat)
  | .string s => .ok (string s)
  | element => .error (.notScalar element)

/-- Whether two values agree, one of which is no JSON scalar: two numbers
by their floats, everything else by equality. -/
def agrees (v literal : Value) : Bool :=
  match v.toFloat?, literal.toFloat? with
  | some x, some y => x == y
  | _, _ => v == literal

/-- Whether the value matches a literal. A JSON scalar matches what its
plain value matches. -/
def matchesLiteral (v literal : Value) : Bool :=
  match v with
  | json element =>
    match ofScalar element with
    | .ok plain => plain.agrees literal
    | .error _ => v.agrees literal
  | _ => v.agrees literal

end Value

end DataQuality
