import DataQuality.Json.Number
import DataQuality.Json.Tree
import DataQuality.OrderedMap
import DataQuality.Text.Quoted
/-!
# Documents — the values a JSON text stands for

A document has no field twice and no order of fields: the fields of an
object are kept ascending by name, and of repeated fields the last counts.
-/

namespace DataQuality

/-- A JSON document. The fields of an object are ascending by name. -/
inductive Json where
  | null
  | bool (value : Bool)
  | number (value : Json.Number)
  | string (value : String)
  | array (items : List Json)
  | object (fields : List (String × Json))

namespace Json

open Text (quoteBody unquoteBody?)

/-! ## Equality -/

mutual

/-- Documents are equal when their parts are; floats as floats. -/
def same : Json → Json → Bool
  | null, null => true
  | bool a, bool b => a == b
  | number a, number b => a == b
  | string a, string b => a == b
  | array a, array b => sameItems a b
  | object a, object b => sameFields a b
  | _, _ => false

/-- Items in order. -/
def sameItems : List Json → List Json → Bool
  | [], [] => true
  | a :: as, b :: bs => same a b && sameItems as bs
  | _, _ => false

/-- Fields in order, with their names. -/
def sameFields : List (String × Json) → List (String × Json) → Bool
  | [], [] => true
  | (k, a) :: as, (l, b) :: bs => k == l && same a b && sameFields as bs
  | _, _ => false

end

instance : BEq Json := ⟨same⟩

/-! ## Reading -/

/-- The text of a string's body, if it is one. -/
def bodyText? (body : List Char) : Option String := (unquoteBody? body).map String.ofList

mutual

/-- The document of a tree, unless a number is out of range or a string
holds an unpaired surrogate. -/
def ofTree? : Tree → Option Json
  | .null => some null
  | .bool b => some (bool b)
  | .number n => (Number.ofNumeral? n).map number
  | .string body => (bodyText? body).map string
  | .array items => (ofItems? items).map array
  | .object fields => (ofFields? [] fields).map object

/-- The documents of the items. -/
def ofItems? : List Tree → Option (List Json)
  | [] => some []
  | t :: rest =>
    match ofTree? t, ofItems? rest with
    | some j, some js => some (j :: js)
    | _, _ => none

/-- The fields written one after another over `done`. -/
def ofFields? (done : List (String × Json)) :
    List (List Char × Tree) → Option (List (String × Json))
  | [] => some done
  | (k, t) :: rest =>
    match bodyText? k, ofTree? t with
    | some k, some j => ofFields? (OrderedMap.insertEntry k j done) rest
    | _, _ => none

end

/-! ## Writing -/

mutual

/-- The tree that is written for a document. There is no numeral for what
is not finite, and null is written. -/
def toTree : Json → Tree
  | null => .null
  | bool b => .bool b
  | number (.float x) => if x.isFinite then .number (Number.toNumeral (.float x)) else .null
  | number n => .number n.toNumeral
  | string s => .string (quoteBody s.toList)
  | array items => .array (toItems items)
  | object fields => .object (toFields fields)

/-- The trees of the items. -/
def toItems : List Json → List Tree
  | [] => []
  | j :: rest => toTree j :: toItems rest

/-- The trees of the fields. -/
def toFields : List (String × Json) → List (List Char × Tree)
  | [] => []
  | (k, j) :: rest => (quoteBody k.toList, toTree j) :: toFields rest

end

/-- The document on one line. -/
def text (j : Json) : String := String.ofList j.toTree.compact

end Json

end DataQuality
