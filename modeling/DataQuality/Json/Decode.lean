import DataQuality.Json.Basic
import DataQuality.Json.Reader
/-!
# Decoding — domain values from document trees

A record is written as an object, or as the array of its fields in order.
Fields a record does not know are passed over unread, whatever they hold;
a known field may stand once. Known content may be nested 127 levels deep.
-/

namespace DataQuality

namespace Json

/-- A reader of one kind of value. The number is how many arrays and
objects may still be entered. -/
abbrev Decoder (α : Type) := Nat → Tree → Option α

/-- How many arrays and objects of a text may lie inside one another. -/
def nestingLimit : Nat := 127

namespace Decode

/-- The value of a whole text. -/
def text? {α : Type} (decode : Decoder α) (s : String) : Option α := do
  decode nestingLimit (← Tree.ofText? s.toList)

/-- Any string. -/
def string : Decoder String
  | _, .string body => bodyText? body
  | _, _ => none

/-- A truth value. -/
def bool : Decoder Bool
  | _, .bool b => some b
  | _, _ => none

/-- A natural below `2 ^ 64`, written as an integer. -/
def natural : Decoder Nat
  | _, .number n =>
    match Number.ofNumeral? n with
    | some (.integer value _ _) => if 0 ≤ value then some value.toNat else none
    | _ => none
  | _, _ => none

/-- Null, or a value. -/
def optional {α : Type} (decode : Decoder α) : Decoder (Option α)
  | _, .null => some none
  | room, t => (decode room t).map some

/-- The values of all items, if each has one. -/
def items? {α : Type} (decode : Tree → Option α) : List Tree → Option (List α)
  | [] => some []
  | t :: rest =>
    match decode t, items? decode rest with
    | some a, some as => some (a :: as)
    | _, _ => none

/-- An array. -/
def list {α : Type} (decode : Decoder α) : Decoder (List α)
  | room + 1, .array items => items? (decode room) items
  | _, _ => none

/-- A document, nested no deeper than is allowed here. -/
def document : Decoder Json
  | room, t => if t.depth ≤ room then ofTree? t else none

/-- One of a set of words, written as a string or as the only field of an
object, whose value is null. -/
def word {α : Type} (parse : String → Option α) : Decoder α
  | _, .string body => do parse (← bodyText? body)
  | _ + 1, .object [(body, .null)] => do parse (← bodyText? body)
  | _, _ => none

/-! ## Records -/

/-- The known fields of a record, by name. -/
abbrev Fields := List (String × Tree)

/-- Picks the fields with known names. Fails if one of them is repeated or
a name is no text. -/
def pick (names : List String) : List (List Char × Tree) → Option Fields
  | [] => some []
  | (body, t) :: rest =>
    match bodyText? body, pick names rest with
    | some name, some found =>
      if names.contains name then
        if found.any (·.1 == name) then none else some ((name, t) :: found)
      else some found
    | _, _ => none

/-- The known fields of a record and the room inside it. -/
def fields (names : List String) : Nat → Tree → Option (Nat × Fields)
  | room + 1, .object all => (pick names all).map (room, ·)
  | room + 1, .array items =>
    if items.length ≤ names.length then some (room, names.zip items) else none
  | _, _ => none

/-- The tree of a field that is there. -/
def Fields.find? (found : Fields) (name : String) : Option Tree :=
  (List.find? (·.1 == name) found).map Prod.snd

/-- A field that must be there. -/
def Fields.required {α : Type} (found : Fields) (room : Nat) (name : String)
    (decode : Decoder α) : Option α := do
  decode room (← found.find? name)

/-- A field that may be left out. -/
def Fields.withDefault {α : Type} (found : Fields) (room : Nat) (name : String) (default : α)
    (decode : Decoder α) : Option α :=
  match found.find? name with
  | some t => decode room t
  | none => some default

end Decode

/-! ## Building trees -/

namespace Tree

/-- A text as a string. -/
def ofString (s : String) : Tree := .string (Text.quoteBody s.toList)

/-- A natural as a number. -/
def ofNat (n : Nat) : Tree := .number (Decimal.Numeral.ofInt n)

/-- A float as a number; what is not finite is written as null. -/
def ofFloat (x : Float) : Tree :=
  if x.isFinite then .number (Number.layout.ofFloat x) else .null

/-- A value or null. -/
def ofOption {α : Type} (encode : α → Tree) : Option α → Tree
  | some a => encode a
  | none => .null

/-- One field of a record. -/
def field (name : String) (t : Tree) : List (List Char × Tree) :=
  [(Text.quoteBody name.toList, t)]

/-- A field that is written only when there is a value. -/
def field? {α : Type} (name : String) (encode : α → Tree) : Option α → List (List Char × Tree)
  | some a => field name (encode a)
  | none => []

/-- The tree as text on one line. -/
def text (t : Tree) : String := String.ofList t.compact

end Tree

end Json

end DataQuality
