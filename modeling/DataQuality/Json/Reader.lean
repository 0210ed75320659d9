import DataQuality.Json.Tree
import DataQuality.Text.Quoted
/-!
# Reading JSON texts

The grammar is the strict one: four blank characters, no comments, no
comma after a last item, no leading zeros. Nothing is refused for what it
means; numbers out of range and unpaired surrogates are read.
-/

namespace DataQuality

namespace Json

open Decimal (Numeral ofDigits)
open Text (scanBody)

/-- The blanks of the grammar: space, tab, line feed, carriage return. -/
def isSpace (c : Char) : Bool := c == ' ' || c == '\t' || c == '\n' || c == '\r'

/-- The text without its leading blanks. -/
def dropSpaces (s : List Char) : List Char := s.dropWhile isSpace

/-- The digits before a point: a zero alone, or digits not led by zero. -/
def scanWhole (s : List Char) : Option (List Char × List Char) :=
  match s.takeWhile Char.isDigit with
  | [] => none
  | '0' :: _ :: _ => none
  | run => some (run, s.dropWhile Char.isDigit)

/-- A point and at least one digit; or nothing. -/
def scanFraction : List Char → Option (List Char × List Char)
  | '.' :: s =>
    match s.takeWhile Char.isDigit with
    | [] => none
    | run => some (run, s.dropWhile Char.isDigit)
  | s => some ([], s)

/-- At least one digit, as a natural. -/
def scanNatural (s : List Char) : Option (Nat × List Char) :=
  match s.takeWhile Char.isDigit with
  | [] => none
  | run => some (ofDigits run, s.dropWhile Char.isDigit)

/-- A power of ten with an optional sign. -/
def scanSigned : List Char → Option (Int × List Char)
  | '+' :: s => (scanNatural s).map fun r => ((r.1 : Int), r.2)
  | '-' :: s => (scanNatural s).map fun r => (-(r.1 : Int), r.2)
  | s => (scanNatural s).map fun r => ((r.1 : Int), r.2)

/-- The mark of a power of ten and its value; or nothing. -/
def scanExponent : List Char → Option (Option Int × List Char)
  | 'e' :: s => (scanSigned s).map fun r => (some r.1, r.2)
  | 'E' :: s => (scanSigned s).map fun r => (some r.1, r.2)
  | s => some (none, s)

/-- An unsigned numeral at the front of a text. -/
def scanUnsigned (negative : Bool) (s : List Char) : Option (Numeral × List Char) := do
  let (whole, s) ← scanWhole s
  let (fraction, s) ← scanFraction s
  let (exponent, s) ← scanExponent s
  return (⟨negative, whole, fraction, exponent⟩, s)

/-- A numeral at the front of a text. -/
def scanNumeral : List Char → Option (Numeral × List Char)
  | '-' :: s => scanUnsigned true s
  | s => scanUnsigned false s

mutual

/-- The tree at the front of a text without leading blanks. Each step
inward or onward takes one from `fuel`. -/
def scanTree : Nat → List Char → Option (Tree × List Char)
  | 0, _ => none
  | fuel + 1, s =>
    match s with
    | 'n' :: 'u' :: 'l' :: 'l' :: rest => some (.null, rest)
    | 't' :: 'r' :: 'u' :: 'e' :: rest => some (.bool true, rest)
    | 'f' :: 'a' :: 'l' :: 's' :: 'e' :: rest => some (.bool false, rest)
    | '"' :: rest => (scanBody rest).map fun r => (.string r.1, r.2)
    | '[' :: rest =>
      match dropSpaces rest with
      | ']' :: rest => some (.array [], rest)
      | rest => (scanItems fuel rest).map fun r => (.array r.1, r.2)
    | '{' :: rest =>
      match dropSpaces rest with
      | '}' :: rest => some (.object [], rest)
      | rest => (scanFields fuel rest).map fun r => (.object r.1, r.2)
    | s => (scanNumeral s).map fun r => (.number r.1, r.2)

/-- Items up to the bracket that closes their array. -/
def scanItems : Nat → List Char → Option (List Tree × List Char)
  | 0, _ => none
  | fuel + 1, s =>
    match scanTree fuel s with
    | none => none
    | some (t, rest) =>
      match dropSpaces rest with
      | ',' :: rest => (scanItems fuel (dropSpaces rest)).map fun r => (t :: r.1, r.2)
      | ']' :: rest => some ([t], rest)
      | _ => none

/-- Fields up to the brace that closes their object. -/
def scanFields : Nat → List Char → Option (List (List Char × Tree) × List Char)
  | 0, _ => none
  | fuel + 1, s =>
    match s with
    | '"' :: rest =>
      match scanBody rest with
      | none => none
      | some (k, rest) =>
        match dropSpaces rest with
        | ':' :: rest =>
          match scanTree fuel (dropSpaces rest) with
          | none => none
          | some (t, rest) =>
            match dropSpaces rest with
            | ',' :: rest => (scanFields fuel (dropSpaces rest)).map fun r => ((k, t) :: r.1, r.2)
            | '}' :: rest => some ([(k, t)], rest)
            | _ => none
        | _ => none
    | _ => none

end

/-- The tree of a whole text. Two steps for each character are enough. -/
def Tree.ofText? (s : List Char) : Option Tree :=
  match scanTree (2 * s.length + 2) (dropSpaces s) with
  | some (t, rest) => if (dropSpaces rest).isEmpty then some t else none
  | none => none

end Json

end DataQuality
