import DataQuality.Text.Blank
/-!
# Scanning — readers that take a text apart from the left

A scan either fails or yields a value and what is left of the text. The
leaves here take single characters, runs of them, blanks and digits.
-/

namespace DataQuality

namespace Text

/-- A reader of the front of a text. -/
abbrev Scan (α : Type) := StateT (List Char) Option α

namespace Scan

/-- What the scan makes of the whole text, if it leaves nothing. -/
def all? {α : Type} (scan : Scan α) (s : List Char) : Option α :=
  match scan.run s with
  | some (a, []) => some a
  | _ => none

/-- Takes the next character if `p` accepts it. -/
def satisfy (p : Char → Bool) : Scan Char := fun
  | c :: rest => if p c then some (c, rest) else none
  | [] => none

/-- Takes exactly the character `c`. -/
def char (c : Char) : Scan Unit := do
  let _ ← satisfy (· == c)

/-- The next character, which stays in place. -/
def peek? : Scan (Option Char) := fun s => some (s.head?, s)

/-- Takes the longest run of characters `p` accepts; it may be empty. -/
def run (p : Char → Bool) : Scan (List Char) := fun s => some (s.takeWhile p, s.dropWhile p)

/-- Passes over blanks. -/
def blanks : Scan Unit := fun s => some ((), dropBlanks s)

/-- Takes at most `width` decimal digits, and at least one. -/
def digits (width : Nat) : Scan (List Char) := fun s =>
  let found := (s.take width).takeWhile Char.isDigit
  if found.isEmpty then none else some (found, s.drop found.length)

end Scan

end Text

end DataQuality
