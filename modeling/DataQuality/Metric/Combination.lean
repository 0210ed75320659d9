import DataQuality.Json.Decode
/-!
# Combination — from the results of checks to a verdict on a row

A row has one result for each check that gave a truth value. How results
combine is a choice of three; a row without results is never dirty.
-/

namespace DataQuality

/-- Which results make a row clean. -/
inductive Combination where
  /-- All of them are true. -/
  | all
  /-- Some of them is true. -/
  | any
  /-- One of them is true and no other. -/
  | exactlyOne
  deriving DecidableEq

namespace Combination

/-- Whether a row with these results is dirty. -/
def isDirty (c : Combination) (results : List Bool) : Bool :=
  !results.isEmpty &&
    match c with
    | all => results.any (!·)
    | any => results.all (!·)
    | exactlyOne => results.count true != 1

@[simp] theorem isDirty_nil (c : Combination) : c.isDirty [] = false := rfl

/-- The word of a combination. -/
def word : Combination → String
  | all => "and"
  | any => "or"
  | exactlyOne => "xor"

/-- The combination of a word. -/
def ofWord? : String → Option Combination
  | "and" => some all
  | "or" => some any
  | "xor" => some exactlyOne
  | _ => none

/-- The combination of a tree. -/
def decode : Json.Decoder Combination := Json.Decode.word ofWord?

/-- The tree of a combination. -/
def toTree (c : Combination) : Json.Tree := Json.Tree.ofString c.word

end Combination

end DataQuality
