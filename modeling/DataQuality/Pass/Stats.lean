import DataQuality.Json.Decode
/-!
# Pass counters, and the measure read off them

The counters say what became of the rows of a pass and of the results of
its checks. The measure is the part of the evaluated rows that is clean.
-/

namespace DataQuality

open Json (Tree Decoder)

/-- What happened in a pass. -/
structure PassStats where
  /-- The rows that were handed to the pass. -/
  visited : Nat := 0
  /-- The rows whose checks were evaluated. -/
  evaluated : Nat := 0
  /-- The rows that could not be bound. -/
  skippedRows : Nat := 0
  /-- The results that are no truth values. -/
  excluded : Nat := 0
  /-- The rows judged dirty. -/
  dirtyRows : Nat := 0
  deriving DecidableEq

namespace PassStats

/-- The part of the evaluated rows that is dirty, at most all of them; none
if none was evaluated. -/
def dirtyPart (dirty evaluated : Nat) : Float :=
  if evaluated = 0 then 0.0
  else Float.ofNat (min dirty evaluated) / Float.ofNat evaluated

/-- The part of the evaluated rows that is clean. -/
def measure (s : PassStats) : Float := 1.0 - dirtyPart s.dirtyRows s.evaluated

/-- Where no more rows are dirty than were evaluated, the measure is one minus
their quotient, and one if none was evaluated. -/
theorem measure_eq {s : PassStats} (h : s.dirtyRows ≤ s.evaluated) :
    s.measure = if s.evaluated = 0 then 1.0
      else 1.0 - Float.ofNat s.dirtyRows / Float.ofNat s.evaluated := by
  rw [measure, dirtyPart, Nat.min_eq_left h]
  split
  · rfl
  · rfl

/-- The tree of the counters. -/
def toTree (s : PassStats) : Tree :=
  .object (Tree.field "visited" (Tree.ofNat s.visited) ++
    Tree.field "evaluated" (Tree.ofNat s.evaluated) ++
    Tree.field "skippedRows" (Tree.ofNat s.skippedRows) ++
    Tree.field "tupleErrors" (Tree.ofNat s.excluded) ++
    Tree.field "dirtyRows" (Tree.ofNat s.dirtyRows))

/-- The counters of a tree. -/
def decode : Decoder PassStats := fun room t => do
  let (room, found) ← Json.Decode.fields
    ["visited", "evaluated", "skippedRows", "tupleErrors", "dirtyRows"] room t
  let visited ← found.required room "visited" Json.Decode.natural
  let evaluated ← found.required room "evaluated" Json.Decode.natural
  let skippedRows ← found.required room "skippedRows" Json.Decode.natural
  let excluded ← found.required room "tupleErrors" Json.Decode.natural
  let dirtyRows ← found.required room "dirtyRows" Json.Decode.natural
  return ⟨visited, evaluated, skippedRows, excluded, dirtyRows⟩

end PassStats

end DataQuality
