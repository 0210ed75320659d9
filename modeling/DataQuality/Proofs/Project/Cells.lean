import DataQuality.Project.Basic
import Mathlib.Data.List.Induction
/-!
# Cells — what a row holds after cells were put into it

To put a cell at a place changes that place and no other (`Row.cell?_setCell`), and
lengthens the row as far as the place and no farther (`Row.size_setCell`). So after any
number of cells, in any order, each place holds what was put there last, or what it held
to begin with, and the row is as long as it was or as its farthest place needs it to be
(`Row.last_cell_is_held`).
-/

namespace DataQuality

/-- A place, and the cell that is put there, or none. -/
structure Placement where
  index : Nat
  cell : Option Cell

variable {placements : List Placement} {p : Placement} {i j : Nat}

namespace Placement

/-- The last of the placements at a place. -/
def lastAt? (placements : List Placement) (i : Nat) : Option Placement :=
  (placements.filter (·.index = i)).getLast?

theorem lastAt?_concat : lastAt? (placements ++ [p]) i =
    if p.index = i then some p else lastAt? placements i := by
  rw [lastAt?, lastAt?, List.getLast?_filter, List.getLast?_filter, List.reverse_concat,
    List.find?_cons]
  by_cases hp : p.index = i
  · rw [if_pos hp, decide_eq_true hp]
  · rw [if_neg hp, decide_eq_false hp]

end Placement

namespace Row

variable {row : Row} {cell : Option Cell}

/-! ## One cell -/

/-- Past its end a row holds no cell. -/
theorem cell?_of_size_le (h : row.size ≤ i) : row.cell? i = none := by
  rw [cell?, List.getElem?_eq_none h, Option.join_none]

/-- **A row grows as far as the place** at which a cell is put. -/
theorem size_setCell : (row.setCell i cell).size = max row.size (i + 1) := by
  rw [setCell, size, size, List.length_set, List.length_append, List.length_replicate]
  omega

/-- Places without cells behind the last one hold no more than there was before. -/
theorem join_getElem?_grown (cells : List (Option Cell)) (n j : Nat) :
    (cells ++ List.replicate n none)[j]?.join = cells[j]?.join := by
  rw [List.getElem?_append]
  split
  · rfl
  · rename_i hpast
    rw [List.getElem?_eq_none (Nat.le_of_not_lt hpast), List.getElem?_replicate]
    split
    · rfl
    · rfl

/-- **Only the place changes** at which a cell is put. -/
theorem cell?_setCell : (row.setCell i cell).cell? j = if i = j then cell else row.cell? j := by
  have hreached : i < (row.cells ++ List.replicate (i + 1 - row.cells.length) none).length := by
    rw [List.length_append, List.length_replicate]
    omega
  rw [cell?, setCell, List.getElem?_set, if_pos hreached]
  by_cases hij : i = j
  · rw [if_pos hij, if_pos hij, Option.join_some]
  · rw [if_neg hij, if_neg hij, join_getElem?_grown, cell?]

/-! ## Any number of cells -/

/-- Puts cells in order. -/
def setAll (row : Row) (placements : List Placement) : Row :=
  placements.foldl (fun row p => row.setCell p.index p.cell) row

/-- The cell that a place ends up with: that of the last placement there; where there is
none, the one it held to begin with; and no cell where the row had no such place. -/
def heldAt (row : Row) (placements : List Placement) (i : Nat) : Option Cell :=
  match Placement.lastAt? placements i with
  | some p => p.cell
  | none => if i < row.size then row.cell? i else none

/-- The number of places that a row ends up with: its own, or one more than the largest
index among the placements. -/
def reach (row : Row) (placements : List Placement) : Nat :=
  match (placements.map Placement.index).max? with
  | some largest => max row.size (largest + 1)
  | none => row.size

theorem setAll_concat :
    row.setAll (placements ++ [p]) = (row.setAll placements).setCell p.index p.cell := by
  rw [setAll, List.foldl_append]
  rfl

theorem heldAt_nil : row.heldAt [] i = row.cell? i := by
  change (if i < row.size then row.cell? i else none) = row.cell? i
  split
  · rfl
  · rename_i hpast
    rw [cell?_of_size_le (Nat.le_of_not_lt hpast)]

/-- One more placement counts at its place. -/
theorem heldAt_concat : row.heldAt (placements ++ [p]) i =
    if p.index = i then p.cell else row.heldAt placements i := by
  rw [heldAt, Placement.lastAt?_concat]
  by_cases hp : p.index = i
  · rw [if_pos hp, if_pos hp]
  · rw [if_neg hp, if_neg hp, heldAt]

/-- One more placement may reach farther. -/
theorem reach_concat : row.reach (placements ++ [p]) = max (row.reach placements) (p.index + 1) := by
  cases placements with
  | nil => rfl
  | cons q rest =>
    have hlargest : ((q :: rest ++ [p]).map Placement.index).max? =
        some (max ((rest.map Placement.index).foldl max q.index) p.index) := by
      rw [List.map_append, List.map_cons, List.cons_append, List.max?_cons', List.foldl_append]
      rfl
    rw [reach, reach, hlargest, List.map_cons, List.max?_cons']
    change max row.size (max _ p.index + 1) = max (max row.size (_ + 1)) (p.index + 1)
    omega

/-- **A row reaches as far as the placements.** -/
theorem size_setAll (row : Row) (placements : List Placement) :
    (row.setAll placements).size = row.reach placements := by
  induction placements using List.reverseRecOn with
  | nil => rfl
  | append_singleton placements p ih => rw [setAll_concat, size_setCell, ih, reach_concat]

/-- **A place holds the last cell** that was put there. -/
theorem cell?_setAll (row : Row) (placements : List Placement) (i : Nat) :
    (row.setAll placements).cell? i = row.heldAt placements i := by
  induction placements using List.reverseRecOn with
  | nil => exact heldAt_nil.symm
  | append_singleton placements p ih => rw [setAll_concat, cell?_setCell, ih, heldAt_concat]

end Row

/-! ## Seats -/

namespace Seats

/-- Two seats that are taken. -/
def row : Row := Row.ofValues [.string "ann", .string "ben"]

/-- The second seat is given up and taken over, the fourth is taken, and the sixth for a
time only. -/
def moves : List Placement :=
  [⟨5, some ⟨.string "eve"⟩⟩, ⟨1, none⟩, ⟨3, some ⟨.string "dan"⟩⟩, ⟨1, some ⟨.string "fay"⟩⟩,
    ⟨5, none⟩]

end Seats

end DataQuality
