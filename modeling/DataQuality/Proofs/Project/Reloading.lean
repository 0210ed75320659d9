import DataQuality.Project.Codec
import DataQuality.Proofs.Value.Reloading
/-!
# Reloading — a project is read back from its text

Values are written without their kind, so what a value is read back as is told
by its text alone. A truth value and an integer of 64 bits come back as they
are, and so does a string that names no instant. A string that names one comes
back as the instant: date-times are tried before strings. Nothing else of a
project changes (`parse?_text`).
-/

namespace DataQuality

open Json (Tree)
open Json.Record (fields_tree required_present written_tree written_some)

variable {room : Nat}

/-! ## Values -/

namespace Value

/-- A truth value, an integer or a string. -/
def IsPlain : Value → Prop
  | bool _ | int _ | string _ => True
  | _ => False

/-- What a plain value is read back as: a string as the instant it names, if
it names one, and anything else as it is. -/
def reread : Value → Value
  | string s => ofText s
  | v => v

variable {v : Value}

theorem written_of_isPlain (h : v.IsPlain) : v.toTree.Written := by
  cases v with
  | bool b => exact .bool b
  | int n => exact .number (Decimal.Numeral.wellFormed_ofInt n.toInt)
  | string s => exact Tree.written_ofString s
  | _ => cases h

/-- **A plain value is read back as its text is read.** -/
theorem decode_toTree (room : Nat) (h : v.IsPlain) : decode room v.toTree = some v.reread := by
  have hleaf : v.toTree.depth = 0 := by
    cases v with
    | bool b => rfl
    | int n => rfl
    | string s => rfl
    | _ => cases h
  rw [decode, if_pos (by omega)]
  cases v with
  | bool b => rfl
  | int n => exact ofTree?_int n
  | string s =>
    rw [toTree, Tree.ofString, ofTree?, Json.bodyText?_quoteBody]
    rfl
  | _ => cases h

/-- **A value comes back as it is unless it is a string that names an
instant.** -/
theorem reread_eq_self_iff :
    v.reread = v ↔ ∀ s, v = .string s → Time.Instant.ofText? s.toList = none := by
  cases v with
  | string s =>
    rw [reread, ofText]
    constructor
    · rintro h _ ⟨⟩
      split at h
      · cases h
      · assumption
    · intro h
      rw [h s rfl]
  | _ =>
    refine ⟨fun _ s hs => ?_, fun _ => rfl⟩
    cases hs

end Value

/-! ## Cells and rows -/

namespace Cell

/-- The field of a cell. -/
def record (cell : Cell) : Json.Record := [("value", some cell.value.toTree)]

/-- The cell with what its value is read back as. -/
def reread (cell : Cell) : Cell := ⟨cell.value.reread⟩

variable {cell : Cell}

theorem written_toTree (h : cell.value.IsPlain) : cell.toTree.Written := by
  change cell.record.tree.Written
  refine written_tree ?_
  simp only [record, List.forall_mem_cons]
  exact ⟨written_some (Value.written_of_isPlain h), nofun⟩

theorem decode_toTree (room : Nat) (h : cell.value.IsPlain) :
    decode (room + 1) cell.toTree = some cell.reread := by
  have hnodup : (cell.record.map Prod.fst).Nodup := List.nodup_singleton "value"
  have hfields : Json.Decode.fields ["value"] (room + 1) cell.toTree =
      some (room, cell.record.present) := fields_tree hnodup
  have hvalue : cell.record.present.required room "value" Value.decode =
      some cell.value.reread := by
    rw [required_present hnodup (t := cell.value.toTree) (by simp [record]),
      Value.decode_toTree room h]
  simp only [decode, hfields, hvalue, Option.bind_eq_bind, Option.bind_some]
  rfl

end Cell

namespace Row

/-- The field of a row. -/
def record (row : Row) : Json.Record :=
  [("cells", some (.array (row.cells.map (Tree.ofOption Cell.toTree))))]

/-- All cells that are there hold plain values. -/
def IsPlain (row : Row) : Prop := ∀ cell, some cell ∈ row.cells → cell.value.IsPlain

/-- The row with what its values are read back as. A place without a cell
stays without one. -/
def reread (row : Row) : Row := ⟨row.cells.map (Option.map Cell.reread)⟩

variable {row : Row}

theorem written_toTree (h : row.IsPlain) : row.toTree.Written := by
  change row.record.tree.Written
  refine written_tree ?_
  simp only [record, List.forall_mem_cons]
  refine ⟨written_some (Tree.written_array row.cells fun cell hcell => ?_), nofun⟩
  cases cell with
  | none => exact .null
  | some cell => exact Cell.written_toTree (h cell hcell)

/-- A place is decoded as its cell is, or as a place without one. -/
theorem decode_place (room : Nat) (h : row.IsPlain) :
    ∀ place ∈ row.cells, Json.Decode.optional Cell.decode (room + 1)
      (Tree.ofOption Cell.toTree place) = some (place.map Cell.reread) := by
  intro place hplace
  cases place with
  | none => rfl
  | some cell =>
    have hcell := cell.decode_toTree room (h cell hplace)
    have hnull : cell.toTree ≠ .null := nofun
    rw [Tree.ofOption, Json.Decode.optional_of_ne_null hnull, hcell]
    rfl

theorem reread_eq_self_iff :
    row.reread = row ↔ ∀ cell, some cell ∈ row.cells → cell.value.reread = cell.value := by
  have hcells : row.reread = row ↔ row.cells.map (Option.map Cell.reread) = row.cells.map id := by
    rw [List.map_id]
    exact ⟨fun h => congrArg Row.cells h, fun h => congrArg Row.mk h⟩
  rw [hcells, List.map_inj_left]
  constructor
  · intro h cell hcell
    exact congrArg Cell.value (Option.some.inj (h _ hcell))
  · intro h place hplace
    cases place with
    | none => rfl
    | some cell => exact congrArg (some ∘ Cell.mk) (h cell hplace)

theorem decode_toTree (room : Nat) (h : row.IsPlain) :
    decode (room + 3) row.toTree = some row.reread := by
  have hnodup : (row.record.map Prod.fst).Nodup := List.nodup_singleton "cells"
  have hfields : Json.Decode.fields ["cells"] (room + 3) row.toTree =
      some (room + 2, row.record.present) := fields_tree hnodup
  have hcells : row.record.present.required (room + 2) "cells"
      (Json.Decode.list (Json.Decode.optional Cell.decode)) =
        some (row.cells.map (Option.map Cell.reread)) := by
    rw [required_present hnodup (t := .array (row.cells.map (Tree.ofOption Cell.toTree)))
      (by simp [record])]
    exact Json.Decode.list_map (decode_place room h)
  simp only [decode, hfields, hcells, Option.bind_eq_bind, Option.bind_some]
  rfl

end Row

/-! ## Projects -/

namespace Columns

/-- The field of column names. -/
def record (columns : Columns) : Json.Record :=
  [("columns", some (.array (columns.names.map Tree.ofString)))]

theorem written_toTree (columns : Columns) : columns.toTree.Written := by
  change columns.record.tree.Written
  refine written_tree ?_
  simp only [record, List.forall_mem_cons]
  exact ⟨written_some (Tree.written_array _ fun s _ => Tree.written_ofString s), nofun⟩

/-- **Names are names**, also those that name an instant. -/
theorem decode_toTree (room : Nat) (columns : Columns) :
    decode (room + 2) columns.toTree = some columns := by
  have hnodup : (columns.record.map Prod.fst).Nodup := List.nodup_singleton "columns"
  have hfields : Json.Decode.fields ["columns"] (room + 2) columns.toTree =
      some (room + 1, columns.record.present) := fields_tree hnodup
  have hnames : columns.record.present.required (room + 1) "columns"
      (Json.Decode.list Json.Decode.string) = some columns.names := by
    rw [required_present hnodup (t := .array (columns.names.map Tree.ofString)) (by simp [record])]
    exact Json.Decode.list_array fun s _ => Json.Decode.string_ofString room s
  simp only [decode, hfields, hnames, Option.bind_eq_bind, Option.bind_some]
  rfl

end Columns

namespace Project

/-- The fields of a project. -/
def record (p : Project) : Json.Record :=
  [("name", some (Tree.ofString p.name)), ("columns", some p.columns.toTree),
    ("rows", some (.array (p.rows.map Row.toTree)))]

/-- All cells that are there hold truth values, integers or strings. -/
def IsPlain (p : Project) : Prop := ∀ row ∈ p.rows, row.IsPlain

/-- The project with what its values are read back as. -/
def reread (p : Project) : Project := { p with rows := p.rows.map Row.reread }

/-- A cell of the project holds the text. -/
def Holds (p : Project) (s : String) : Prop :=
  ∃ row ∈ p.rows, some ⟨.string s⟩ ∈ row.cells

variable {p : Project}

theorem written_toTree (h : p.IsPlain) : p.toTree.Written := by
  change p.record.tree.Written
  refine written_tree ?_
  simp only [record, List.forall_mem_cons]
  exact ⟨written_some (Tree.written_ofString _), written_some p.columns.written_toTree,
    written_some (Tree.written_array p.rows fun row hrow => Row.written_toTree (h row hrow)), nofun⟩

theorem decode_toTree (room : Nat) (h : p.IsPlain) :
    decode (room + 5) p.toTree = some p.reread := by
  have hnodup : (p.record.map Prod.fst).Nodup := by
    change ["name", "columns", "rows"].Nodup
    decide
  have hfields : Json.Decode.fields ["name", "columns", "rows"] (room + 5) p.toTree =
      some (room + 4, p.record.present) := fields_tree hnodup
  have hname : p.record.present.required (room + 4) "name" Json.Decode.string = some p.name := by
    rw [required_present hnodup (t := Tree.ofString p.name) (by simp [record]),
      Json.Decode.string_ofString]
  have hcolumns : p.record.present.required (room + 4) "columns" Columns.decode =
      some p.columns := by
    rw [required_present hnodup (t := p.columns.toTree) (by simp [record]),
      Columns.decode_toTree (room + 2)]
  have hrows : p.record.present.required (room + 4) "rows" (Json.Decode.list Row.decode) =
      some (p.rows.map Row.reread) := by
    rw [required_present hnodup (t := .array (p.rows.map Row.toTree)) (by simp [record])]
    exact Json.Decode.list_map fun row hrow => Row.decode_toTree room (h row hrow)
  simp only [decode, hfields, hname, hcolumns, hrows, Option.bind_eq_bind, Option.bind_some]
  rfl

/-- **A plain project is read back with its values reread.** -/
theorem parse?_text (h : p.IsPlain) : parse? p.toTree.text = some p.reread := by
  rw [parse?, Json.Decode.text?_text (written_toTree h)]
  exact decode_toTree 122 h

/-- A project comes back as it is where no cell holds the text of an
instant. -/
theorem reread_eq_self_iff :
    p.reread = p ↔ ∀ s, p.Holds s → Time.Instant.ofText? s.toList = none := by
  have hrows : p.reread = p ↔ p.rows.map Row.reread = p.rows.map id := by
    rw [List.map_id]
    exact ⟨fun h => congrArg Project.rows h, fun h => congrArg (Project.mk p.name p.columns) h⟩
  rw [hrows, List.map_inj_left]
  constructor
  · rintro h s ⟨row, hrow, hcell⟩
    exact Value.reread_eq_self_iff.mp (Row.reread_eq_self_iff.mp (h row hrow) _ hcell) s rfl
  · intro h row hrow
    refine Row.reread_eq_self_iff.mpr fun cell hcell => Value.reread_eq_self_iff.mpr fun s hs => ?_
    obtain ⟨value⟩ := cell
    obtain rfl : value = .string s := hs
    exact h s ⟨row, hrow, hcell⟩

/-- **A plain project is read back from its text**, with its name, its columns
and its rows, and every cell as it was but for strings that name an instant:
these come back as the instant. So it comes back as it was just when no cell
holds such a string. -/
theorem reloaded_but_for_instants (p : Project) (h : p.IsPlain) :
    parse? p.toTree.text = some p.reread ∧
      (parse? p.toTree.text = some p ↔
        ∀ s, p.Holds s → Time.Instant.ofText? s.toList = none) := by
  have hparse := parse?_text h
  refine ⟨hparse, ?_⟩
  rw [hparse, Option.some_inj]
  exact reread_eq_self_iff

end Project

namespace Notes

/-- A project of texts that are hard to write, numbers at the edge and a
place without a cell. -/
def project : Project where
  name := "2024-01-01T00:00:00Z"
  columns := ⟨["", "a\"b\\", "a\"b\\"]⟩
  rows := [⟨[some ⟨.string "null"⟩, none, some ⟨.int Int64.minValue⟩]⟩, ⟨[]⟩,
    ⟨[some ⟨.bool false⟩, some ⟨.string "\u0001\n\"\\ 2024-01-01"⟩]⟩]

theorem isPlain_project : project.IsPlain := by
  simp [Project.IsPlain, Row.IsPlain, Value.IsPlain, project]

/-- No cell of the project names an instant, though its name does, so it comes
back as it was. -/
theorem project_reloaded : project.IsPlain ∧
    (∀ s, project.Holds s → Time.Instant.ofText? s.toList = none) ∧
    Project.parse? project.toTree.text = some project := by
  have htexts : ∀ s, project.Holds s → Time.Instant.ofText? s.toList = none := by
    rintro s ⟨row, hrow, hcell⟩
    simp only [project, List.mem_cons, List.not_mem_nil, or_false] at hrow
    rcases hrow with rfl | rfl | rfl <;> simp at hcell <;> subst hcell <;> decide
  exact ⟨isPlain_project, htexts,
    (Project.reloaded_but_for_instants project isPlain_project).2.mpr htexts⟩

/-- A project whose only cell holds the text of an instant. -/
def dated : Project where
  name := "p"
  columns := ⟨["at"]⟩
  rows := [⟨[some ⟨.string "2024-01-01T00:00:00Z"⟩]⟩]

/-- **A string that names an instant does not come back as a string.** -/
theorem dated_is_not_reloaded :
    dated.IsPlain ∧ Project.parse? dated.toTree.text ≠ some dated := by
  have hplain : dated.IsPlain := by simp [Project.IsPlain, Row.IsPlain, Value.IsPlain, dated]
  refine ⟨hplain, fun h => ?_⟩
  rw [Project.parse?_text hplain] at h
  have hnone := Project.reread_eq_self_iff.mp (Option.some.inj h) "2024-01-01T00:00:00Z"
    ⟨_, List.mem_singleton_self _, List.mem_singleton_self _⟩
  revert hnone
  decide

end Notes

end DataQuality
