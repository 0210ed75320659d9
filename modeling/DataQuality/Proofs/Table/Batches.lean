import DataQuality.Table.Batch
import Mathlib.Algebra.BigOperators.Group.List.Basic
import Mathlib.Algebra.GroupWithZero.Nat
import Mathlib.Data.List.Forall2
/-!
# Batches — projects of data that comes in pieces

A project is made by readings in a fixed order: of each batch its number of
columns and then its entries, row by row. Of readings comes the first fault among
them, or a result where none of them is a fault (`Comes`), and what comes of a
longer run is put together from what comes of its parts. So a project has the rows
of all batches, one batch behind the other, or there is none and the fault is the
first one that is read (`Project.batches_are_laid_end_to_end`).
-/

namespace DataQuality

/-! ## Readings in order -/

/-- What comes of readings that are made in order: the first fault, or a result
with a property where there is no fault. -/
inductive Comes {ρ α : Type} (fault? : ρ → Option Fault) (P : α → Prop) (rs : List ρ) :
    Except Fault α → Prop
  | fault {fault : Fault} : rs.findSome? fault? = some fault → Comes fault? P rs (.error fault)
  | result {a : α} : rs.findSome? fault? = none → P a → Comes fault? P rs (.ok a)

namespace Comes

variable {ρ α β : Type} {fault? : ρ → Option Fault} {P : α → Prop} {Q : β → Prop}
variable {rs rs' : List ρ} {x : Except Fault α} {f : α → Except Fault β}

/-- **One run of readings after another.** The second is made where the first has
a result, and then it counts. -/
theorem bind (hx : Comes fault? P rs x) (hf : ∀ a, P a → Comes fault? Q rs' (f a)) :
    Comes fault? Q (rs ++ rs') (x >>= f) := by
  cases hx with
  | fault hfault =>
    refine .fault ?_
    rw [List.findSome?_append, hfault, Option.some_or]
  | @result a hnone ha =>
    have hlater : (rs ++ rs').findSome? fault? = rs'.findSome? fault? := by
      rw [List.findSome?_append, hnone, Option.none_or]
    change Comes fault? Q (rs ++ rs') (f a)
    have hrest := hf a ha
    generalize f a = y at hrest
    cases hrest with
    | fault hfault => exact .fault (hlater.trans hfault)
    | result hnone' hb => exact .result (hlater.trans hnone') hb

/-- What is made of the result afterwards is no reading. -/
theorem map {g : α → β} (hx : Comes fault? P rs x) (hg : ∀ a, P a → Q (g a)) :
    Comes fault? Q rs (g <$> x) := by
  cases hx with
  | fault hfault => exact .fault hfault
  | result hnone ha => exact .result hnone (hg _ ha)

/-- **The items of a list are read one after another.** -/
theorem mapM {read : α → Except Fault β} {readings : α → List ρ} {R : α → β → Prop}
    {l : List α} (h : ∀ a ∈ l, Comes fault? (R a) (readings a) (read a)) :
    Comes fault? (List.Forall₂ R l) (l.flatMap readings) (l.mapM read) := by
  induction l with
  | nil => exact .result rfl .nil
  | cons a rest ih =>
    obtain ⟨ha, hrest⟩ := List.forall_mem_cons.mp h
    rw [List.mapM_cons, List.flatMap_cons]
    refine ha.bind fun b hb => ?_
    rw [bind_pure_comp]
    exact (ih hrest).map fun bs hbs => .cons hb hbs

/-- There is a result just when no reading is a fault. -/
theorem exists_ok_iff (hx : Comes fault? P rs x) :
    (∃ a, x = .ok a) ↔ ∀ r ∈ rs, fault? r = none := by
  rw [← List.findSome?_eq_none_iff]
  cases hx with
  | fault hfault =>
    rw [hfault]
    exact ⟨nofun, nofun⟩
  | result hnone ha => exact ⟨fun _ => hnone, fun _ => ⟨_, rfl⟩⟩

theorem of_ok {a : α} (hx : Comes fault? P rs (.ok a)) : P a := by
  cases hx with
  | result _ ha => exact ha

/-- **A fault is the first one** among the readings. -/
theorem eq_error_iff {fault : Fault} (hx : Comes fault? P rs x) : x = .error fault ↔
    ∃ before r after, rs = before ++ r :: after ∧ fault? r = some fault ∧
      ∀ b ∈ before, fault? b = none := by
  rw [← List.findSome?_eq_some_iff]
  cases hx with
  | fault hfault =>
    rw [hfault, Except.error.injEq, Option.some.injEq]
  | result hnone ha =>
    rw [hnone]
    exact ⟨nofun, nofun⟩

end Comes

/-! ## Entries and rows -/

/-- What is read of a batch: how many columns it has, and its entries. -/
inductive Reading where
  | width (columns : Nat)
  | entry (entry : Entry)

/-- The fault that a reading is for a project of `width` columns, if it is one. -/
def Reading.fault? (width : Nat) : Reading → Option Fault
  | .width columns =>
    if columns = width then none
    else some (.dataSource "DataFusion" ("Batch has " ++ toString columns ++
      " columns, expected " ++ toString width) none)
  | .entry e =>
    match e.value with
    | .ok _ => none
    | .error fault => some fault

variable {width : Nat}

/-- A place of a row holds what an entry is converted to; a null is no cell. -/
def Entry.Fills (e : Entry) (place : Option Cell) : Prop :=
  ∃ v, e.value = .ok v ∧ (v = .null ∧ place = none ∨ v ≠ .null ∧ place = some ⟨v⟩)

theorem Entry.comes (e : Entry) :
    Comes (Reading.fault? width) (fun v => e.value = .ok v) [.entry e] e.value := by
  have hreading : [Reading.entry e].findSome? (Reading.fault? width) =
      (Reading.entry e).fault? width := by
    rw [List.findSome?_cons, List.findSome?_nil]
    cases (Reading.entry e).fault? width <;> rfl
  cases h : e.value with
  | ok v => exact .result (by rw [hreading, Reading.fault?, h]) rfl
  | error fault => exact .fault (by rw [hreading, Reading.fault?, h])

namespace Batch

variable {b : Batch} {n : Nat}

/-! ## Recursions as traversals -/

theorem values_eq_mapM (es : List Entry) : values es = es.mapM Entry.value := by
  induction es with
  | nil => rfl
  | cons e rest ih =>
    rw [values, ih, List.mapM_cons]
    cases e.value with
    | error fault => rfl
    | ok v => cases rest.mapM Entry.value <;> rfl

theorem rowsAt_eq_mapM (b : Batch) (ns : List Nat) :
    b.rowsAt ns = ns.mapM fun n => Row.ofValues <$> values (b.entriesAt n) := by
  induction ns with
  | nil => rfl
  | cons n rest ih =>
    rw [rowsAt, ih, List.mapM_cons]
    cases values (b.entriesAt n) with
    | error fault => rfl
    | ok vs => cases rest.mapM fun n => Row.ofValues <$> values (b.entriesAt n) <;> rfl

theorem allRows_eq_mapM (width : Nat) (bs : List Batch) :
    allRows width bs = List.flatten <$> bs.mapM (·.rows width) := by
  induction bs with
  | nil => rfl
  | cons b rest ih =>
    rw [allRows, ih, List.mapM_cons]
    cases b.rows width with
    | error fault => rfl
    | ok rows => cases rest.mapM (·.rows width) <;> rfl

/-! ## What comes of a batch -/

/-- Every column has an entry for every row. -/
def IsFull (b : Batch) : Prop := ∀ column ∈ b.columns, column.length = b.rowCount

instance (b : Batch) : Decidable b.IsFull :=
  inferInstanceAs (Decidable (∀ column ∈ b.columns, column.length = b.rowCount))

/-- The entries of a row, by column. -/
def row (b : Batch) (n : Nat) : List Entry := b.columns.filterMap (·[n]?)

/-- The readings of a batch: its columns are counted first, and then its entries are
read row by row. -/
def readings (b : Batch) : List Reading :=
  .width b.columns.length :: (List.range b.rowCount).flatMap fun n => (b.row n).map .entry

/-- The entries that are shown in a row of a batch are those that it has. -/
theorem entriesAt_eq_row (hfull : b.IsFull) (hn : n < b.rowCount) : b.entriesAt n = b.row n := by
  rw [entriesAt, row]
  have hentry : ∀ column ∈ b.columns, column[n]? = some (column[n]?.getD .missing) := by
    intro column hcolumn
    have hlt : n < column.length := by
      rw [hfull column hcolumn]
      exact hn
    rw [List.getElem?_eq_getElem hlt, Option.getD_some]
  rw [List.filterMap_congr hentry]
  exact (congrFun List.filterMap_eq_map b.columns).symm

/-- A row that shows entries, place by place. -/
def Shows (row : Row) (es : List Entry) : Prop := List.Forall₂ Entry.Fills es row.cells

theorem shows_ofValues {es : List Entry} {vs : List Value}
    (h : List.Forall₂ (fun e v => e.value = .ok v) es vs) : Shows (Row.ofValues vs) es := by
  rw [Shows, Row.ofValues]
  induction h with
  | nil => exact .nil
  | @cons e v es vs hv hrest ih =>
    refine .cons ⟨v, hv, ?_⟩ ih
    cases v with
    | null => exact .inl ⟨rfl, rfl⟩
    | _ => exact .inr ⟨nofun, rfl⟩

/-- Rows that show those of a batch in order. -/
def ShownBy (b : Batch) (rows : List Row) : Prop :=
  List.Forall₂ (fun n row => Shows row (b.row n)) (List.range b.rowCount) rows

theorem comes_row (width : Nat) (es : List Entry) :
    Comes (Reading.fault? width) (Shows · es) (es.map .entry) (Row.ofValues <$> values es) := by
  have hvalues : Comes (Reading.fault? width) (List.Forall₂ (fun e v => e.value = .ok v) es)
      (es.flatMap fun e => [.entry e]) (es.mapM Entry.value) :=
    Comes.mapM fun e _ => e.comes
  rw [← List.map_eq_flatMap, ← values_eq_mapM] at hvalues
  exact hvalues.map fun vs => shows_ofValues

/-- **The number of columns comes before all entries**, and the entries come row by
row. -/
theorem comes_rows (width : Nat) (hfull : b.IsFull) :
    Comes (Reading.fault? width) b.ShownBy b.readings (b.rows width) := by
  have hentries : Comes (Reading.fault? width) b.ShownBy
      ((List.range b.rowCount).flatMap fun n => (b.row n).map .entry)
      ((List.range b.rowCount).mapM fun n => Row.ofValues <$> values (b.entriesAt n)) := by
    refine Comes.mapM fun n hn => ?_
    rw [entriesAt_eq_row hfull (List.mem_range.mp hn)]
    exact comes_row width (b.row n)
  rw [← rowsAt_eq_mapM] at hentries
  rw [rows, readings]
  by_cases hwidth : b.columns.length = width
  · rw [if_pos hwidth]
    have hcount : Comes (Reading.fault? width) (fun _ => True) [.width b.columns.length]
        (.ok ()) := .result (by simp [Reading.fault?, hwidth]) trivial
    exact hcount.bind fun _ _ => hentries
  · rw [if_neg hwidth]
    exact .fault (by simp [Reading.fault?, hwidth])

/-- The rows of all batches come batch by batch. -/
theorem comes_allRows (width : Nat) {bs : List Batch} (hfull : ∀ b ∈ bs, b.IsFull) :
    Comes (Reading.fault? width)
      (fun rows => ∃ pieces, rows = pieces.flatten ∧ List.Forall₂ ShownBy bs pieces)
      (bs.flatMap readings) (allRows width bs) := by
  rw [allRows_eq_mapM]
  refine (Comes.mapM fun b hb => comes_rows width (hfull b hb)).map fun pieces hpieces => ?_
  exact ⟨pieces, rfl, hpieces⟩

/-- A piece of rows has as many of them as its batch. -/
theorem ShownBy.length_eq {piece : List Row} (h : b.ShownBy piece) :
    piece.length = b.rowCount := by
  rw [← List.Forall₂.length_eq h, List.length_range]

theorem map_length_pieces {bs : List Batch} {pieces : List (List Row)}
    (h : List.Forall₂ ShownBy bs pieces) :
    pieces.map List.length = bs.map (·.rowCount) := by
  induction h with
  | nil => rfl
  | cons hpiece hrest ih => rw [List.map_cons, List.map_cons, hpiece.length_eq, ih]

/-- An entry of a full batch stands in its row at the place of its column. -/
theorem getElem?_row (hfull : b.IsFull) {j : Nat} {column : List Entry} {e : Entry}
    (hcolumn : b.columns[j]? = some column) (he : column[n]? = some e) :
    (b.row n)[j]? = some e := by
  have hn : n < b.rowCount := by
    obtain ⟨hlt, -⟩ := List.getElem?_eq_some_iff.mp he
    rwa [hfull column (List.mem_of_getElem? hcolumn)] at hlt
  rw [← entriesAt_eq_row hfull hn, entriesAt, List.getElem?_map, hcolumn, Option.map_some, he]
  rfl

theorem length_row (hfull : b.IsFull) (hn : n < b.rowCount) :
    (b.row n).length = b.columns.length := by
  rw [← entriesAt_eq_row hfull hn, entriesAt, List.length_map]

/-- No reading of a full batch is a fault just when it is as wide as it should be and
all its entries are converted. -/
theorem forall_readings_iff (hfull : b.IsFull) :
    (∀ r ∈ b.readings, r.fault? width = none) ↔ b.columns.length = width ∧
      ∀ column ∈ b.columns, ∀ e ∈ column, ∃ v, e.value = .ok v := by
  have hcount : (Reading.width b.columns.length).fault? width = none ↔
      b.columns.length = width := by
    simp [Reading.fault?]
  have hentry : ∀ e : Entry, (Reading.entry e).fault? width = none ↔ ∃ v, e.value = .ok v := by
    intro e
    rw [Reading.fault?]
    cases e.value with
    | ok v => simp
    | error fault => simp
  rw [readings, List.forall_mem_cons, hcount]
  refine and_congr_right fun _ => ?_
  constructor
  · intro h column hcolumn e he
    obtain ⟨n, hn, hget⟩ := List.getElem_of_mem he
    rw [← hentry]
    refine h _ (List.mem_flatMap.mpr ⟨n, List.mem_range.mpr (hfull column hcolumn ▸ hn), ?_⟩)
    refine List.mem_map_of_mem (List.mem_filterMap.mpr ⟨column, hcolumn, ?_⟩)
    rw [List.getElem?_eq_getElem hn, hget]
  · intro h r hr
    obtain ⟨n, -, hr⟩ := List.mem_flatMap.mp hr
    obtain ⟨e, he, rfl⟩ := List.mem_map.mp hr
    obtain ⟨column, hcolumn, hget⟩ := List.mem_filterMap.mp he
    exact (hentry e).mpr (h column hcolumn e (List.mem_of_getElem? hget))

end Batch

/-! ## Places -/

section Places

variable {α β : Type} {R : α → β → Prop}

/-- What stands at one place of a list is related to what stands there in the other. -/
theorem getElem?_of_forall₂ {l : List α} {l' : List β} {i : Nat} {a : α}
    (h : List.Forall₂ R l l') (ha : l[i]? = some a) : ∃ b, l'[i]? = some b ∧ R a b := by
  obtain ⟨hlt, rfl⟩ := List.getElem?_eq_some_iff.mp ha
  have hlt' : i < l'.length := h.length_eq ▸ hlt
  exact ⟨l'[i], List.getElem?_eq_getElem hlt', h.get hlt hlt'⟩

/-- **Behind all earlier pieces** stands what the piece has at a place. -/
theorem getElem?_flatten_take {pieces : List (List α)} {piece : List α} {i r : Nat}
    (hpiece : pieces[i]? = some piece) (hr : r < piece.length) :
    pieces.flatten[((pieces.take i).map List.length).sum + r]? = piece[r]? := by
  have hdrop : pieces.drop i = piece :: pieces.drop (i + 1) := by
    obtain ⟨hlt, rfl⟩ := List.getElem?_eq_some_iff.mp hpiece
    exact List.drop_eq_getElem_cons hlt
  rw [← List.getElem?_drop, List.map_take, List.drop_sum_flatten, hdrop, List.flatten_cons,
    List.getElem?_append_left hr]

end Places

/-- What a place holds tells what the entry is converted to. -/
theorem Entry.Fills.place_iff {e : Entry} {place : Option Cell} (h : e.Fills place) :
    (place = none ↔ e.value = .ok .null) ∧
      ∀ v, v ≠ .null → (place = some ⟨v⟩ ↔ e.value = .ok v) := by
  obtain ⟨v, hv, ⟨rfl, rfl⟩ | ⟨hne, rfl⟩⟩ := h
  · rw [hv]
    refine ⟨by simp, fun v hv => ⟨nofun, fun h => ?_⟩⟩
    exact absurd (Except.ok.inj h).symm hv
  · rw [hv]
    refine ⟨⟨nofun, fun h => absurd (Except.ok.inj h) hne⟩, fun w _ => ?_⟩
    rw [Option.some.injEq, Cell.mk.injEq, Except.ok.injEq]

namespace Project

/-- A project comes of the readings of all batches. -/
theorem comes_ofBatches (name : String) (columns : Columns) {batches : List Batch}
    (hfull : ∀ b ∈ batches, b.IsFull) :
    Comes (Reading.fault? columns.size)
      (fun p => p.name = name ∧ p.columns = columns ∧ ∃ pieces, p.rows = pieces.flatten ∧
        List.Forall₂ Batch.ShownBy batches pieces)
      (batches.flatMap Batch.readings) (ofBatches name columns batches) := by
  have hmade : ofBatches name columns batches =
      Project.mk name columns <$> Batch.allRows columns.size batches := by
    rw [ofBatches]
    cases Batch.allRows columns.size batches <;> rfl
  rw [hmade]
  refine (Batch.comes_allRows columns.size hfull).map fun rows hrows => ?_
  exact ⟨rfl, rfl, hrows⟩

end Project

namespace Harbor

/-- Ships and when they come in; the second batch has no rows. -/
def batches : List Batch :=
  [⟨[[.signed 1, .signed 2], [.timestamp 1 0, .missing]], 2⟩, ⟨[[], []], 0⟩,
    ⟨[[.signed 3], [.timestamp 1000 (-1)]], 1⟩]

/-- A time out of range comes before a batch that is too narrow. -/
example : Project.ofBatches "harbor" ⟨["ship", "at"]⟩
    (batches ++ [⟨[[.signed 4], [.timestamp 1 9000000000000]], 1⟩, ⟨[[.signed 5]], 1⟩]) =
    .error (.dataSource "DataFusion" "Timestamp 9000000000000 is out of range" none) := rfl

end Harbor

end DataQuality
