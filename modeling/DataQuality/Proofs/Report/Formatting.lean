import DataQuality.Proofs.Json.Floats
import DataQuality.Proofs.Rules.Reloading
import DataQuality.Report.Formatter
import Mathlib.Data.List.Forall2
/-!
# Formatting — what of a report is shown, in a document and on a console

A choice of what is shown settles how many of the dirty rows of a report are listed
(`listedCount`). Both formatters list just that many, the first ones. A document holds
the report with these rows in the place of all; the text is read back as such a tree,
whichever way it is laid out (`ofText?_documentText`). A console has one line for them,
which tells how many it leaves out, between lines that know nothing of rows
(`Console.text_eq`).
-/

namespace DataQuality

open Json (Tree)

/-! ## Rows that are listed -/

/-- How many of `n` dirty rows are listed. -/
def ReportConfig.listedCount (c : ReportConfig) (n : Nat) : Nat :=
  if c.dirtyRows then
    match c.maxDirtyRows with
    | some limit => min n limit
    | none => n
  else 0

namespace ReportConfig

variable (c : ReportConfig) (rows : List Nat)

theorem listedCount_le (n : Nat) : c.listedCount n ≤ n := by
  rw [listedCount]
  split
  · split
    · exact Nat.min_le_left _ _
    · exact Nat.le_refl n
  · exact Nat.zero_le n

/-- **The rows that are listed are the first ones.** -/
theorem listed_eq_take : c.listed rows = rows.take (c.listedCount rows.length) := by
  rw [listed, listedCount]
  cases c.dirtyRows with
  | false => rfl
  | true =>
    cases c.maxDirtyRows with
    | some limit =>
      change rows.take limit = rows.take (min rows.length limit)
      rw [Nat.min_comm]
      exact List.take_eq_take_min
    | none => exact List.take_length.symm

theorem length_listed : (c.listed rows).length = c.listedCount rows.length := by
  rw [listed_eq_take, List.length_take, Nat.min_eq_left (c.listedCount_le _)]

end ReportConfig

/-! ## Reports in documents -/

open Json.Record (written_some written_map)

namespace PassStats

/-- The fields of the counters. -/
def record (s : PassStats) : Json.Record :=
  [("visited", some (Tree.ofNat s.visited)), ("evaluated", some (Tree.ofNat s.evaluated)),
    ("skippedRows", some (Tree.ofNat s.skippedRows)), ("tupleErrors", some (Tree.ofNat s.excluded)),
    ("dirtyRows", some (Tree.ofNat s.dirtyRows))]

theorem written_toTree (s : PassStats) : s.toTree.Written := by
  have htree : s.toTree = s.record.tree := rfl
  have hnumber : ∀ n, ∀ u ∈ some (Tree.ofNat n), u.Written := fun n =>
    written_some (Tree.written_ofNat n)
  rw [htree]
  refine Json.Record.written_tree ?_
  simp only [record, List.forall_mem_cons]
  exact ⟨hnumber _, hnumber _, hnumber _, hnumber _, hnumber _, nofun⟩

end PassStats

namespace Report

/-- The fields of a report before its dirty rows. -/
def leading (r : Report) : Json.Record :=
  [("name", some (Tree.ofString r.name)), ("kind", some (Tree.ofString r.kind.word)),
    ("columns", some (textsTree r.columns)), ("description", r.description.map Tree.ofString),
    ("function", r.function.map Tree.ofString),
    ("measure", some (Tree.ofOption Tree.ofFloat r.measure)),
    ("dirtyRowCount", some (Tree.ofNat r.dirtyRowCount))]

/-- The dirty rows of a report and its checks. -/
def listing (r : Report) : Json.Record :=
  [("dirtyRows", some (.array (r.dirtyRows.map Tree.ofNat))),
    ("checks", some (checksTree r.checks))]

/-- The fields of a report after its checks. -/
def trailing (r : Report) : Json.Record :=
  [("stats", r.stats.map PassStats.toTree),
    ("timestamp", some (.string (Text.quoteBody (r.time.text "Z"))))]

/-- The fields of a report. -/
def record (r : Report) : Json.Record := r.leading ++ (r.listing ++ r.trailing)

theorem toTree_eq (r : Report) : r.toTree = r.record.tree := by
  obtain ⟨_, _, _, description, function, _, _, _, _, stats, _⟩ := r
  cases description <;> cases function <;> cases stats <;> rfl

theorem nodup_record (r : Report) : (r.record.map Prod.fst).Nodup := by
  change ["name", "kind", "columns", "description", "function", "measure", "dirtyRowCount",
    "dirtyRows", "checks", "stats", "timestamp"].Nodup
  decide

/-- A field is found by its name. -/
theorem member?_toTree {r : Report} {name : String} {o : Option Tree} (h : (name, o) ∈ r.record) :
    r.toTree.member? name = o := by
  rw [toTree_eq, Json.Record.member?_tree, Json.Record.find?_present r.nodup_record h]

/-- A field that is neither the dirty rows nor the checks stands before or after these. -/
theorem member?_toTree_of_ne (r : Report) {name : String} (hrows : name ≠ "dirtyRows")
    (hchecks : name ≠ "checks") : r.toTree.member? name =
      (r.leading.present.find? name).or (r.trailing.present.find? name) := by
  have hlisting : r.listing.present.find? name = none := by
    refine Json.Record.find?_present_eq_none fun t ht => ?_
    simp [listing, hrows, hchecks] at ht
  rw [toTree_eq, Json.Record.member?_tree, record, Json.Record.find?_present_append,
    Json.Record.find?_present_append, hlisting, Option.none_or]

theorem written_toTree (r : Report) : r.toTree.Written := by
  have hmeasure : (Tree.ofOption Tree.ofFloat r.measure).Written := by
    cases r.measure with
    | none => exact .null
    | some x => exact Tree.written_ofFloat x
  rw [toTree_eq]
  refine Json.Record.written_tree ?_
  simp only [record, leading, listing, trailing, List.forall_mem_append, List.forall_mem_cons]
  exact ⟨⟨written_some (Tree.written_ofString _), written_some (Tree.written_ofString _),
      written_some (written_textsTree _), written_map Tree.written_ofString,
      written_map Tree.written_ofString, written_some hmeasure,
      written_some (Tree.written_ofNat _), nofun⟩,
    ⟨written_some (Tree.written_array _ fun n _ => Tree.written_ofNat n),
      written_some (written_checksTree _), nofun⟩,
    written_map PassStats.written_toTree, written_some (.string _), nofun⟩

/-- A tree shows a report under a choice of what is shown: it has the fields that the
report has, in their order. The dirty rows are cut to the first ones, the checks are
there if they are chosen, and every other field is as it is for the whole report. -/
structure ShownAs (c : ReportConfig) (r : Report) (t : Tree) : Prop where
  names : t.names = r.toTree.names
  dirtyRows : t.member? "dirtyRows" =
    some (.array ((r.dirtyRows.take (c.listedCount r.dirtyRows.length)).map Tree.ofNat))
  checks : t.member? "checks" = some (checksTree (if c.checks then r.checks else []))
  others : ∀ name, name ≠ "dirtyRows" → name ≠ "checks" → t.member? name = r.toTree.member? name
  dirtyRowCount : t.member? "dirtyRowCount" = some (Tree.ofNat r.dirtyRowCount)
  measure : t.member? "measure" = some (Tree.ofOption Tree.ofFloat r.measure)

/-- **The tree of what is shown shows the report.** -/
theorem shownAs_shown (c : ReportConfig) (r : Report) : r.ShownAs c (c.shown r).toTree where
  names := by
    rw [toTree_eq, toTree_eq]
    simp only [Json.Record.tree, Tree.names, Json.Record.present, record, List.filterMap_append,
      List.map_append]
    rfl
  dirtyRows := by
    rw [← c.listed_eq_take]
    exact member?_toTree (by simp [record, listing, ReportConfig.shown])
  checks := member?_toTree (by simp [record, listing, ReportConfig.shown])
  others name hrows hchecks := by
    rw [member?_toTree_of_ne _ hrows hchecks, member?_toTree_of_ne _ hrows hchecks]
    rfl
  dirtyRowCount := member?_toTree (by simp [record, leading, ReportConfig.shown])
  measure := member?_toTree (by simp [record, leading, ReportConfig.shown])

end Report

/-- **The text of a document is read as the trees of what is shown**, on one line or on
indented ones. -/
theorem Formatter.ofText?_documentText (c : ReportConfig) (pretty : Bool)
    (reports : List Report) :
    Tree.ofText? (documentText c pretty reports).toList =
      some (.array (reports.map fun r => (c.shown r).toTree)) := by
  have hwritten : (Tree.array (reports.map fun r => (c.shown r).toTree)).Written :=
    Tree.written_array reports fun r _ => (c.shown r).written_toTree
  rw [documentText, String.toList_ofList]
  cases pretty with
  | true => exact hwritten.ofText?_pretty 0
  | false => exact hwritten.ofText?_compact

/-! ## Reports on a console -/

namespace Console

/-- Lines as text: each of them ends with a line break. -/
def block (lines : List String) : String := String.join (lines.map (· ++ "\n"))

theorem block_cons (line : String) (lines : List String) :
    block (line :: lines) = line ++ "\n" ++ block lines := by
  rw [block, List.map_cons, String.join_cons]
  rfl

theorem block_append (l l' : List String) : block (l ++ l') = block l ++ block l' := by
  rw [block, List.map_append, String.join_append]
  rfl

theorem block_flatMap {α : Type} (f : α → List String) (l : List α) :
    block (l.flatMap f) = String.join (l.map fun a => block (f a)) := by
  induction l with
  | nil => rfl
  | cons a l ih => rw [List.flatMap_cons, block_append, ih, List.map_cons, String.join_cons]

/-- What stands above the dirty rows of a report. -/
def above (c : ReportConfig) (r : Report) : String :=
  block (["", r.name ++ " [" ++ subject r ++ "]"] ++ r.description.toList.map ("   " ++ ·) ++
    r.function.toList.map ("   Function: " ++ ·) ++ [qualityLine c r])

/-- What stands below the dirty rows of a report. -/
def below (c : ReportConfig) (r : Report) : String :=
  block ((if c.checks then r.checks.flatMap checkLines else []) ++
    if c.timestamps then ["   Timestamp: " ++ String.ofList (r.time.text "+00:00")] else [])

/-- The line of the dirty rows, when `k` of them are listed: the first `k`, and how many
more there are, if there are more. There is no line when none is listed. -/
def rowsText (rows : List Nat) (k : Nat) : String :=
  if 0 < k then
    "   Dirty rows: " ++ ", ".intercalate ((rows.take k).map toString) ++
      (if k < rows.length then " ... and " ++ toString (rows.length - k) ++ " more" else "") ++ "\n"
  else ""

example : rowsText [3, 5, 8] 2 = "   Dirty rows: 3, 5 ... and 1 more\n" := by decide

theorem block_dirtyLines (c : ReportConfig) (r : Report) :
    block (dirtyLines c r) = rowsText r.dirtyRows (c.listedCount r.dirtyRows.length) := by
  have hlength := c.length_listed r.dirtyRows
  rw [dirtyLines, rowsText, ← c.listed_eq_take, ← hlength]
  by_cases hempty : c.listed r.dirtyRows = []
  · rw [hempty]
    rfl
  · have hpos : 0 < (c.listed r.dirtyRows).length := List.length_pos_iff.mpr hempty
    simp only [List.isEmpty_iff, hempty, if_false, hpos, if_true, Nat.sub_pos_iff_lt, block_cons]
    exact String.append_empty

/-- **The text of reports**: a heading, and for each report its own lines with the dirty
rows in between. -/
theorem text_eq (c : ReportConfig) (reports : List Report) :
    text c reports = heading reports ++ "\n" ++ String.join (reports.map fun r =>
      above c r ++ rowsText r.dirtyRows (c.listedCount r.dirtyRows.length) ++ below c r) := by
  have hlines : ∀ r, block (lines c r) =
      above c r ++ rowsText r.dirtyRows (c.listedCount r.dirtyRows.length) ++ below c r := by
    intro r
    rw [lines, List.append_assoc, block_append, block_append, block_dirtyLines, below]
    rfl
  change block (heading reports :: reports.flatMap (lines c)) = _
  rw [block_cons, block_flatMap, List.map_congr_left fun r _ => hlines r]

end Console

/-! ## Both formatters -/

/-- **Both formatters list the same dirty rows and account for all of them.** Of `n` dirty
rows a choice lists the first `c.listedCount n`, which are never more than there are.
Reports are read and not changed. A document, of whatever layout, is read back as one
tree for each report, which shows it so. A console has a line of dirty rows for each
report of which any are listed, and tells there how many more there are; what stands
above and below that line knows nothing of the rows. The formatter's own choice counts
only where no other is given. -/
theorem Formatter.dirty_rows_are_accounted_for (c : ReportConfig) (reports : List Report) :
    (∀ n, c.listedCount n ≤ n ∧ c.listedCount n + (n - c.listedCount n) = n) ∧
    (∀ own pretty,
      (document c pretty).format reports = (document own pretty).formatWith c reports ∧
      ∃ trees, Tree.ofText? ((document own pretty).formatWith c reports).toList =
          some (.array trees) ∧
        List.Forall₂ (Report.ShownAs c) reports trees) ∧
    (∀ own, (console c).format reports = (console own).formatWith c reports ∧
      (console own).formatWith c reports =
        Console.heading reports ++ "\n" ++ String.join (reports.map fun r =>
          Console.above c r ++ Console.rowsText r.dirtyRows (c.listedCount r.dirtyRows.length) ++
            Console.below c r)) ∧
    ∀ (r : Report) (rows : List Nat) (included : Bool) (limit : Option Nat),
      let c' := { c with dirtyRows := included, maxDirtyRows := limit }
      Console.above c' { r with dirtyRows := rows } = Console.above c r ∧
        Console.below c' { r with dirtyRows := rows } = Console.below c r := by
  refine ⟨fun n => ⟨c.listedCount_le n, Nat.add_sub_cancel' (c.listedCount_le n)⟩,
    fun own pretty => ⟨rfl, _, ofText?_documentText c pretty reports, ?_⟩,
    fun own => ⟨rfl, Console.text_eq c reports⟩, fun r rows included limit => ⟨rfl, rfl⟩⟩
  rw [List.forall₂_map_right_iff, List.forall₂_same]
  exact fun r _ => r.shownAs_shown c

end DataQuality
