import DataQuality.Proofs.RowFilter.Agreement
/-!
# Row level — metrics and filters without a column

A filter without a column is asked about a row with no cell bound
(`RowFilter.test_of_no_column`). A metric without a column binds the cell of
the column whose name is empty, as it binds those of its checks' columns
(`Check.boundAt`). Where no column has the empty name this is no cell, and
then a check without a column of its own sees of a row what such a filter sees
(`Metric.row_level_is_unbound`).
-/

namespace DataQuality

open RowTest (accepted)

/-- What is seen of a row without a column: no cell is bound. -/
def Bindings.ofRow (project : Project) (index : Nat) (row : Row) : Bindings :=
  (Bindings.ofProject project).setRow row index

namespace Check

variable {c : Check} {project : Project}

/-- What a check of a metric without a column sees of a row: the cell of its
own column or of the one it keeps, and else that of the column whose name is
empty, if there is one. -/
def boundAt (c : Check) (project : Project) (index : Nat) (row : Row) : Bindings :=
  (Bindings.ofRow project index row).setColumn (c.columnIn "") (project.cell? row (c.columnIn ""))

/-- The values of enabled checks of a metric without a column on a row. -/
def valuesAt (checks : List Check) (project : Project) (index : Nat) (row : Row) : List Value :=
  (checks.filter (!·.disabled)).map fun c =>
    caught (c.expression.evaluate (c.boundAt project index row))

/-- A check without a column sees no cell if no column has the empty name. -/
theorem boundAt_of_no_column (hname : "" ∉ project.columns.names) (hcolumn : c.column = none)
    (hkept : c.KeepsOnly "") (index : Nat) (row : Row) :
    c.boundAt project index row = Bindings.ofRow project index row := by
  have hcell : project.cell? row "" = none := by
    rw [Project.cell?, Columns.index?_eq_none_iff.mpr hname]
    rfl
  rw [boundAt, hkept.columnIn, hcolumn, Option.getD_none, hcell]
  rfl

end Check

/-! ## Filters without a column -/

/-- A definition without a column is built into a filter that binds no cell. -/
theorem RowFilterDefinition.build_of_no_column {d : RowFilterDefinition} {project : Project}
    {compiler : Compiler} {f : RowFilter} (hcolumn : d.column = none)
    (hbuild : d.build project compiler = .ok f) :
    f.column = "" ∧ f.cellIndex = none ∧ f.binder = Binder.plain := by
  rw [build] at hbuild
  split at hbuild
  · cases hbuild
  · rw [hcolumn] at hbuild
    cases hbuild
    exact ⟨rfl, rfl, rfl⟩

/-- **A filter without a column is asked about a row with no cell bound.** -/
theorem RowFilter.test_of_no_column {f : RowFilter} (hcolumn : f.column = "")
    (hcell : f.cellIndex = none) (hbinder : f.binder = Binder.plain) (project : Project)
    (index : Nat) (row : Row) :
    (f.test project index row).2 =
      (f.expression.evaluate (Bindings.ofRow project index row)).map
        fun result => f.selectsResult result && !f.inverted := by
  have hsees : f.Sees project index row (Bindings.ofRow project index row) := by
    rw [Sees, hbinder, hcolumn, hcell]
    rfl
  exact test_of_sees hsees

/-! ## Metrics without a column -/

namespace Metric

variable {rule : Rule} {project : Project} {tests : List RowTest} {config : EvaluationConfig}

/-- A row is met as it is by itself, and its checks see what they are bound
to. -/
theorem findingAt_row_level (rule : Rule) (project : Project) (tests : List RowTest)
    (config : EvaluationConfig) :
    ((Metric.column ⟨rule, none⟩).encounters project tests Binder.plain).map
        ((Metric.column ⟨rule, none⟩).findingAt project Binder.plain config) =
      (accepted tests project project.rows.zipIdx).map fun r =>
        .ofValues r.2 (Check.valuesAt rule.checks project r.2 r.1) := by
  rw [encounters_plain, List.map_map]
  rfl

/-- **A pass without a column responds** just when the tests and the checks
do, under what they are bound to. -/
theorem responds_row_level_iff :
    (Metric.column ⟨rule, none⟩).Responds project tests Binder.plain config ↔
      (∀ r ∈ project.rows.zipIdx, ∃ answer, (RowTest.all project r.2 r.1 tests).2 = .ok answer) ∧
      ∀ r ∈ accepted tests project project.rows.zipIdx, ∀ c ∈ rule.checks, c.disabled = false →
        c.expression.Answers config (c.boundAt project r.2 r.1) := by
  constructor
  · rintro ⟨hrows, htests⟩
    rw [encounters_plain, List.forall_mem_map] at hrows
    exact ⟨htests, fun r hr c hc hd => (hrows r hr _ rfl).checks c hc hd⟩
  · rintro ⟨htests, hrows⟩
    refine ⟨?_, htests⟩
    rw [encounters_plain, List.forall_mem_map]
    rintro r hr _ ⟨⟩
    exact ⟨nofun, hrows r hr⟩

/-- **A metric without a column binds no cell where no column has the empty
name.** A pass over accepted rows returns just when the tests and the enabled
checks answer, and then each row is judged by what the enabled checks come to
under what they are bound to. Where no column has the empty name, a check
without a column, its own or one it keeps of another metric, is bound to no
cell, so that its value is null, and sees of each row just what a filter built
without a column is asked about. -/
theorem row_level_is_unbound (rule : Rule) (project : Project) (tests : List RowTest)
    (config : EvaluationConfig) (hname : "" ∉ project.columns.names) :
    let metric := Metric.column ⟨rule, none⟩
    let o := metric.evaluate project tests Binder.plain config
    ((∃ stats, o.2.2 = .returned stats) ↔
      (∀ r ∈ project.rows.zipIdx, ∃ answer, (RowTest.all project r.2 r.1 tests).2 = .ok answer) ∧
      ∀ r ∈ accepted tests project project.rows.zipIdx, ∀ c ∈ rule.checks, c.disabled = false →
        c.expression.Answers config (c.boundAt project r.2 r.1)) ∧
    (∀ stats, o.2.2 = .returned stats →
      metric.Completes project tests
        ((accepted tests project project.rows.zipIdx).map fun r =>
          .ofValues r.2 (Check.valuesAt rule.checks project r.2 r.1)) o.1 stats) ∧
    ∀ index row,
      (∀ c ∈ rule.checks, c.column = none → c.KeepsOnly "" →
        c.boundAt project index row = Bindings.ofRow project index row) ∧
      (Bindings.ofRow project index row).cell = none ∧
      (Bindings.ofRow project index row).value = .null ∧
      ∀ (d : RowFilterDefinition) (compiler : Compiler) (f : RowFilter), d.column = none →
        d.build project compiler = .ok f →
        (f.test project index row).2 =
          (f.expression.evaluate (Bindings.ofRow project index row)).map
            fun result => f.selectsResult result && !f.inverted := by
  intro metric o
  refine ⟨(returns_iff Binder.plain_forgetsColumns).trans responds_row_level_iff,
    fun stats hreturned => ?_, fun index row =>
    ⟨fun c _ hcolumn hkept => Check.boundAt_of_no_column hname hcolumn hkept index row, rfl, rfl,
      fun d compiler f hcolumn hbuild => ?_⟩⟩
  · rw [← findingAt_row_level rule project tests config]
    exact completes_of_returns Binder.plain_forgetsColumns hreturned
  · obtain ⟨hfcolumn, hfcell, hfbinder⟩ := RowFilterDefinition.build_of_no_column hcolumn hbuild
    exact RowFilter.test_of_no_column hfcolumn hfcell hfbinder project index row

end Metric

namespace Flags

/-- Whether a cell is bound. -/
def hasCell : Expression := ⟨"hasCell", fun b => .ok (.bool b.cell.isSome)⟩

/-- A cell should be bound. -/
def bound : Rule where
  name := "bound"
  description := none
  checks := [⟨hasCell, none, false, none, none⟩]
  combination := .all

/-- No flag has the empty name, so no cell is bound: the check is false on all
rows, and a filter without a column that selects `false` accepts them. -/
theorem rows_are_unbound : ∃ stats f,
    ((Metric.column ⟨bound, none⟩).evaluate project [] Binder.plain .standard).2.2 =
        .returned stats ∧
      stats.dirtyRows = 4 ∧
      RowFilterDefinition.build ⟨"hasCell", none, [.bool false], false, false, false⟩ project
        (fun _ => .ok hasCell.evaluate) = .ok f ∧
      ∀ index row, (f.test project index row).2 = .ok true := by
  have hname : "" ∉ project.columns.names := by decide
  obtain ⟨hreturns, hcompletes, hrows⟩ :=
    Metric.row_level_is_unbound bound project [] .standard hname
  obtain ⟨stats, hreturned⟩ := hreturns.mpr ⟨fun _ _ => ⟨true, rfl⟩, fun _ _ _ _ _ => .inl rfl⟩
  refine ⟨stats, _, hreturned, ?_, rfl, fun index row => ?_⟩
  · rw [(hcompletes stats hreturned).stats]
    rfl
  · obtain ⟨-, -, -, hfilter⟩ := hrows index row
    exact hfilter ⟨"hasCell", none, [.bool false], false, false, false⟩
      (fun _ => .ok hasCell.evaluate) _ rfl rfl

end Flags

/-! ## A column without a name -/

namespace Nameless

/-- One row with a cell in a column whose name is empty. -/
def project : Project where
  name := "nameless"
  columns := ⟨[""]⟩
  rows := [Row.ofValues [.int 1]]

/-- **A metric without a column is bound to a cell of the column without a
name.** The check is true of the row, of which it is false with no cell bound;
a filter without a column that selects `false` accepts the row. -/
theorem row_level_is_bound : ∃ f,
    ((Metric.column ⟨Flags.bound, none⟩).evaluate project [] Binder.plain .standard).2.2 =
        .returned ⟨1, 1, 0, 0, 0⟩ ∧
      ((Metric.column ⟨Flags.bound, none⟩).evaluate project [] Binder.plain
        .standard).1.rule.dirty.keys = [] ∧
      Flags.hasCell.evaluate (Bindings.ofRow project 0 (Row.ofValues [.int 1])) =
        .ok (.bool false) ∧
      RowFilterDefinition.build ⟨"hasCell", none, [.bool false], false, false, false⟩ project
        (fun _ => .ok Flags.hasCell.evaluate) = .ok f ∧
      (f.test project 0 (Row.ofValues [.int 1])).2 = .ok true := by
  exact ⟨_, rfl, rfl, rfl, rfl, rfl⟩

end Nameless

end DataQuality
