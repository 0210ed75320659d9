import DataQuality.Proofs.Pass.Reference
import DataQuality.Proofs.RowFilter.Rows
import DataQuality.RowFilter.Definition
/-!
# Agreement — filters select the rows that a check fails on

A pass points one bindings at row after row and finds the cell of its column
by name; a filter makes bindings for each row and keeps the place of its
column. Under the plain binder both ask an expression about the same bindings
(`test_plain`), and so the rows that a check is false on can be selected by a
filter with the check's expression, and the other rows by a filter that
selects what is left (`failing_rows_are_selected`).
-/

namespace DataQuality

open RowTest (accepted)

/-- Where the checks of a column are evaluated. -/
def Scope.ofColumn (column : String) : Scope := ⟨some column, none⟩

/-- A value that is a verdict on a row: a truth value or an error. -/
inductive Value.IsVerdict : Value → Prop
  | bool (b : Bool) : IsVerdict (.bool b)
  | error (message : String) : IsVerdict (.error message)

/-- Whether a value is the truth value `false`. -/
def Value.isFalse : Value → Bool
  | .bool b => !b
  | _ => false

/-! ## What a filter answers -/

namespace RowFilter

variable {f : RowFilter} {project : Project}

/-- **A filter asks its expression about the row by itself**, pointed at the
filter's column. -/
theorem test_plain (hbinder : f.binder = Binder.plain)
    (hcell : f.cellIndex = project.columns.index? f.column) (index : Nat) (row : Row) :
    (f.test project index row).2 =
      (f.expression.evaluate
        ((Scope.ofColumn f.column).rowBindings project index row)).map
          fun result => f.selectsResult result && !f.inverted := by
  have hsees : f.Sees project index row
      ((Scope.ofColumn f.column).rowBindings project index row) := by
    rw [Sees, hbinder, hcell]
    rfl
  exact test_of_sees hsees

/-- A filter for one truth value that takes errors for `true` selects the
verdicts that are false, or the others. -/
theorem selectsResult_of_verdict {value : Value} {wanted : Bool} (hvalue : value.IsVerdict)
    (hliterals : f.literals = [.bool wanted]) (herror : f.selectsError = wanted) :
    f.selectsResult value = (value.isFalse != wanted) := by
  cases hvalue with
  | bool b =>
    change f.literals.any (Value.bool b).matchesLiteral = ((!b) != wanted)
    rw [hliterals]
    cases b <;> cases wanted <;> rfl
  | error message =>
    change f.selectsError = (false != wanted)
    rw [herror, Bool.false_bne]

end RowFilter

/-- A column of a project has a place. -/
theorem Columns.exists_index? {columns : Columns} {column : String} (h : column ∈ columns.names) :
    ∃ index, columns.index? column = some index := by
  rw [← Option.ne_none_iff_exists']
  exact fun hnone => index?_eq_none_iff.mp hnone h

/-- **A definition that names a column of the project is built** into the
filter that looks at the place of this column. -/
theorem RowFilterDefinition.build_of_column {d : RowFilterDefinition} {project : Project}
    {compiler : Compiler} {expression : Expression} {column : String} {index : Nat}
    (hcompile : Expression.compile compiler d.expression = .ok expression)
    (hcolumn : d.column = some column) (hindex : project.columns.index? column = some index) :
    d.build project compiler =
      .ok ⟨expression, column, some index, d.literals, d.selectsBlank, d.selectsError, d.inverted,
        Binder.plain⟩ := by
  rw [build, hcompile, hcolumn]
  simp only [Project.requireIndex, hindex]

/-! ## What a check finds -/

/-- A row with one value is dirty when this is `false`, however results
combine. -/
theorem Combination.isDirty_truth? (c : Combination) (value : Value) :
    c.isDirty value.truth?.toList = value.isFalse := by
  cases value with
  | bool b => cases c <;> cases b <;> rfl
  | _ => rfl

/-- A rule with one check, which is enabled, evaluates the expression and
looks at the column. -/
def Rule.ChecksOnly (column : String) (expression : Expression) (rule : Rule) : Prop :=
  ∃ check, rule.checks = [check] ∧ check.expression = expression ∧ check.disabled = false ∧
    check.columnIn column = column

/-- A check that looks at the column of its metric keeps no other one. -/
theorem Check.keepsOnly_of_columnIn {check : Check} {column : String}
    (h : check.columnIn column = column) : check.KeepsOnly column := by
  intro hnone kept hkept
  rw [columnIn, hnone, hkept] at h
  exact h

/-- It is evaluated under the bindings of the row. -/
theorem Scope.checkBindings_of_columnIn {check : Check} {column : String}
    (h : check.columnIn column = column) (project : Project) (index : Nat) (row : Row) :
    (Scope.ofColumn column).checkBindings project index row check =
      (Scope.ofColumn column).rowBindings project index row := by
  have hcolumn : check.column.getD column = column :=
    (Check.keepsOnly_of_columnIn h).columnIn.symm.trans h
  rw [checkBindings]
  change (rowBindings _ project index row).setColumn (check.column.getD column)
    (project.cell? row (check.column.getD column)) = _
  rw [hcolumn]
  rfl

namespace Metric

variable {rule : Rule} {column : String} {expression : Expression} {project : Project}
variable {config : EvaluationConfig}

/-- **A row has one value** where the rule has one check. -/
theorem rowValues_of_checksOnly (h : rule.ChecksOnly column expression) (index : Nat) (row : Row) :
    (Metric.column ⟨rule, some column⟩).rowValues project index row =
      [caught (expression.evaluate ((Scope.ofColumn column).rowBindings project index row))] := by
  obtain ⟨check, hchecks, rfl, henabled, hlooks⟩ := h
  have hbindings := Scope.checkBindings_of_columnIn hlooks project index row
  change (Scope.ofColumn column).checkValues project index row rule.checks = _
  simp [hchecks, Scope.checkValues, henabled, hbindings]

/-- It is judged by this value. -/
theorem ofValues_of_checksOnly (h : rule.ChecksOnly column expression) {index : Nat} {row : Row}
    {value : Value}
    (hvalue : expression.evaluate ((Scope.ofColumn column).rowBindings project index row) =
      .ok value) :
    Finding.ofValues index ((Metric.column ⟨rule, some column⟩).rowValues project index row) =
      .judged index value.truth?.toList ([value].countP (·.truth?.isNone)) := by
  rw [rowValues_of_checksOnly h, hvalue, Finding.ofValues, Value.filterMap_truth?_cons,
    List.filterMap_nil, List.append_nil]
  rfl

/-- Where the expression does not crash on a row, the row has its values
whether or not crashes are caught. -/
theorem answers_of_checksOnly (h : rule.ChecksOnly column expression) {index : Nat} {row : Row}
    {value : Value}
    (hvalue : expression.evaluate ((Scope.ofColumn column).rowBindings project index row) =
      .ok value) :
    (Scope.ofColumn column).Answers config project index row rule.checks := by
  obtain ⟨check, hchecks, rfl, -, hlooks⟩ := h
  refine ⟨fun call hcall => (by cases hcall), fun c hc _ => .inr ⟨value, ?_⟩⟩
  rw [hchecks] at hc
  rw [List.mem_singleton.mp hc, Scope.checkBindings_of_columnIn hlooks]
  exact hvalue

theorem keepsOnly_of_checksOnly (h : rule.ChecksOnly column expression) :
    ∀ c ∈ rule.checks, c.KeepsOnly column := by
  obtain ⟨check, hchecks, -, -, hlooks⟩ := h
  intro c hc
  rw [hchecks] at hc
  rw [List.mem_singleton.mp hc]
  exact Check.keepsOnly_of_columnIn hlooks

/-- **The dirty rows of one check** are those that its expression is false
on. -/
theorem mem_keys_of_checksOnly (h : rule.ChecksOnly column expression)
    (hvalue : ∀ i row, project.rows[i]? = some row → ∃ value,
      expression.evaluate ((Scope.ofColumn column).rowBindings project i row) = .ok value) :
    ∃ metric' events stats,
      (Metric.column ⟨rule, some column⟩).evaluate project [] Binder.plain config =
          (metric', events, .returned stats) ∧
        ∀ i, i ∈ metric'.rule.dirty.keys ↔ ∃ row value, project.rows[i]? = some row ∧
          expression.evaluate ((Scope.ofColumn column).rowBindings project i row) = .ok value ∧
            value.isFalse = true := by
  have hanswers : ∀ r ∈ accepted [] project project.rows.zipIdx,
      (Scope.ofColumn column).Answers config project r.2 r.1 rule.checks := by
    intro r hr
    obtain ⟨value, hr⟩ := hvalue r.2 r.1 (RowTest.mem_accepted.mp hr).1
    exact answers_of_checksOnly h hr
  have htests : ∀ r ∈ project.rows.zipIdx, ∀ test ∈ ([] : List RowTest),
      ∃ answer, (test project r.2 r.1).2 = .ok answer :=
    fun _ _ _ htest => absurd htest List.not_mem_nil
  obtain ⟨metric', events, stats, hreturned, hpass⟩ :=
    evaluate_of_answers (.column ⟨rule, some column⟩) (keepsOnly_of_checksOnly h) hanswers htests
  refine ⟨metric', events, stats, hreturned, fun i => ?_⟩
  rw [hpass.mem_keys_iff]
  constructor
  · rintro ⟨rs, n, hmem, hdirty⟩
    obtain ⟨⟨row, j⟩, hr, hfinding⟩ := List.mem_map.mp hmem
    obtain rfl : j = i := (Finding.judged.inj hfinding).1
    have hrow := (RowTest.mem_accepted.mp hr).1
    obtain ⟨value, hv⟩ := hvalue j row hrow
    rw [ofValues_of_checksOnly h hv] at hfinding
    obtain ⟨-, rfl, -⟩ := Finding.judged.inj hfinding
    exact ⟨row, value, hrow, hv, (Combination.isDirty_truth? _ value).symm.trans hdirty⟩
  · rintro ⟨row, value, hrow, hv, hfalse⟩
    have hr : (row, i) ∈ accepted [] project project.rows.zipIdx :=
      RowTest.mem_accepted.mpr ⟨hrow, rfl⟩
    refine ⟨_, _, List.mem_map.mpr ⟨(row, i), hr, ofValues_of_checksOnly h hv⟩, ?_⟩
    exact (Combination.isDirty_truth? _ value).trans hfalse

/-- **Filters and metrics agree on failing rows.** Where the one check of a
metric on a column results in a truth value or an error on each row, the
pass of the metric over all rows returns, whether or not it catches crashes.
The filter with the check's expression that selects `false` accepts exactly
the rows that are dirty then, and the filter that selects `true` and errors
exactly the others. The column may be repeated in the project, and then its
first place counts; rows may be of any length. -/
theorem failing_rows_are_selected (project : Project) (compiler : Compiler)
    (source column : String) (expression : Expression) (rule : Rule) (config : EvaluationConfig)
    (selectsBlank : Bool) (hcolumn : column ∈ project.columns.names)
    (hcompile : Expression.compile compiler source = .ok expression)
    (hrule : rule.ChecksOnly column expression)
    (hresult : ∀ i row, project.rows[i]? = some row → ∃ value, value.IsVerdict ∧
      expression.evaluate ((Scope.ofColumn column).rowBindings project i row) = .ok value) :
    ∃ failing remaining metric' events stats,
      RowFilterDefinition.build ⟨source, some column, [.bool false], selectsBlank, false, false⟩
          project compiler = .ok failing ∧
      RowFilterDefinition.build ⟨source, some column, [.bool true], selectsBlank, true, false⟩
          project compiler = .ok remaining ∧
      (Metric.column ⟨rule, some column⟩).evaluate project [] Binder.plain config =
          (metric', events, .returned stats) ∧
      (∀ i ∈ metric'.rule.dirty.keys, i < project.rows.length) ∧
      ∀ i row, project.rows[i]? = some row →
        (failing.test project i row).2 = .ok (decide (i ∈ metric'.rule.dirty.keys)) ∧
        (remaining.test project i row).2 = .ok (decide (i ∉ metric'.rule.dirty.keys)) := by
  obtain ⟨index, hindex⟩ := Columns.exists_index? hcolumn
  have hvalue : ∀ i row, project.rows[i]? = some row → ∃ value,
      expression.evaluate ((Scope.ofColumn column).rowBindings project i row) = .ok value := by
    intro i row hrow
    obtain ⟨value, -, hv⟩ := hresult i row hrow
    exact ⟨value, hv⟩
  obtain ⟨metric', events, stats, hreturned, hkeys⟩ := mem_keys_of_checksOnly hrule hvalue
  refine ⟨_, _, metric', events, stats,
    RowFilterDefinition.build_of_column hcompile rfl hindex,
    RowFilterDefinition.build_of_column hcompile rfl hindex, hreturned, ?_, ?_⟩
  · intro i hi
    obtain ⟨row, -, hrow, -⟩ := (hkeys i).mp hi
    exact (List.getElem?_eq_some_iff.mp hrow).1
  · intro i row hrow
    obtain ⟨value, hverdict, hv⟩ := hresult i row hrow
    have hdirty : decide (i ∈ metric'.rule.dirty.keys) = value.isFalse := by
      rw [Bool.eq_iff_iff, decide_eq_true_iff, hkeys]
      constructor
      · rintro ⟨row', value', hrow', hv', hfalse⟩
        obtain rfl : row = row' := Option.some.inj (hrow.symm.trans hrow')
        obtain rfl : value = value' := Except.ok.inj (hv.symm.trans hv')
        exact hfalse
      · intro hfalse
        exact ⟨row, value, hrow, hv, hfalse⟩
    constructor
    · rw [RowFilter.test_plain rfl hindex.symm]
      simp only
      rw [hv, Except.map, RowFilter.selectsResult_of_verdict hverdict rfl rfl, hdirty,
        Bool.bne_false, Bool.not_false, Bool.and_true]
    · rw [RowFilter.test_plain rfl hindex.symm]
      simp only
      rw [hv, Except.map, RowFilter.selectsResult_of_verdict hverdict rfl rfl, decide_not, hdirty,
        Bool.bne_true, Bool.not_false, Bool.and_true]

end Metric

namespace Flags

/-- Rows of flags in which a column is repeated; two of the rows are short. -/
def repeated : Project where
  name := "repeated"
  columns := ⟨["raised", "seen", "raised"]⟩
  rows := [[.bool false, .bool true, .bool true], [.bool true],
    [], [.bool true, .bool true, .bool false]].map Row.ofValues

/-- The flag in the bound cell; a cell that holds none is an error. -/
def flag : Expression where
  source := "flag"
  evaluate b :=
    match b.value with
    | .bool set => .ok (.bool set)
    | _ => .ok (.error "no flag")

/-- The flag should be set. -/
def raised : Rule where
  name := "raised"
  description := none
  checks := [⟨flag, none, false, none, none⟩]
  combination := .all

/-- The first row is dirty and its filter accepts it; the row without cells
is an error, which is left with the others. What the repeated column holds
further to the right does not count. -/
theorem first_row_is_selected : ∃ failing remaining metric' events stats,
    RowFilterDefinition.build ⟨"flag", some "raised", [.bool false], true, false, false⟩ repeated
        (fun _ => .ok flag.evaluate) = .ok failing ∧
      RowFilterDefinition.build ⟨"flag", some "raised", [.bool true], true, true, false⟩ repeated
        (fun _ => .ok flag.evaluate) = .ok remaining ∧
      (Metric.column ⟨raised, some "raised"⟩).evaluate repeated [] Binder.plain
          ⟨LogConfig.production, false⟩ = (metric', events, .returned stats) ∧
      metric'.rule.dirty.keys = [0] ∧
      ∀ i row, repeated.rows[i]? = some row →
        (failing.test repeated i row).2 = .ok (decide (i = 0)) ∧
        (remaining.test repeated i row).2 = .ok (decide (i ≠ 0)) := by
  have hverdict : ∀ b, ∃ value, value.IsVerdict ∧ flag.evaluate b = .ok value := by
    intro b
    rw [flag]
    simp only
    split
    · exact ⟨_, .bool _, rfl⟩
    · exact ⟨_, .error _, rfl⟩
  have hrule : raised.ChecksOnly "raised" flag := ⟨_, rfl, rfl, rfl, rfl⟩
  obtain ⟨failing, remaining, metric', events, stats, hfailing, hremaining, hreturned, -, htests⟩ :=
    Metric.failing_rows_are_selected repeated (fun _ => .ok flag.evaluate) "flag" "raised" flag
      raised ⟨LogConfig.production, false⟩ true (by decide) rfl hrule fun _ _ _ => hverdict _
  have hleft : metric' = ((Metric.column ⟨raised, some "raised"⟩).evaluate repeated [] Binder.plain
      ⟨LogConfig.production, false⟩).1 := by
    rw [hreturned]
  have hkeys : metric'.rule.dirty.keys = [0] := by
    rw [hleft]
    rfl
  refine ⟨failing, remaining, metric', events, stats, hfailing, hremaining, hreturned, hkeys, ?_⟩
  intro i row hrow
  simpa [hkeys] using htests i row hrow

end Flags

end DataQuality
