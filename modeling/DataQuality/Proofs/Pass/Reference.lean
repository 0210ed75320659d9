import DataQuality.Proofs.Pass.Counters
import DataQuality.Proofs.Pass.Encounters
/-!
# Reference — each row by itself

A pass carries one bindings from row to row and from check to check. The
reference carries nothing: each check has bindings of its own, made for the
project and pointed at the row and the check's column. Under the plain
binder the two agree (`found_plain_of_answers`), because a row is met with
bindings of which only the project and the row have a part
(`encounters_plain`). Each evaluation has to answer for this: crashes are
caught, or there are none.
-/

namespace DataQuality

open RowTest (accepted passes)

/-- A check keeps no other column than `context`, if it has none of its own. -/
def Check.KeepsOnly (context : String) (c : Check) : Prop :=
  c.column = none → ∀ kept, c.kept = some kept → kept = context

/-- Such a check looks at its own column, or else at `context`. -/
theorem Check.KeepsOnly.columnIn {c : Check} {context : String} (h : c.KeepsOnly context) :
    c.columnIn context = c.column.getD context := by
  rw [Check.columnIn]
  cases hc : c.column with
  | some column => rfl
  | none =>
    cases hk : c.kept with
    | none => rfl
    | some kept => exact h hc kept hk

namespace Scope

/-- Fresh bindings, pointed at a row and at the scope's column. -/
def rowBindings (s : Scope) (project : Project) (index : Nat) (row : Row) : Bindings :=
  ((Bindings.ofProject project).setRow row index).setColumn s.columnName
    (project.cell? row s.columnName)

/-- Fresh bindings, pointed at a row and then at a check's column. -/
def checkBindings (s : Scope) (project : Project) (index : Nat) (row : Row) (c : Check) :
    Bindings :=
  (s.rowBindings project index row).setColumn (c.column.getD s.columnName)
    (project.cell? row (c.column.getD s.columnName))

/-- The values of enabled checks on a row, each under bindings of its own. -/
def checkValues (s : Scope) (project : Project) (index : Nat) (row : Row) (checks : List Check) :
    List Value :=
  (checks.filter (!·.disabled)).map fun c =>
    caught (c.expression.evaluate (s.checkBindings project index row c))

/-- The value of the call on a row, if there is one, and then those of the
enabled checks. -/
def rowValues (s : Scope) (project : Project) (index : Nat) (row : Row) (checks : List Check) :
    List Value :=
  s.call.toList.map (fun call =>
      caught (call.expression.evaluate (s.rowBindings project index row))) ++
    s.checkValues project index row checks

/-- Every evaluation of a row has a value: that of the call, if there is one,
and those of the enabled checks. -/
structure Answers (s : Scope) (config : EvaluationConfig) (project : Project) (index : Nat)
    (row : Row) (checks : List Check) : Prop where
  call : ∀ call ∈ s.call, call.expression.Answers config (s.rowBindings project index row)
  checks : ∀ c ∈ checks, c.disabled = false →
    c.expression.Answers config (s.checkBindings project index row c)

/-- Where crashes are caught every row has its values. -/
theorem answers_of_catches {s : Scope} {config : EvaluationConfig}
    (hcatch : config.catchesCrashes = true) (project : Project) (index : Nat) (row : Row)
    (checks : List Check) : s.Answers config project index row checks :=
  ⟨fun _ _ => .inl hcatch, fun _ _ _ => .inl hcatch⟩

end Scope

namespace Metric

/-- The values of a row that a metric judges it by. -/
def rowValues (metric : Metric) (project : Project) (index : Nat) (row : Row) : List Value :=
  metric.scope.rowValues project index row metric.rule.checks

/-- The results of a row: the truth values among them, in order. -/
def rowResults (metric : Metric) (project : Project) (index : Nat) (row : Row) : List Bool :=
  (metric.rowValues project index row).filterMap Value.truth?

end Metric

/-! ## One row -/

namespace RowVisit

variable {v : RowVisit} {s : Scope} {checks : List Check}

/-- Such a check is bound as it is by itself. -/
theorem rebound_plain {c : Check} (hbinder : v.binder = Binder.plain)
    (hkept : c.KeepsOnly s.columnName) :
    v.rebound s.columnName c (s.rowBindings v.project v.index v.row) =
      s.checkBindings v.project v.index v.row c := by
  rw [rebound, hkept.columnIn, hbinder]
  rfl

/-- **A row has the values it has by itself.** -/
theorem values_plain (hbinder : v.binder = Binder.plain)
    (hkept : ∀ c ∈ checks, c.KeepsOnly s.columnName) :
    v.values s checks (s.rowBindings v.project v.index v.row) =
      s.rowValues v.project v.index v.row checks := by
  have hchecks : v.checkValues s.columnName checks (s.rowBindings v.project v.index v.row) =
      s.checkValues v.project v.index v.row checks := by
    refine List.map_congr_left fun c hc => ?_
    rw [rebound_plain hbinder (hkept c (List.mem_filter.mp hc).1)]
  rw [values, hchecks, Scope.rowValues]

theorem answers_plain (hbinder : v.binder = Binder.plain)
    (hkept : ∀ c ∈ checks, c.KeepsOnly s.columnName)
    (h : s.Answers v.config v.project v.index v.row checks) :
    v.Answers s checks (s.rowBindings v.project v.index v.row) where
  call := h.call
  checks c hc hd := by
    rw [rebound_plain hbinder (hkept c hc)]
    exact h.checks c hc hd

end RowVisit

/-! ## All rows -/

namespace Metric

variable {metric : Metric} {project : Project} {tests : List RowTest} {config : EvaluationConfig}

/-- **Rows are met as they are by themselves**: with bindings made for the
project and pointed at the row. -/
theorem encounters_plain (metric : Metric) (project : Project) (tests : List RowTest) :
    metric.encounters project tests Binder.plain =
      (accepted tests project project.rows.zipIdx).map fun r =>
        ⟨r.1, r.2, some (metric.scope.rowBindings project r.2 r.1)⟩ :=
  Binder.encounters_eq_map Binder.plain_forgetsRows project _ (.refl _) _

/-- **What is found under the plain binder**: each accepted row is judged by
its values. -/
theorem map_findingAt_plain (hkept : ∀ c ∈ metric.rule.checks, c.KeepsOnly metric.scope.columnName) :
    (metric.encounters project tests Binder.plain).map
        (metric.findingAt project Binder.plain config) =
      (accepted tests project project.rows.zipIdx).map fun r =>
        .ofValues r.2 (metric.rowValues project r.2 r.1) := by
  rw [encounters_plain, List.map_map]
  refine List.map_congr_left fun r _ => congrArg (Finding.ofValues r.2) ?_
  exact RowVisit.values_plain (v := ⟨project, r.2, r.1, Binder.plain, config⟩) rfl hkept

theorem answersAt_plain (hkept : ∀ c ∈ metric.rule.checks, c.KeepsOnly metric.scope.columnName)
    (hanswers : ∀ r ∈ accepted tests project project.rows.zipIdx,
      metric.scope.Answers config project r.2 r.1 metric.rule.checks) :
    ∀ r ∈ metric.encounters project tests Binder.plain,
      metric.AnswersAt project Binder.plain config r := by
  rw [encounters_plain, List.forall_mem_map]
  rintro r hr _ ⟨⟩
  exact RowVisit.answers_plain (v := ⟨project, r.2, r.1, Binder.plain, config⟩) rfl hkept
    (hanswers r hr)

/-- **What a pass finds under the plain binder**: each accepted row is judged
by its values. -/
theorem found_plain_of_answers
    (hkept : ∀ c ∈ metric.rule.checks, c.KeepsOnly metric.scope.columnName)
    (hanswers : ∀ r ∈ accepted tests project project.rows.zipIdx,
      metric.scope.Answers config project r.2 r.1 metric.rule.checks) :
    metric.found project tests Binder.plain config =
      (accepted tests project project.rows.zipIdx).map fun r =>
        .ofValues r.2 (metric.rowValues project r.2 r.1) := by
  rw [found_of_answers Binder.plain_forgetsColumns (answersAt_plain hkept hanswers),
    map_findingAt_plain hkept]

theorem found_plain (hcatch : config.catchesCrashes = true)
    (hkept : ∀ c ∈ metric.rule.checks, c.KeepsOnly metric.scope.columnName) :
    metric.found project tests Binder.plain config =
      (accepted tests project project.rows.zipIdx).map fun r =>
        .ofValues r.2 (metric.rowValues project r.2 r.1) :=
  found_plain_of_answers hkept fun _ _ => Scope.answers_of_catches hcatch _ _ _ _

/-- **A pass under the plain binder returns** where each accepted row has its
values and every test answers, and it has judged each row by its values. -/
theorem evaluate_of_answers (metric : Metric)
    (hkept : ∀ c ∈ metric.rule.checks, c.KeepsOnly metric.scope.columnName)
    (hanswers : ∀ r ∈ accepted tests project project.rows.zipIdx,
      metric.scope.Answers config project r.2 r.1 metric.rule.checks)
    (htests : ∀ r ∈ project.rows.zipIdx, ∀ test ∈ tests,
      ∃ answer, (test project r.2 r.1).2 = .ok answer) :
    ∃ metric' events stats,
      metric.evaluate project tests Binder.plain config = (metric', events, .returned stats) ∧
        metric.Completes project tests
          ((accepted tests project project.rows.zipIdx).map fun r =>
            .ofValues r.2 (metric.rowValues project r.2 r.1)) metric' stats := by
  have hresponds : metric.Responds project tests Binder.plain config :=
    ⟨answersAt_plain hkept hanswers, fun r hr => ⟨_, RowTest.all_eq_passes (htests r hr)⟩⟩
  have hreturned := evaluate_of_responds Binder.plain_forgetsColumns hresponds
  rwa [map_findingAt_plain hkept] at hreturned

/-- **A pass agrees with the reference.** Where crashes are caught, every
test answers and no check keeps the column of another metric, a pass under
the plain binder returns, and a row is dirty afterwards with some results
just when the tests accept it, these are its results by itself, and the
metric judges them dirty. Checks are any functions of their bindings, so
that no check can tell the bindings of a pass from fresh ones. -/
theorem dirty_iff_reference (metric : Metric) (project : Project) (tests : List RowTest)
    (config : EvaluationConfig) (hcatch : config.catchesCrashes = true)
    (htests : ∀ i row, project.rows[i]? = some row → ∀ test ∈ tests,
      ∃ answer, (test project i row).2 = .ok answer)
    (hkept : ∀ c ∈ metric.rule.checks, c.KeepsOnly metric.scope.columnName) :
    ∃ metric' events stats,
      metric.evaluate project tests Binder.plain config = (metric', events, .returned stats) ∧
        ∀ i results, metric'.rule.dirty.get? i = some results ↔
          ∃ row, project.rows[i]? = some row ∧ passes tests project i row = true ∧
            metric.rowResults project i row = results ∧
            metric.rule.combination.isDirty results = true := by
  have hanswers : ∀ r ∈ project.rows.zipIdx, ∀ test ∈ tests,
      ∃ answer, (test project r.2 r.1).2 = .ok answer :=
    fun r hr => htests r.2 r.1 (List.mem_zipIdx_iff_getElem?.mp hr)
  obtain ⟨metric', events, stats, hreturned, h⟩ :=
    evaluate_returns metric Binder.plain hcatch hanswers
  refine ⟨metric', events, stats, hreturned, fun i results => ?_⟩
  rw [h.dirty, Finding.get?_dirtyIndex h.nodup, found_plain hcatch hkept]
  constructor
  · rintro ⟨n, hmem, hdirty⟩
    obtain ⟨⟨row, j⟩, hrow, hjudged⟩ := List.mem_map.mp hmem
    obtain ⟨rfl, hresults, -⟩ := Finding.judged.inj hjudged
    obtain ⟨hget, hpasses⟩ := RowTest.mem_accepted.mp hrow
    exact ⟨row, hget, hpasses, hresults, hdirty⟩
  · rintro ⟨row, hget, hpasses, rfl, hdirty⟩
    exact ⟨_, List.mem_map.mpr ⟨(row, i), RowTest.mem_accepted.mpr ⟨hget, hpasses⟩, rfl⟩, hdirty⟩

end Metric

namespace Flags

/-- Two rows of flags are dirty, each by another check; the short row is
clean by the one check that has a result, and the last row is not accepted. -/
theorem dirty_rows : ∃ metric' events stats,
    (Metric.column metric).evaluate project [notLast] Binder.plain .standard =
        (metric', events, .returned stats) ∧
      metric'.rule.dirty.get? 0 = some [true, false] ∧
      metric'.rule.dirty.get? 1 = some [false, true] ∧
      (∀ results, metric'.rule.dirty.get? 2 ≠ some results) ∧
      ∀ results, metric'.rule.dirty.get? 3 ≠ some results := by
  have htests : ∀ i row, project.rows[i]? = some row → ∀ test ∈ [notLast],
      ∃ answer, (test project i row).2 = .ok answer := by
    intro i row _ test htest
    rw [List.mem_singleton.mp htest]
    exact ⟨_, rfl⟩
  have hkept : ∀ c ∈ metric.rule.checks, c.KeepsOnly metric.scope.columnName := by
    intro c hc _ kept hkept
    rcases List.mem_cons.mp hc with rfl | hc
    · cases hkept
    · rw [List.mem_singleton.mp hc] at hkept
      cases hkept
  obtain ⟨metric', events, stats, hreturned, hdirty⟩ :=
    Metric.dirty_iff_reference (.column metric) project [notLast] .standard rfl htests hkept
  refine ⟨metric', events, stats, hreturned, ?_, ?_, ?_, ?_⟩
  · exact (hdirty 0 _).mpr ⟨_, rfl, rfl, by decide, by decide⟩
  · exact (hdirty 1 _).mpr ⟨_, rfl, rfl, by decide, by decide⟩
  · intro results h
    obtain ⟨row, hrow, -, rfl, hd⟩ := (hdirty 2 results).mp h
    cases Option.some.inj hrow
    revert hd
    decide
  · intro results h
    obtain ⟨row, -, hpasses, -⟩ := (hdirty 3 results).mp h
    cases hpasses

end Flags

end DataQuality
