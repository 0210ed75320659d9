import DataQuality.Proofs.Pass.Order
import DataQuality.Proofs.RowFilter.Rows
/-!
# Selection — a pass over the rows that filters accept

Of the filters it matters which they are: a pass with the same filters listed
otherwise leaves the metric the same and ends the same way
(`Metric.evaluate_congr`). One filter more leaves out rows, and where the binder
forgets rows those that are left are met as before
(`Metric.encounters_added`), so the pass finds of them what it found
(`Metric.filters_select_rows`).
-/

namespace DataQuality

open RowTest (accepted passes)

/-! ## Filters that answer -/

namespace RowFilter

variable {f : RowFilter} {filters others : List RowFilter} {project : Project}

/-- The expression of a filter has a value on every row that is bound. -/
def Answers (f : RowFilter) (project : Project) : Prop :=
  ∀ i row, project.rows[i]? = some row → ∀ b, f.Sees project i row b →
    ∃ v, f.expression.evaluate b = .ok v

/-- Such a filter answers for every row; one that is refused is not accepted. -/
theorem Answers.exists_answer (h : f.Answers project) {r : Row × Nat}
    (hr : r ∈ project.rows.zipIdx) : ∃ answer, (f.test project r.2 r.1).2 = .ok answer := by
  have hrow : project.rows[r.2]? = some r.1 := List.mem_zipIdx_iff_getElem?.mp hr
  rcases f.sees_or_refused project r.2 r.1 with ⟨b, hbound⟩ | ⟨fault, hrefused⟩
  · obtain ⟨v, hv⟩ := h r.2 r.1 hrow b hbound
    exact ⟨_, by rw [test_of_value hbound hv]⟩
  · exact ⟨false, by rw [test_of_refused hrefused]⟩

theorem tests_answer (h : ∀ f ∈ filters, f.Answers project) :
    ∀ r ∈ project.rows.zipIdx, ∀ test ∈ filters.map RowFilter.test,
      ∃ answer, (test project r.2 r.1).2 = .ok answer := by
  intro r hr test htest
  obtain ⟨f, hf, rfl⟩ := List.mem_map.mp htest
  exact (h f hf).exists_answer hr

theorem mem_tests_congr (h : ∀ f, f ∈ others ↔ f ∈ filters) (test : RowTest) :
    test ∈ others.map RowFilter.test ↔ test ∈ filters.map RowFilter.test := by
  simp only [List.mem_map, h]

theorem mem_tests_added {added : RowFilter} (h : ∀ f, f ∈ others ↔ f = added ∨ f ∈ filters)
    (test : RowTest) : test ∈ others.map RowFilter.test ↔
      test = added.test ∨ test ∈ filters.map RowFilter.test := by
  simp only [List.mem_map, h]
  constructor
  · rintro ⟨f, rfl | hf, rfl⟩
    · exact .inl rfl
    · exact .inr ⟨f, hf, rfl⟩
  · rintro (rfl | ⟨f, hf, rfl⟩)
    · exact ⟨added, .inl rfl, rfl⟩
    · exact ⟨f, .inr hf, rfl⟩

end RowFilter

/-! ## Other tests -/

namespace Metric

variable {metric : Metric} {project : Project} {tests others : List RowTest} {added : RowTest}
variable {binder : Binder} {config : EvaluationConfig} {stats : PassStats}

section Answering

variable (htests : ∀ r ∈ project.rows.zipIdx, ∀ test ∈ tests,
  ∃ answer, (test project r.2 r.1).2 = .ok answer)
variable (hothers : ∀ r ∈ project.rows.zipIdx, ∀ test ∈ others,
  ∃ answer, (test project r.2 r.1).2 = .ok answer)

include htests hothers in
/-- **A pass is told by the accepted rows**, whatever binds them and whether or
not it crashes. -/
theorem evaluate_congr (h : accepted others project project.rows.zipIdx =
      accepted tests project project.rows.zipIdx) :
    (metric.evaluate project others binder config).1 =
        (metric.evaluate project tests binder config).1 ∧
      (metric.evaluate project others binder config).2.2 =
        (metric.evaluate project tests binder config).2.2 := by
  obtain ⟨hstate, hending⟩ := Visitor.traverse_congr (v := Evaluator.visitor)
    (s := Evaluator.ofMetric metric binder config) htests hothers h
  rw [evaluate_eq, evaluate_eq]
  simp only [hstate, hending, and_self]

/-! ## One test more -/

/-- **One test more leaves out encounters**, and changes none of the others. -/
theorem encounters_added (hrows : binder.ForgetsRows)
    (h : ∀ test, test ∈ others ↔ test = added ∨ test ∈ tests) :
    metric.encounters project others binder =
      (metric.encounters project tests binder).filter fun r =>
        passes [added] project r.index r.row := by
  rw [encounters, encounters, Binder.encounters_eq_map hrows project _ (.refl _),
    Binder.encounters_eq_map hrows project _ (.refl _), RowTest.accepted_added h, List.filter_map]
  rfl

/-- A row that is met is a row of the project. -/
theorem getElem?_of_mem_encounters (hrows : binder.ForgetsRows) {r : Encounter}
    (hr : r ∈ metric.encounters project tests binder) : project.rows[r.index]? = some r.row := by
  rw [encounters, Binder.encounters_eq_map hrows project _ (.refl _)] at hr
  obtain ⟨⟨row, i⟩, hmem, rfl⟩ := List.mem_map.mp hr
  exact (RowTest.mem_accepted.mp hmem).1

include hothers in
/-- **One test more restricts a pass.** If the pass returned it still returns.
A row is dirty, with the results it had, where it was and passes the test, and
no counter is greater. -/
theorem evaluate_added (hcolumns : binder.ForgetsColumns) (hrows : binder.ForgetsRows)
    (h : ∀ test, test ∈ others ↔ test = added ∨ test ∈ tests)
    (hreturned : (metric.evaluate project tests binder config).2.2 = .returned stats) :
    ∃ stats', (metric.evaluate project others binder config).2.2 = .returned stats' ∧
      (∀ i rs, (metric.evaluate project others binder config).1.rule.dirty.get? i = some rs ↔
        (metric.evaluate project tests binder config).1.rule.dirty.get? i = some rs ∧
          ∃ row, project.rows[i]? = some row ∧ (added project i row).2 = .ok true) ∧
      stats'.visited ≤ stats.visited ∧ stats'.evaluated ≤ stats.evaluated ∧
      stats'.skippedRows ≤ stats.skippedRows ∧ stats'.excluded ≤ stats.excluded ∧
      stats'.dirtyRows ≤ stats.dirtyRows := by
  have hmet : metric.encounters project others binder =
      (metric.encounters project tests binder).filter fun r =>
        passes [added] project r.index r.row := encounters_added hrows h
  have hleft : (metric.encounters project others binder).Sublist
      (metric.encounters project tests binder) := by
    rw [hmet]
    exact List.filter_sublist
  have hresponds := (returns_iff hcolumns).mp ⟨stats, hreturned⟩
  have hresponds' : metric.Responds project others binder config :=
    ⟨fun r hr => hresponds.rows r (hleft.mem hr),
      fun r hr => ⟨_, RowTest.all_eq_passes (hothers r hr)⟩⟩
  obtain ⟨stats', hreturned'⟩ := (returns_iff hcolumns).mpr hresponds'
  have hcompletes := completes_of_returns hcolumns hreturned
  have hcompletes' := completes_of_returns hcolumns hreturned'
  refine ⟨stats', hreturned', fun i rs => ?_, ?_⟩
  · rw [hcompletes'.get?_dirty, hcompletes.get?_dirty, hmet]
    constructor
    · rintro ⟨r, hr, b, hb, rfl, hresults, hdirty⟩
      obtain ⟨hr, hpasses⟩ := List.mem_filter.mp hr
      exact ⟨⟨r, hr, b, hb, rfl, hresults, hdirty⟩, r.row,
        getElem?_of_mem_encounters hrows hr, RowTest.passes_singleton.mp hpasses⟩
    · rintro ⟨⟨r, hr, b, hb, rfl, hresults, hdirty⟩, row, hrow, hpasses⟩
      cases (getElem?_of_mem_encounters hrows hr).symm.trans hrow
      refine ⟨r, List.mem_filter.mpr ⟨hr, ?_⟩, b, hb, rfl, hresults, hdirty⟩
      exact RowTest.passes_singleton.mpr hpasses
  · rw [hcompletes'.stats, hcompletes.stats]
    exact Finding.stats_le_of_sublist (hleft.map _)

end Answering

/-! ## Filters -/

/-- The call and the checks of a metric have values under all bindings. -/
structure Answers (metric : Metric) (config : EvaluationConfig) : Prop where
  call : ∀ call ∈ metric.scope.call, ∀ b, call.expression.Answers config b
  checks : ∀ c ∈ metric.rule.checks, ∀ b, c.expression.Answers config b

/-- Then everything responds, whichever rows are accepted. -/
theorem responds_of_answers (hanswers : metric.Answers config)
    (htests : ∀ r ∈ project.rows.zipIdx, ∀ test ∈ tests,
      ∃ answer, (test project r.2 r.1).2 = .ok answer) :
    metric.Responds project tests binder config where
  rows _ _ b _ :=
    { call := fun call hcall => hanswers.call call hcall b
      checks := fun c hc _ => hanswers.checks c hc _ }
  tests r hr := ⟨_, RowTest.all_eq_passes (htests r hr)⟩

/-- **Filters select the rows of a pass.** How they are listed, and how often,
makes no difference to the metric that a pass leaves or to its end, crash or
counters, whatever binds the rows. Under a binder that forgets columns, such as
the plain one, the pass returns where the expressions of the metric have values.
If the binder forgets rows too, as the plain one does, then with one filter more,
wherever it stands, a pass that returned still returns: of its dirty rows those
stay that the filter accepts, with their results, and no counter is greater. -/
theorem filters_select_rows (metric : Metric) (project : Project) (filters : List RowFilter)
    (binder : Binder) (config : EvaluationConfig) (hfilters : ∀ f ∈ filters, f.Answers project) :
    let pass filters := metric.evaluate project (filters.map RowFilter.test) binder config
    (∀ others, (∀ f, f ∈ others ↔ f ∈ filters) →
      (pass others).1 = (pass filters).1 ∧ (pass others).2.2 = (pass filters).2.2) ∧
    (binder.ForgetsColumns → metric.Answers config →
      ∃ stats, (pass filters).2.2 = .returned stats) ∧
    (binder.ForgetsColumns → binder.ForgetsRows →
      ∀ (added : RowFilter) (others : List RowFilter) (stats : PassStats), added.Answers project →
        (∀ f, f ∈ others ↔ f = added ∨ f ∈ filters) →
        (pass filters).2.2 = .returned stats →
        ∃ stats', (pass others).2.2 = .returned stats' ∧
          (∀ i rs, (pass others).1.rule.dirty.get? i = some rs ↔
            (pass filters).1.rule.dirty.get? i = some rs ∧
              ∃ row, project.rows[i]? = some row ∧ (added.test project i row).2 = .ok true) ∧
          stats'.visited ≤ stats.visited ∧ stats'.evaluated ≤ stats.evaluated ∧
          stats'.skippedRows ≤ stats.skippedRows ∧ stats'.excluded ≤ stats.excluded ∧
          stats'.dirtyRows ≤ stats.dirtyRows) := by
  intro pass
  have htests := RowFilter.tests_answer hfilters
  refine ⟨?_, ?_, ?_⟩
  · intro others hsame
    have hothers := RowFilter.tests_answer fun f hf => hfilters f ((hsame f).mp hf)
    exact evaluate_congr htests hothers
      (RowTest.accepted_congr (RowFilter.mem_tests_congr hsame) _)
  · intro hcolumns hanswers
    exact (returns_iff hcolumns).mpr (responds_of_answers hanswers htests)
  · intro hcolumns hrows added others stats hadded hmore hreturned
    have hanswer : ∀ f ∈ others, f.Answers project := by
      intro f hf
      rcases (hmore f).mp hf with rfl | hf
      · exact hadded
      · exact hfilters f hf
    exact evaluate_added (RowFilter.tests_answer hanswer) hcolumns hrows
      (RowFilter.mem_tests_added hmore) hreturned

end Metric

namespace Flags

/-- The rows with a flag that is not set. -/
def clear (column : String) (index : Nat) : RowFilter where
  expression := cell
  column
  cellIndex := some index
  literals := [.bool false]
  selectsBlank := false
  selectsError := false
  inverted := false
  binder := Binder.plain

/-- Of the rows that are not raised two are dirty, however often this is asked
for. Where they must be unseen besides, the last row stays. -/
theorem last_row_stays :
    let pass filters := (Metric.column metric).evaluate project (filters.map RowFilter.test)
      Binder.plain .standard
    let raised := clear "raised" 0
    let seen := clear "seen" 1
    (pass [raised, raised]).2.2 = .returned ⟨2, 2, 0, 0, 2⟩ ∧
      (pass [seen, raised]).1.rule.dirty.get? 3 = some [false, false] ∧
      (∀ results, (pass [seen, raised]).1.rule.dirty.get? 1 ≠ some results) ∧
      ∃ stats, (pass [seen, raised]).2.2 = .returned stats ∧ stats.dirtyRows ≤ 2 := by
  intro pass raised seen
  have hanswers : ∀ column index, (clear column index).Answers project :=
    fun _ _ _ _ _ _ _ => ⟨_, rfl⟩
  have hfilters : ∀ f ∈ [raised], f.Answers project := by
    intro f hf
    rw [List.mem_singleton.mp hf]
    exact hanswers "raised" 0
  have hreturned : (pass [raised]).2.2 = .returned ⟨2, 2, 0, 0, 2⟩ := rfl
  have hdirty : (pass [raised]).1.rule.dirty.get? 3 = some [false, false] := rfl
  obtain ⟨hrepeated, -, hadded⟩ := Metric.filters_select_rows (.column metric) project [raised]
    Binder.plain .standard hfilters
  obtain ⟨-, hending⟩ := hrepeated [raised, raised] (by simp)
  obtain ⟨stats, hreturned', hrestricted, -, -, -, -, hcounted⟩ :=
    hadded Binder.plain_forgetsColumns Binder.plain_forgetsRows seen [seen, raised] _
      (hanswers "seen" 1) (by simp) hreturned
  refine ⟨hending.trans hreturned, ?_, ?_, stats, hreturned', hcounted⟩
  · exact (hrestricted 3 _).mpr ⟨hdirty, _, rfl, rfl⟩
  · intro results h
    obtain ⟨-, row, hrow, hseen⟩ := (hrestricted 1 results).mp h
    cases hrow
    cases hseen

end Flags

end DataQuality
