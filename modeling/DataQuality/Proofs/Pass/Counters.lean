import DataQuality.Proofs.Pass.Traversal
import Mathlib.Data.List.Nodup
/-!
# Counters — what the counters of a pass say

The counters balance against each other, against the rows of the project
and against the dirty rows that are published. That a dirty row is counted
once needs that a pass meets no row twice; the rest holds of any visits.
-/

namespace DataQuality

open Visitor (visits)
open RowTest (accepted)

/-- A binder refuses a row whatever the bindings are. -/
def Binder.Rejects (binder : Binder) (index : Nat) : Prop :=
  ∀ b row column cell, ∃ fault, binder.bind b row index column cell = .error fault

namespace Evaluator

variable {e : Evaluator} {p : Pass} {project : Project} {calls : List Visitor.Call}
variable {i n : Nat} {rs : List Bool}

/-- A row that was judged could be bound. -/
theorem not_rejects_of_finding? {call : Visitor.Call}
    (h : e.finding? call = some (.judged i rs n)) : ¬ e.binder.Rejects i := by
  intro hrejects
  cases call with
  | start project => cases h
  | finish project => cases h
  | visit project index row =>
    rw [finding?] at h
    obtain ⟨p, -, hfound⟩ := Option.bind_eq_some_iff.mp h
    split at hfound
    · cases Option.some.inj hfound
    · rename_i b hbound
      split at hfound
      · cases hfound
      · obtain ⟨rfl, -, -⟩ := Finding.judged.inj (Option.some.inj hfound)
        obtain ⟨fault, hfault⟩ := hrejects p.bindings row e.scope.columnName
          (p.contextIndex.bind row.cell?)
        rw [bound, hfault] at hbound
        cases hbound

theorem not_rejects_of_mem_findings (h : .judged i rs n ∈ e.findings calls) :
    ¬ e.binder.Rejects i := by
  induction calls generalizing e with
  | nil => cases h
  | cons call rest ih =>
    rw [findings, List.mem_append, Option.mem_toList] at h
    rcases h with h | h
    · exact not_rejects_of_finding? h
    · rw [← (step_sameSetup e call).binder]
      exact ih h

/-- **The counters of an open pass balance**, also when rows are shown more
than once. -/
theorem balance_of_visits (h : (visitor.after (e.start project) calls).pass = some p)
    (hv : ∀ c ∈ calls, c.isVisit = true) :
    p.pending.size ≤ p.stats.dirtyRows ∧ p.stats.dirtyRows ≤ p.stats.evaluated ∧
      p.stats.evaluated + p.stats.skippedRows = p.stats.visited ∧
      p.stats.visited = calls.length := by
  obtain ⟨q, hq, hholds⟩ := start_holds e project
  rcases after_visits hq hv with ⟨p', hgo⟩ | ⟨hnone, -⟩
  · obtain rfl : p = p' := Option.some.inj (h.symm.trans hgo.pass)
    have hheld := hgo.holds [] hholds
    rw [List.nil_append] at hheld
    have hlength : ((e.start project).findings calls).length = calls.length := by
      rw [← List.length_map, hgo.indices, List.length_filterMap_eq_countP,
        List.countP_eq_length]
      intro c hc
      cases c with
      | visit project index row => rfl
      | start project => cases hv _ hc
      | finish project => cases hv _ hc
    rw [hheld.pending, hheld.stats]
    exact ⟨Finding.size_dirtyIndex_le, Finding.dirtyRows_le_evaluated,
      Finding.evaluated_add_skippedRows, hlength⟩
  · rw [h] at hnone
    cases hnone

end Evaluator

namespace Metric

variable {metric metric' : Metric} {project : Project} {tests : List RowTest} {binder : Binder}
variable {config : EvaluationConfig} {events : List Event} {stats : PassStats} {fs : List Finding}

namespace Completes

variable (h : metric.Completes project tests fs metric' stats)
include h

/-- One finding for each accepted row. -/
theorem visited : stats.visited = (accepted tests project project.rows.zipIdx).length := by
  have hlength := congrArg List.length h.indices
  rw [List.length_map, List.length_map] at hlength
  rw [h.stats]
  exact hlength

/-- **Every dirty row is counted once.** -/
theorem dirtyRows : stats.dirtyRows = metric'.rule.dirty.size := by
  rw [h.dirty, Finding.size_dirtyIndex h.nodup, h.stats]

/-- The dirty rows are those that were judged dirty. -/
theorem mem_keys_iff {i : Nat} : i ∈ metric'.rule.dirty.keys ↔
    ∃ rs n, .judged i rs n ∈ fs ∧ metric.rule.combination.isDirty rs = true := by
  rw [OrderedMap.mem_keys_iff, Option.isSome_iff_exists, h.dirty]
  simp only [Finding.get?_dirtyIndex h.nodup]

/-- A dirty row was accepted, and it was judged and nothing else. -/
theorem of_mem_keys {i : Nat} (hi : i ∈ metric'.rule.dirty.keys) :
    (∃ row, (row, i) ∈ accepted tests project project.rows.zipIdx) ∧ .refused i ∉ fs ∧
      ∃ rs n, .judged i rs n ∈ fs := by
  obtain ⟨rs, n, hmem, -⟩ := h.mem_keys_iff.mp hi
  refine ⟨?_, ?_, rs, n, hmem⟩
  · have hindex : i ∈ fs.map Finding.index := List.mem_map.mpr ⟨_, hmem, rfl⟩
    rw [h.indices] at hindex
    obtain ⟨⟨row, j⟩, hrow, rfl⟩ := List.mem_map.mp hindex
    exact ⟨row, hrow⟩
  · -- A row is found once, so it was not refused beside being judged.
    intro hrefused
    cases List.inj_on_of_nodup_map h.nodup hrefused hmem rfl

end Completes

/-- **The counters account for the rows.** After a complete pass every
accepted row is counted as evaluated or skipped, the dirty rows are counted
as they are published, none of them is a row the binder turned down, each
evaluated row has a result or an exclusion for every enabled check and for
the call, and the measure is read off the counters: one minus the part of the
evaluated rows that is dirty, or one if none was evaluated. In an open pass
that is shown any rows, also the same ones again, what is staged stays below
what is counted. -/
theorem counters_account_for_rows (metric : Metric) (project : Project) (tests : List RowTest)
    (binder : Binder) (config : EvaluationConfig) :
    (∀ metric' events stats,
      metric.evaluate project tests binder config = (metric', events, .returned stats) →
        stats.visited = (accepted tests project project.rows.zipIdx).length ∧
        stats.evaluated + stats.skippedRows = stats.visited ∧
        stats.visited ≤ project.rows.length ∧
        stats.dirtyRows = metric'.rule.dirty.size ∧
        stats.dirtyRows ≤ stats.evaluated ∧
        min stats.dirtyRows stats.evaluated = stats.dirtyRows ∧
        (∀ i ∈ metric'.rule.dirty.keys, i < project.rows.length ∧
          (∃ row, (row, i) ∈ accepted tests project project.rows.zipIdx) ∧
          .refused i ∉ metric.found project tests binder config ∧ ¬ binder.Rejects i) ∧
        Finding.total (·.results.length) (metric.found project tests binder config) +
          stats.excluded = stats.evaluated * metric.accountSize ∧
        metric'.rule.measure = some stats.measure ∧
        stats.measure = (if stats.evaluated = 0 then 1.0
          else 1.0 - Float.ofNat stats.dirtyRows / Float.ofNat stats.evaluated)) ∧
      ∀ (e : Evaluator) (calls : List Visitor.Call) (p : Pass), (∀ c ∈ calls, c.isVisit = true) →
        (Evaluator.visitor.after (e.start project) calls).pass = some p →
          p.pending.size ≤ p.stats.dirtyRows ∧ p.stats.dirtyRows ≤ p.stats.evaluated ∧
          p.stats.evaluated + p.stats.skippedRows = p.stats.visited ∧
          p.stats.visited = calls.length := by
  refine ⟨fun metric' events stats hreturned => ?_, fun e calls p hv hp =>
    Evaluator.balance_of_visits hp hv⟩
  have h := completes_of_returned hreturned
  have hbalance : stats.evaluated + stats.skippedRows = stats.visited := by
    rw [h.stats]
    exact Finding.evaluated_add_skippedRows
  have hdirty : stats.dirtyRows ≤ stats.evaluated := by
    rw [h.stats]
    exact Finding.dirtyRows_le_evaluated
  refine ⟨h.visited, hbalance, ?_, h.dirtyRows, hdirty, Nat.min_eq_left hdirty, ?_, ?_, h.measure,
    PassStats.measure_eq hdirty⟩
  · rw [h.visited]
    exact RowTest.length_accepted_le tests project
  · intro i hi
    obtain ⟨⟨row, hrow⟩, hrefused, rs, n, hjudged⟩ := h.of_mem_keys hi
    have hsome := (RowTest.mem_accepted.mp hrow).1
    exact ⟨(List.getElem?_eq_some_iff.mp hsome).1, ⟨row, hrow⟩, hrefused,
      Evaluator.not_rejects_of_mem_findings hjudged⟩
  · have htotal := Finding.total_results_add_excluded (c := metric.rule.combination) h.account
    rw [← h.stats] at htotal
    exact htotal

end Metric

/-! ## A data set of flags -/

namespace Flags

/-- Rows of two flags; the third one is short. -/
def project : Project where
  name := "flags"
  columns := ⟨["raised", "seen"]⟩
  rows := [[.bool true, .bool false], [.bool false, .bool true], [.bool true],
    [.bool false, .bool false]].map Row.ofValues

/-- The value of the cell that is bound. -/
def cell : Expression := ⟨"value", fun b => .ok b.value⟩

/-- Both flags should be set. -/
def metric : ColumnMetric where
  rule :=
    { name := "set"
      description := none
      checks := [⟨cell, none, false, none, none⟩, ⟨cell, some "seen", false, none, none⟩]
      combination := .all }
  column := some "raised"

/-- All rows but the last one. -/
def notLast : RowTest := fun _ index _ => ([], .ok (decide (index < 3)))

/-- A binder that refuses the second row. -/
def binder : Binder := .screening ⟨[1], false, OrderedMap.empty⟩

/-- Three rows of flags are accepted, and the one that the binder refuses is
counted but not dirty. -/
theorem counters_of_pass : ∃ metric' events stats,
    (Metric.column metric).evaluate project [notLast] binder .standard =
        (metric', events, .returned stats) ∧
      stats.visited = 3 ∧ stats.evaluated + stats.skippedRows = 3 ∧
      stats.dirtyRows = metric'.rule.dirty.size ∧ 1 ∉ metric'.rule.dirty.keys := by
  have hrejects : binder.Rejects 1 := fun b row column cell => ⟨_, rfl⟩
  have hcatch : EvaluationConfig.standard.catchesCrashes = true := rfl
  have hanswers : ∀ r ∈ project.rows.zipIdx, ∀ test ∈ [notLast],
      ∃ answer, (test project r.2 r.1).2 = .ok answer := by
    intro r _ test htest
    rw [List.mem_singleton.mp htest]
    exact ⟨_, rfl⟩
  obtain ⟨metric', events, stats, hreturned, -⟩ :=
    Metric.evaluate_returns (.column metric) binder hcatch hanswers
  obtain ⟨hvisited, hbalance, -, hdirty, -, -, hkeys, -⟩ :=
    (Metric.counters_account_for_rows (.column metric) project [notLast] binder .standard).1
      metric' events stats hreturned
  refine ⟨metric', events, stats, hreturned, hvisited, hbalance.trans hvisited, hdirty, ?_⟩
  intro hmem
  exact (hkeys 1 hmem).2.2.2 hrejects

end Flags

end DataQuality
