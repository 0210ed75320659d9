import DataQuality.Pass.Run
import DataQuality.Proofs.Pass.Visits
import DataQuality.Proofs.Traversal
/-!
# Traversal — a whole pass, and what it leaves of a metric

A pass over a project shows the accepted rows to the evaluator one after
another. What becomes of one row and the rows after it is said once, case by
case (`Shows`). So a traversal that nothing crashes on is a session of visits
(`showRows_goesOn`), and what crashes is a test or one of the visits
(`showRows_crash`). A pass that returns leaves the metric as its findings
make it (`completes_of_returned`), and where crashes are caught every pass
returns, unless a test crashes (`returns_or_test_crashes`).
-/

namespace DataQuality

open Visitor (visits visits_cons)
open RowTest (accepted passes)

namespace Evaluator

variable {e : Evaluator} {p : Pass} {project : Project} {index : Nat} {tests : List RowTest}
variable {row : Row} {rest rows : List Row}

/-- **What becomes of rows that an open pass is shown**, by the first of them:
an open pass never asks to stop, so the rows that are left are shown too
unless something crashes. -/
inductive Shows (e : Evaluator) (p : Pass) (tests : List RowTest) (project : Project) (index : Nat)
    (row : Row) (rest : List Row) : RowsOutcome Evaluator → Prop
  /-- A test crashes. -/
  | tested {tested : List Event} {crash : Crash} :
      RowTest.all project index row tests = (tested, .error crash) →
      Shows e p tests project index row rest ⟨e, tested, 0, some crash⟩
  /-- The row does not pass the tests. -/
  | rejected {tested : List Event} :
      RowTest.all project index row tests = (tested, .ok false) →
      passes tests project index row = false →
      Shows e p tests project index row rest
        { visitor.showRows tests project (index + 1) rest e with
          events := tested ++ (visitor.showRows tests project (index + 1) rest e).events }
  /-- The pass finds something about the row, and goes on. -/
  | found {tested : List Event} {f : Finding} {p' : Pass} :
      RowTest.all project index row tests = (tested, .ok true) →
      passes tests project index row = true →
      e.finding? (.visit project index row) = some f → e.Finds p index f p' →
      visitor.step e (.visit project index row) = (e.withFinding f p', .visited .proceed) →
      Shows e p tests project index row rest
        { visitor.showRows tests project (index + 1) rest (e.withFinding f p') with
          events := tested ++ (e.visit project index row).2.1 ++
            (visitor.showRows tests project (index + 1) rest (e.withFinding f p')).events
          accepted :=
            (visitor.showRows tests project (index + 1) rest (e.withFinding f p')).accepted + 1 }
  /-- The visit crashes. -/
  | crashed {tested : List Event} {e' : Evaluator} {crash : Crash} :
      RowTest.all project index row tests = (tested, .ok true) →
      passes tests project index row = true →
      visitor.step e (.visit project index row) = (e', .crashed crash) →
      Shows e p tests project index row rest
        ⟨e', tested ++ (e.visit project index row).2.1, 1, some crash⟩

theorem showRows_cons (hp : e.pass = some p) (tests : List RowTest) (project : Project)
    (index : Nat) (row : Row) (rest : List Row) :
    e.Shows p tests project index row rest
      (visitor.showRows tests project index (row :: rest) e) := by
  rw [Visitor.showRows]
  cases hall : RowTest.all project index row tests with
  | mk tested answer =>
    cases answer with
    | error crash => exact .tested hall
    | ok answer =>
      have hpasses : passes tests project index row = answer := RowTest.all_answer (by rw [hall])
      cases answer with
      | false => exact .rejected hall hpasses
      | true =>
        have hstep := steps e (.visit project index row)
        generalize hnext : visitor.step e (.visit project index row) = next at hstep
        cases hstep with
        | outside hnone =>
          rw [hp] at hnone
          cases hnone
        | @found _ _ _ q p' f hq hf hfinds =>
          obtain rfl : p = q := Option.some.inj (hp.symm.trans hq)
          obtain ⟨more, hvisit⟩ := Visitor.visit_of_step hnext
          have hmore : (e.visit project index row).2.1 = more := congrArg (·.2.1) hvisit
          have hshows : Shows e p tests project index row rest _ :=
            .found hall hpasses hf hfinds hnext
          rw [hmore] at hshows
          simp only [hvisit]
          exact hshows
        | crashed =>
          obtain ⟨more, hvisit⟩ := Visitor.visit_of_step_crashed hnext
          have hmore : (e.visit project index row).2.1 = more := congrArg (·.2.1) hvisit
          have hshows : Shows e p tests project index row rest _ := .crashed hall hpasses hnext
          rw [hmore] at hshows
          simp only [hvisit]
          exact hshows

/-- **An open pass is shown the accepted rows**, each once and in order, if
nothing crashes. -/
theorem showRows_goesOn (hp : e.pass = some p)
    (h : (visitor.showRows tests project index rows e).crash = none) :
    ∃ p', e.GoesOn p (visits project (accepted tests project (rows.zipIdx index))) p' ∧
      (visitor.showRows tests project index rows e).state =
        visitor.after e (visits project (accepted tests project (rows.zipIdx index))) := by
  induction rows generalizing index e p with
  | nil => exact ⟨p, goesOn_nil hp, rfl⟩
  | cons row rest ih =>
    have hshows := showRows_cons hp tests project index row rest
    generalize visitor.showRows tests project index (row :: rest) e = o at h hshows ⊢
    cases hshows with
    | tested hall => cases h
    | rejected hall hpasses =>
      rw [RowTest.accepted_of_rejected hpasses]
      exact ih hp h
    | @found tested f p' hall hpasses hf hfinds hnext =>
      obtain ⟨p'', hgo, hstate⟩ := ih (e := e.withFinding f p') rfl h
      rw [RowTest.accepted_of_passes hpasses, visits_cons]
      refine ⟨p'', GoesOn.cons hnext hf hfinds hgo, ?_⟩
      rw [Visitor.after_cons, hnext]
      exact hstate
    | crashed hall hpasses hnext => cases h

/-- **What crashes is a test or a visit**: a test of one of the rows, or the
visit of an accepted one. -/
theorem showRows_crash {crash : Crash} (hp : e.pass = some p)
    (h : (visitor.showRows tests project index rows e).crash = some crash) :
    (∃ r ∈ rows.zipIdx index, ∃ test ∈ tests, (test project r.2 r.1).2 = .error crash) ∨
      .crashed crash ∈
        visitor.answers e (visits project (accepted tests project (rows.zipIdx index))) := by
  induction rows generalizing index e p with
  | nil => cases h
  | cons row rest ih =>
    -- A test that crashes further down is one of these tests.
    have hrest : (∃ r ∈ rest.zipIdx (index + 1), ∃ test ∈ tests,
        (test project r.2 r.1).2 = .error crash) →
          ∃ r ∈ (row :: rest).zipIdx index, ∃ test ∈ tests,
            (test project r.2 r.1).2 = .error crash := by
      rintro ⟨r, hr, htest⟩
      rw [List.zipIdx_cons]
      exact ⟨r, List.mem_cons_of_mem _ hr, htest⟩
    have hshows := showRows_cons hp tests project index row rest
    generalize visitor.showRows tests project index (row :: rest) e = o at h hshows
    cases hshows with
    | tested hall =>
      refine .inl ⟨(row, index), ?_, RowTest.exists_test_of_all ?_⟩
      · rw [List.zipIdx_cons]
        exact List.mem_cons_self
      · rw [hall, Option.some.inj h]
    | rejected hall hpasses =>
      rw [RowTest.accepted_of_rejected hpasses]
      exact (ih hp h).imp_left hrest
    | found hall hpasses hf hfinds hnext =>
      rw [RowTest.accepted_of_passes hpasses, visits_cons, Visitor.answers, hnext]
      exact (ih rfl h).imp hrest (List.mem_cons_of_mem _)
    | crashed hall hpasses hnext =>
      rw [RowTest.accepted_of_passes hpasses, visits_cons, Visitor.answers, hnext,
        Option.some.inj h]
      exact .inr List.mem_cons_self

theorem traverse_eq (e : Evaluator) (tests : List RowTest) (project : Project) :
    visitor.traverse tests project e =
      let o := visitor.showRows tests project 0 project.rows (e.start project)
      match o.crash with
      | some crash => (o.state, e.startEvents project ++ o.events, .crashed crash)
      | none =>
        let (e', more, ending) := o.state.finish
        let finished := Event.traversalFinished project.name o.accepted tests.length
        (e', e.startEvents project ++ o.events ++ finished :: more, Ending.ofExcept ending) := rfl

/-- A traversal that nothing crashes on publishes the pass. -/
theorem traverse_of_crash_eq_none
    (h : (visitor.showRows tests project 0 project.rows (e.start project)).crash = none)
    (hp : (visitor.showRows tests project 0 project.rows (e.start project)).state.pass = some p) :
    visitor.traverse tests project e =
      let o := visitor.showRows tests project 0 project.rows (e.start project)
      (o.state.concluded p,
        e.startEvents project ++ o.events ++
          .traversalFinished project.name o.accepted tests.length :: o.state.finishEvents p.stats,
        .returned ()) := by
  rw [traverse_eq]
  simp only [h, finish, hp]
  rfl

theorem traverse_of_crash {crash : Crash}
    (h : (visitor.showRows tests project 0 project.rows (e.start project)).crash = some crash) :
    visitor.traverse tests project e =
      let o := visitor.showRows tests project 0 project.rows (e.start project)
      (o.state, e.startEvents project ++ o.events, .crashed crash) := by
  rw [traverse_eq]
  simp only [h]

end Evaluator

/-- The ending with what is made of its result. -/
def Ending.map {α β : Type} (f : α → β) : Ending α → Ending β
  | returned result => returned (f result)
  | failed fault => failed fault
  | crashed crash => crashed crash

namespace Metric

variable {metric metric' : Metric} {project : Project} {tests : List RowTest} {binder : Binder}
variable {config : EvaluationConfig} {events : List Event} {stats : PassStats}

/-- A pass is a traversal: the metric gets the rule that is left, and the pass
yields the counters that are left if it returns. -/
theorem evaluate_eq (metric : Metric) (project : Project) (tests : List RowTest) (binder : Binder)
    (config : EvaluationConfig) :
    metric.evaluate project tests binder config =
      let o := Evaluator.visitor.traverse tests project (Evaluator.ofMetric metric binder config)
      (metric.withRule o.1.rule, o.2.1, o.2.2.map fun _ => o.1.lastStats.getD {}) := by
  rw [evaluate]
  generalize Evaluator.visitor.traverse tests project (Evaluator.ofMetric metric binder config) = o
  obtain ⟨e, events, result | fault | crash⟩ := o <;> rfl

/-- What a pass of a metric finds on the accepted rows. -/
def found (metric : Metric) (project : Project) (tests : List RowTest) (binder : Binder)
    (config : EvaluationConfig) : List Finding :=
  ((Evaluator.ofMetric metric binder config).start project).findings
    (visits project (accepted tests project project.rows.zipIdx))

/-- The metric after a complete pass that found `fs`. -/
def afterPass (metric : Metric) (fs : List Finding) : Metric :=
  metric.withRule
    { metric.rule with
      checks :=
        if fs.any (·.isJudged) then metric.rule.checks.map (Check.settled metric.scope.columnName)
        else metric.rule.checks
      dirty := Finding.dirtyIndex metric.rule.combination fs
      measure := some (Finding.stats metric.rule.combination fs).measure }

/-- How many results and exclusions an evaluated row of a metric has. -/
def accountSize (metric : Metric) : Nat :=
  metric.rule.enabledChecks + if metric.scope.call.isSome then 1 else 0

/-- A complete pass of a metric that found `fs`: the metric and the counters
afterwards are those of the findings, one for each accepted row. -/
structure Completes (metric : Metric) (project : Project) (tests : List RowTest) (fs : List Finding)
    (metric' : Metric) (stats : PassStats) : Prop where
  leaves : metric' = metric.afterPass fs
  stats : stats = Finding.stats metric.rule.combination fs
  indices : fs.map Finding.index = (accepted tests project project.rows.zipIdx).map Prod.snd
  account : ∀ f ∈ fs, f.isJudged = true → f.results.length + f.excluded = metric.accountSize

namespace Completes

variable {fs : List Finding} (h : metric.Completes project tests fs metric' stats)
include h

theorem nodup : (fs.map Finding.index).Nodup :=
  h.indices ▸ RowTest.indices_accepted_nodup tests project

theorem dirty : metric'.rule.dirty = Finding.dirtyIndex metric.rule.combination fs := by
  rw [h.leaves, afterPass, rule_withRule]

theorem measure : metric'.rule.measure = some stats.measure := by
  rw [h.leaves, afterPass, rule_withRule, h.stats]

end Completes

/-- **A pass that nothing crashes on is complete and returns its counters.**
Before and after what is reported of the rows it reports its start and its
end. -/
theorem evaluate_of_crash_eq_none
    (h : (Evaluator.visitor.showRows tests project 0 project.rows
      ((Evaluator.ofMetric metric binder config).start project)).crash = none) :
    ∃ metric' stats,
      metric.evaluate project tests binder config =
        (metric',
          (Evaluator.ofMetric metric binder config).startEvents project ++
              (Evaluator.visitor.showRows tests project 0 project.rows
                ((Evaluator.ofMetric metric binder config).start project)).events ++
            .traversalFinished project.name
                (Evaluator.visitor.showRows tests project 0 project.rows
                  ((Evaluator.ofMetric metric binder config).start project)).accepted
                tests.length ::
              (Evaluator.ofMetric metric binder config).finishEvents stats,
          .returned stats) ∧
        metric.Completes project tests (metric.found project tests binder config) metric'
          stats := by
  obtain ⟨p, hp, hholds⟩ := Evaluator.start_holds (Evaluator.ofMetric metric binder config) project
  obtain ⟨p', hgo, hstate⟩ := Evaluator.showRows_goesOn hp h
  have hheld := hgo.holds [] hholds
  rw [List.nil_append] at hheld
  have hpass := hgo.pass
  have hrule := hgo.rule
  have hindices := hgo.indices
  rw [Visitor.filterMap_index?_visits] at hindices
  -- No visit changes what the end of the pass reports.
  have hconfig := (Evaluator.after_sameSetup ((Evaluator.ofMetric metric binder config).start
    project) (visits project (accepted tests project project.rows.zipIdx))).config
  rw [← hstate] at hpass hrule hconfig
  have hleft : metric.withRule ((Evaluator.visitor.showRows tests project 0 project.rows
      ((Evaluator.ofMetric metric binder config).start project)).state.concluded p').rule =
        metric.afterPass (metric.found project tests binder config) := by
    rw [Evaluator.concluded, hrule, Rule.publish, hheld.pending, hheld.stats]
    rfl
  refine ⟨_, p'.stats, ?_, rfl, hheld.stats, hindices, hgo.account⟩
  rw [← hleft, evaluate, Evaluator.traverse_of_crash_eq_none h hpass]
  simp only [Evaluator.finishEvents, hconfig]
  rfl

/-- A crash ends a pass, and what was reported before stays. -/
theorem evaluate_of_crash {crash : Crash}
    (h : (Evaluator.visitor.showRows tests project 0 project.rows
      ((Evaluator.ofMetric metric binder config).start project)).crash = some crash) :
    ∃ metric', metric.evaluate project tests binder config =
      (metric',
        (Evaluator.ofMetric metric binder config).startEvents project ++
          (Evaluator.visitor.showRows tests project 0 project.rows
            ((Evaluator.ofMetric metric binder config).start project)).events,
        .crashed crash) := by
  rw [evaluate, Evaluator.traverse_of_crash h]
  exact ⟨_, rfl⟩

/-- A pass that returns is one that nothing crashed on. -/
theorem completes_of_returned
    (h : metric.evaluate project tests binder config = (metric', events, .returned stats)) :
    metric.Completes project tests (metric.found project tests binder config) metric' stats := by
  cases hc : (Evaluator.visitor.showRows tests project 0 project.rows
      ((Evaluator.ofMetric metric binder config).start project)).crash with
  | none =>
    obtain ⟨metric'', stats', hreturned, hcompletes⟩ := evaluate_of_crash_eq_none hc
    rw [h] at hreturned
    cases hreturned
    exact hcompletes
  | some crash =>
    obtain ⟨metric'', hcrashed⟩ := evaluate_of_crash hc
    rw [h] at hcrashed
    cases hcrashed

/-- **Where crashes are caught a pass returns**, unless a test of rows
crashes. -/
theorem returns_or_test_crashes (metric : Metric) (binder : Binder)
    (hcatch : config.catchesCrashes = true) :
    (∃ metric' events stats,
      metric.evaluate project tests binder config = (metric', events, .returned stats) ∧
        metric.Completes project tests (metric.found project tests binder config) metric'
          stats) ∨
      ∃ metric' events crash,
        metric.evaluate project tests binder config = (metric', events, .crashed crash) ∧
          ∃ i row, project.rows[i]? = some row ∧
            ∃ test ∈ tests, (test project i row).2 = .error crash := by
  obtain ⟨p, hp, -⟩ := Evaluator.start_holds (Evaluator.ofMetric metric binder config) project
  cases hc : (Evaluator.visitor.showRows tests project 0 project.rows
      ((Evaluator.ofMetric metric binder config).start project)).crash with
  | none =>
    obtain ⟨metric', stats, hreturned, hcompletes⟩ := evaluate_of_crash_eq_none hc
    exact .inl ⟨metric', _, stats, hreturned, hcompletes⟩
  | some crash =>
    obtain ⟨⟨row, i⟩, hr, htest⟩ := (Evaluator.showRows_crash hp hc).resolve_right
      (Evaluator.crashed_not_mem_answers crash hcatch)
    obtain ⟨metric', hcrashed⟩ := evaluate_of_crash hc
    exact .inr ⟨metric', _, crash, hcrashed, i, row, List.mem_zipIdx_iff_getElem?.mp hr, htest⟩

/-- Where every test answers besides, every pass returns. -/
theorem evaluate_returns (metric : Metric) (binder : Binder)
    (hcatch : config.catchesCrashes = true)
    (htests : ∀ r ∈ project.rows.zipIdx, ∀ test ∈ tests,
      ∃ answer, (test project r.2 r.1).2 = .ok answer) :
    ∃ metric' events stats,
      metric.evaluate project tests binder config = (metric', events, .returned stats) ∧
        metric.Completes project tests (metric.found project tests binder config) metric'
          stats := by
  rcases returns_or_test_crashes metric binder hcatch with hreturned |
    ⟨-, -, crash, -, i, row, hrow, test, htest, hcrash⟩
  · exact hreturned
  · obtain ⟨answer, hanswer⟩ := htests (row, i) (List.mem_zipIdx_iff_getElem?.mpr hrow) test htest
    rw [hanswer] at hcrash
    cases hcrash

end Metric

end DataQuality
