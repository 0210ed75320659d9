import DataQuality.Proofs.Pass.Traversal
/-!
# Variations — a pass made another way

A variation is another way to make a pass of a metric: with another config,
another scope and other checks. One that makes no difference to the outcome
of a row, but for its checks and what it reports, makes none to a pass either:
an evaluator and its variation go side by side (`Keeps.mirrors`), and the
passes of two metrics that are so related end alike (`Metric.evaluate_varied`).
-/

namespace DataQuality

open Visitor (Agree Mirrors)

/-- Another way to make a pass. -/
structure Variation where
  config : EvaluationConfig → EvaluationConfig
  scope : Scope → Scope
  checks : List Check → List Check

namespace Variation

/-- The rule with its checks varied. -/
def rule (f : Variation) (r : Rule) : Rule := { r with checks := f.checks r.checks }

/-- The row as the varied pass meets it. -/
def rowVisit (f : Variation) (v : RowVisit) : RowVisit := { v with config := f.config v.config }

/-- The evaluator of the varied pass. -/
def evaluator (f : Variation) (e : Evaluator) : Evaluator :=
  { e with config := f.config e.config, scope := f.scope e.scope, rule := f.rule e.rule }

/-- The variation makes no difference under the configs with `P`, as far as
events are kept: a row has its outcome, with the checks varied that it leaves.
Where any event is kept the log config is. -/
structure Keeps (f : Variation) (P : EvaluationConfig → Prop) (keep : Event → Bool) : Prop where
  columnName : ∀ s, (f.scope s).columnName = s.columnName
  enabledChecks : ∀ r, (f.rule r).enabledChecks = r.enabledChecks
  log : (∃ event, keep event = true) → ∀ c, (f.config c).log = c.log
  run : ∀ (v : RowVisit) (scope : Scope) (checks : List Check) (b : Bindings), P v.config →
    ∃ events, (f.rowVisit v).run (f.scope scope) (f.checks checks) b =
        { v.run scope checks b with
          checks := f.checks (v.run scope checks b).checks
          events := events } ∧
      events.filter keep = (v.run scope checks b).events.filter keep

namespace Keeps

variable {f : Variation} {P : EvaluationConfig → Prop} {keep : Event → Bool} {e : Evaluator}
variable (h : f.Keeps P keep)
include h

/-- What depends on the log config is reported as without the variation. -/
theorem filter_eq (c : EvaluationConfig) (reported : LogConfig → List Event) :
    (reported (f.config c).log).filter keep = (reported c.log).filter keep := by
  by_cases hkeep : ∃ event, keep event = true
  · rw [h.log hkeep]
  · have hnone : ∀ events : List Event, events.filter keep = [] := fun events =>
      List.filter_eq_nil_iff.mpr fun event _ hevent => hkeep ⟨event, hevent⟩
    rw [hnone, hnone]

theorem start (hP : P e.config) (project : Project) :
    Agree (fun e e' => e' = f.evaluator e ∧ P e.config) keep (Evaluator.visitor.start e project)
      (Evaluator.visitor.start (f.evaluator e) project) := by
  have hcolumn : (f.evaluator e).scope.columnName = e.scope.columnName := h.columnName e.scope
  have henabled : (f.evaluator e).rule.enabledChecks = e.rule.enabledChecks :=
    h.enabledChecks e.rule
  have hplace : (f.evaluator e).contextIndex project = e.contextIndex project := by
    rw [Evaluator.contextIndex, hcolumn, Evaluator.contextIndex]
  refine ⟨⟨?_, hP⟩, ?_, rfl⟩
  · change (f.evaluator e).start project = f.evaluator (e.start project)
    rw [Evaluator.start, hplace]
    rfl
  · change ((f.evaluator e).startEvents project).filter keep = (e.startEvents project).filter keep
    rw [Evaluator.startEvents, hplace, hcolumn, henabled]
    exact h.filter_eq e.config fun log =>
      Evaluator.reportIf (log.skipped && (e.contextIndex project).isNone &&
          e.scope.columnName != "") (.columnMissing e.scope.columnName) ++
        Evaluator.reportIf log.passSummary
          (.passStarted project.rows.length e.rule.enabledChecks)

/-- **A visit makes no difference** between an evaluator and its variation. -/
theorem visit (hP : P e.config) (project : Project) (index : Nat) (row : Row) :
    Agree (fun e e' => e' = f.evaluator e ∧ P e.config) keep (e.visit project index row)
      ((f.evaluator e).visit project index row) := by
  have hcolumn : (f.evaluator e).scope.columnName = e.scope.columnName := h.columnName e.scope
  cases hp : e.pass with
  | none =>
    have hp' : (f.evaluator e).pass = none := hp
    rw [Evaluator.visit_closed hp, Evaluator.visit_closed hp']
    exact ⟨⟨rfl, hP⟩, rfl, rfl⟩
  | some p =>
    have hp' : (f.evaluator e).pass = some p := hp
    have hbound : (f.evaluator e).bound p index row = e.bound p index row := by
      rw [Evaluator.bound, hcolumn]
      rfl
    have hleft : (f.evaluator e).leftover p index row = e.leftover p index row := by
      rw [Evaluator.leftover, hcolumn]
      rfl
    cases hb : e.bound p index row with
    | error fault =>
      rw [Evaluator.visit_refused hp hb, Evaluator.visit_refused hp' (hbound.trans hb), hleft]
      exact ⟨⟨rfl, hP⟩, h.filter_eq e.config fun log =>
        Evaluator.reportIf log.skipped (.rowRefused index fault.message), rfl⟩
    | ok b =>
      obtain ⟨events, houtcome, hevents⟩ :=
        h.run (e.rowVisit project index row) e.scope e.rule.checks b hP
      replace houtcome : (f.evaluator e).outcome project index row b =
          { e.outcome project index row b with
            checks := f.checks (e.outcome project index row b).checks
            events := events } := houtcome
      have hcrash : ((f.evaluator e).outcome project index row b).crash =
          (e.outcome project index row b).crash := by rw [houtcome]
      cases hc : (e.outcome project index row b).crash with
      | some crash =>
        rw [Evaluator.visit_crashed hp hb hc,
          Evaluator.visit_crashed hp' (hbound.trans hb) (hcrash.trans hc), houtcome]
        exact ⟨⟨rfl, hP⟩, hevents, rfl⟩
      | none =>
        rw [Evaluator.visit_judged hp hb hc,
          Evaluator.visit_judged hp' (hbound.trans hb) (hcrash.trans hc), houtcome]
        refine ⟨⟨rfl, hP⟩, ?_, rfl⟩
        simp only [List.filter_append, hevents]
        exact congrArg _ (h.filter_eq e.config fun log => Evaluator.reportIf log.rowDetails _)

theorem finish (hP : P e.config) :
    Agree (fun e e' => e' = f.evaluator e ∧ P e.config) keep e.finish (f.evaluator e).finish := by
  rw [Evaluator.finish, Evaluator.finish]
  cases hp : e.pass with
  | none =>
    have hp' : (f.evaluator e).pass = none := hp
    rw [hp']
    exact ⟨⟨rfl, hP⟩, rfl, rfl⟩
  | some p =>
    have hp' : (f.evaluator e).pass = some p := hp
    rw [hp']
    exact ⟨⟨rfl, hP⟩, h.filter_eq e.config fun log => Evaluator.reportIf log.passSummary _, rfl⟩

/-- **An evaluator and its variation mirror each other.** -/
theorem mirrors : Mirrors (fun e e' => e' = f.evaluator e ∧ P e.config) keep Evaluator.visitor
    Evaluator.visitor where
  start := by
    rintro e _ ⟨rfl, hP⟩ project
    exact h.start hP project
  visit := by
    rintro e _ ⟨rfl, hP⟩ project index row
    exact h.visit hP project index row
  finish := by
    rintro e _ ⟨rfl, hP⟩ project
    exact h.finish hP

end Keeps

end Variation

/-- **Passes of a metric and of its variation end alike**, report alike as far
as it is looked at, and leave rules that are alike. -/
theorem Metric.evaluate_varied {f : Variation} {P : EvaluationConfig → Prop}
    {keep : Event → Bool} {m m' : Metric} (h : f.Keeps P keep)
    (hscope : m'.scope = f.scope m.scope) (hrule : m'.rule = f.rule m.rule) (project : Project)
    (tests : List RowTest) (binder : Binder) (config : EvaluationConfig) (hP : P config) :
    let o := m.evaluate project tests binder config
    let o' := m'.evaluate project tests binder (f.config config)
    (∃ rule, o.1 = m.withRule rule ∧ o'.1 = m'.withRule (f.rule rule)) ∧
      o'.2.1.filter keep = o.2.1.filter keep ∧ o'.2.2 = o.2.2 := by
  have hof : Evaluator.ofMetric m' binder (f.config config) =
      f.evaluator (Evaluator.ofMetric m binder config) := by
    rw [Evaluator.ofMetric, hscope, hrule]
    rfl
  obtain ⟨⟨hstate, -⟩, hevents, hresult⟩ := h.mirrors.traverse ⟨hof, hP⟩ tests project
  simp only [evaluate_eq]
  refine ⟨⟨_, rfl, by rw [hstate]; rfl⟩, hevents, ?_⟩
  rw [hresult, hstate]
  rfl

end DataQuality
