import DataQuality.Proofs.Pass.Traversal
/-!
# Repetition — a pass over what passes left

A pass reads the checks of a metric but not what earlier passes published,
and of the columns that checks keep it reads only where they look. So a
pass over a metric that has been evaluated finds what the first pass found
(`found_afterPass`), and leaves the metric as it is (`evaluated_evaluated`).
-/

namespace DataQuality

open Visitor (visits)

namespace Evaluator

variable {e e' : Evaluator} {p : Pass} {f : Finding} {project : Project} {index : Nat}
variable {row : Row} {rows : List (Row × Nat)}

/-- Two evaluators in the same pass whose checks look at the same columns.
What they have published may differ. -/
structure Alike (e e' : Evaluator) : Prop where
  binder : e'.binder = e.binder
  config : e'.config = e.config
  scope : e'.scope = e.scope
  pass : e'.pass = e.pass
  combination : e'.rule.combination = e.rule.combination
  checks : e'.rule.checks.map (Check.settled e.scope.columnName) =
    e.rule.checks.map (Check.settled e.scope.columnName)

/-- Findings settle checks, and settled checks settle no further. -/
theorem map_settled_checksAfter (e : Evaluator) (fs : List Finding) :
    (e.checksAfter fs).map (Check.settled e.scope.columnName) =
      e.rule.checks.map (Check.settled e.scope.columnName) := by
  rw [checksAfter]
  split
  · exact Check.map_settled_settled _
  · rfl

namespace Alike

variable (h : e.Alike e')
include h

theorem bound_eq : e'.bound p index row = e.bound p index row := by
  rw [bound, bound, h.binder, h.scope]

theorem leftover_eq : e'.leftover p index row = e.leftover p index row := by
  rw [leftover, leftover, h.binder, h.scope]

/-- **A bound row has one outcome**, but for what the checks keep. -/
theorem outcome_eq (project : Project) (index : Nat) (row : Row) (b : Bindings) :
    e'.outcome project index row b =
      { e.outcome project index row b with
        checks := (e'.outcome project index row b).checks } := by
  have hvisit : e'.rowVisit project index row = e.rowVisit project index row := by
    rw [rowVisit, rowVisit, h.binder, h.config]
  rw [outcome, outcome, hvisit, h.scope]
  exact RowVisit.run_of_settled_eq h.checks

theorem withFinding (f : Finding) (p : Pass) : (e.withFinding f p).Alike (e'.withFinding f p) where
  binder := h.binder
  config := h.config
  scope := h.scope
  pass := rfl
  combination := h.combination
  checks := by
    change (e'.checksAfter [f]).map (Check.settled e.scope.columnName) =
      (e.checksAfter [f]).map (Check.settled e.scope.columnName)
    have hafter := map_settled_checksAfter e' [f]
    rw [h.scope, h.checks] at hafter
    rw [hafter, map_settled_checksAfter]

/-- **A row is found to be the same by both**, and they stay alike. -/
theorem step_visit (hcatch : e.config.catchesCrashes = true) (project : Project) (index : Nat)
    (row : Row) :
    e'.finding? (.visit project index row) = e.finding? (.visit project index row) ∧
      (visitor.step e (.visit project index row)).1.Alike
        (visitor.step e' (.visit project index row)).1 := by
  cases hp : e.pass with
  | none =>
    have hp' : e'.pass = none := h.pass.trans hp
    rw [step_visit_closed hp, step_visit_closed hp', finding?, finding?, hp, hp']
    exact ⟨rfl, h⟩
  | some p =>
    have hp' : e'.pass = some p := h.pass.trans hp
    cases hb : e.bound p index row with
    | error fault =>
      have hb' : e'.bound p index row = .error fault := h.bound_eq.trans hb
      rw [step_visit_refused hp hb, step_visit_refused hp' hb', h.leftover_eq]
      exact ⟨by simp [finding?, hp, hp', hb, hb'], h.withFinding _ _⟩
    | ok b =>
      have hb' : e'.bound p index row = .ok b := h.bound_eq.trans hb
      have hc : (e.outcome project index row b).crash = none := RowVisit.crash_of_catches hcatch
      have houtcome := h.outcome_eq project index row b
      have hc' : (e'.outcome project index row b).crash = none := by
        rw [houtcome]
        exact hc
      have hjudgement : e'.judgement project index row b = e.judgement project index row b := by
        rw [judgement, houtcome]
        rfl
      rw [step_visit_judged hp hb hc, step_visit_judged hp' hb' hc', finding?_judged hp hb hc,
        finding?_judged hp' hb' hc', hjudgement, h.combination, houtcome]
      exact ⟨rfl, h.withFinding _ _⟩

theorem findings_visits (hcatch : e.config.catchesCrashes = true) :
    e'.findings (visits project rows) = e.findings (visits project rows) := by
  -- Being alike is the invariant: no visit tells the two apart.
  induction rows generalizing e e' with
  | nil => rfl
  | cons r rest ih =>
    obtain ⟨hfinding, hnext⟩ := h.step_visit hcatch project r.2 r.1
    have hcatch' : (visitor.step e (.visit project r.2 r.1)).1.config.catchesCrashes = true := by
      rw [(step_sameSetup e _).config]
      exact hcatch
    have hrest := ih hnext hcatch'
    change (e'.finding? (.visit project r.2 r.1)).toList ++
        (visitor.step e' (.visit project r.2 r.1)).1.findings (visits project rest) =
      (e.finding? (.visit project r.2 r.1)).toList ++
        (visitor.step e (.visit project r.2 r.1)).1.findings (visits project rest)
    rw [hfinding, hrest]

end Alike

end Evaluator

namespace Metric

variable {m m' : Metric} {project : Project} {tests : List RowTest} {binder : Binder}
variable {config : EvaluationConfig} {rule rule' : Rule} {fs : List Finding}

/-- The metric as it is before any pass published. -/
def unpublished (m : Metric) : Metric :=
  m.withRule { m.rule with dirty := OrderedMap.empty, measure := none }

/-- What no pass changes of a metric: all but what is published and the
columns that checks keep. -/
def setup (m : Metric) : Metric :=
  m.withRule
    { m.rule with
      checks := m.rule.checks.map Check.unkept
      dirty := OrderedMap.empty
      measure := none }

/-- What a pass finds depends on the scope, the combination and the columns
that the checks look at. -/
theorem found_congr (hcatch : config.catchesCrashes = true) (hscope : m'.scope = m.scope)
    (hcombination : m'.rule.combination = m.rule.combination)
    (hchecks : m'.rule.checks.map (Check.settled m.scope.columnName) =
      m.rule.checks.map (Check.settled m.scope.columnName)) :
    m'.found project tests binder config = m.found project tests binder config := by
  have hpass : ((Evaluator.ofMetric m' binder config).start project).pass =
      ((Evaluator.ofMetric m binder config).start project).pass := by
    simp only [Evaluator.start, Evaluator.ofMetric, Evaluator.contextIndex, hscope]
  have halike : ((Evaluator.ofMetric m binder config).start project).Alike
      ((Evaluator.ofMetric m' binder config).start project) :=
    ⟨rfl, rfl, hscope, hpass, hcombination, hchecks⟩
  exact halike.findings_visits hcatch

/-- The metric after a pass. -/
def evaluated (m : Metric) (project : Project) (tests : List RowTest) (binder : Binder)
    (config : EvaluationConfig) : Metric :=
  m.afterPass (m.found project tests binder config)

/-- The counters of a pass. -/
def counters (m : Metric) (project : Project) (tests : List RowTest) (binder : Binder)
    (config : EvaluationConfig) : PassStats :=
  Finding.stats m.rule.combination (m.found project tests binder config)

theorem withRule_rule_afterPass (m : Metric) (fs : List Finding) :
    m.withRule (m.afterPass fs).rule = m.afterPass fs := by
  rw [afterPass, rule_withRule]

/-- A pass changes nothing of the setup. -/
theorem setup_afterPass (m : Metric) (fs : List Finding) : (m.afterPass fs).setup = m.setup := by
  rw [afterPass, setup, setup, rule_withRule, withRule_withRule]
  split
  · simp [Function.comp_def]
  · rfl

/-! ## What was published before -/

theorem afterPass_unpublished (m : Metric) (fs : List Finding) :
    m.unpublished.afterPass fs = m.afterPass fs := by
  simp only [afterPass, unpublished, rule_withRule, scope_withRule, withRule_withRule]

theorem found_unpublished (hcatch : config.catchesCrashes = true) :
    m.unpublished.found project tests binder config = m.found project tests binder config := by
  have hrule : m.unpublished.rule = { m.rule with dirty := OrderedMap.empty, measure := none } :=
    rule_withRule m _
  refine found_congr hcatch (scope_withRule m _) ?_ ?_
  · rw [hrule]
  · rw [hrule]

/-- **Earlier results do not show**: metrics that are the same but for what
they have published are the same after a pass, with the same counters. -/
theorem evaluated_of_unpublished (hcatch : config.catchesCrashes = true)
    (h : m'.unpublished = m.unpublished) :
    m'.evaluated project tests binder config = m.evaluated project tests binder config ∧
      m'.counters project tests binder config = m.counters project tests binder config := by
  have hfound : m'.found project tests binder config = m.found project tests binder config := by
    rw [← found_unpublished hcatch, h, found_unpublished hcatch]
  have hcombination : m'.rule.combination = m.rule.combination := by
    have hrule := congrArg (fun m : Metric => m.rule.combination) h
    simp only [unpublished, rule_withRule] at hrule
    exact hrule
  constructor
  · rw [evaluated, evaluated, hfound, ← afterPass_unpublished, h, afterPass_unpublished]
  · rw [counters, counters, hfound, hcombination]

/-! ## A pass again -/

theorem combination_afterPass (m : Metric) (fs : List Finding) :
    (m.afterPass fs).rule.combination = m.rule.combination := by
  rw [afterPass, rule_withRule]

/-- **A pass over an evaluated metric finds what the first pass found.** -/
theorem found_afterPass (hcatch : config.catchesCrashes = true) (fs : List Finding) :
    (m.afterPass fs).found project tests binder config = m.found project tests binder config := by
  refine found_congr hcatch (scope_withRule m _) (combination_afterPass m fs) ?_
  rw [afterPass, rule_withRule]
  split
  · exact Check.map_settled_settled _
  · rfl

/-- The same findings publish the same once more. -/
theorem afterPass_afterPass (m : Metric) (fs : List Finding) :
    (m.afterPass fs).afterPass fs = m.afterPass fs := by
  simp only [afterPass, rule_withRule, scope_withRule, withRule_withRule]
  split
  · rw [Check.map_settled_settled]
  · rfl

/-- **A pass leaves an evaluated metric as it is**, and counts the same. -/
theorem evaluated_evaluated (hcatch : config.catchesCrashes = true) :
    (m.evaluated project tests binder config).evaluated project tests binder config =
        m.evaluated project tests binder config ∧
      (m.evaluated project tests binder config).counters project tests binder config =
        m.counters project tests binder config := by
  have hfound : (m.evaluated project tests binder config).found project tests binder config =
      m.found project tests binder config := found_afterPass hcatch _
  constructor
  · rw [evaluated, hfound, evaluated, afterPass_afterPass]
  · rw [counters, counters, hfound, evaluated, combination_afterPass]

end Metric

end DataQuality
