import DataQuality.Proofs.Pass.Counters
import DataQuality.Proofs.Pass.Variation
/-!
# Crashes — a caught crash is an error and nothing more

A metric is guarded by letting each of its expressions result in an error
where it would crash. Where crashes are caught, a pass of a metric and a
pass of the guarded metric go side by side, row by row: they report the same
events and end the same way (`Metric.evaluate_guarded`). A guarded expression
has nothing left to catch, so it does not matter whether the pass of the
guarded metric catches crashes. Guarding is a variation that makes no
difference to a row (`RowVisit.run_guarded`), and so none to a pass.
-/

namespace DataQuality

/-! ## Guarded metrics -/

/-- The expression that results in an error where this one crashes. -/
def Expression.guarded (e : Expression) : Expression where
  source := e.source
  evaluate b :=
    match e.evaluate b with
    | .ok value => .ok value
    | .error (.text message) => .ok (.error message)
    | .error .unknown => .ok (.error "evaluation panicked")

/-- The check with its expression guarded. -/
def Check.guarded (c : Check) : Check := { c with expression := c.expression.guarded }

/-- The call with its expression guarded. -/
def SpanningCall.guarded (c : SpanningCall) : SpanningCall :=
  { c with expression := c.expression.guarded }

/-- The scope with its call guarded. -/
def Scope.guarded (s : Scope) : Scope := { s with call := s.call.map SpanningCall.guarded }

/-- The rule with its checks guarded. -/
def Rule.guarded (r : Rule) : Rule := { r with checks := r.checks.map Check.guarded }

/-- The metric with all its expressions guarded. -/
def Metric.guarded : Metric → Metric
  | .column m => .column { m with rule := m.rule.guarded }
  | .spanning m =>
    .spanning { m with rule := m.rule.guarded, call := m.call.map SpanningCall.guarded }

/-- Guarding an expression does what catching its crashes does. -/
theorem Expression.evaluate_guarded (e : Expression) (b : Bindings) :
    e.guarded.evaluate b = .ok (caught (e.evaluate b)) := by
  cases h : e.evaluate b with
  | ok value => simp [guarded, h, caught]
  | error crash => cases crash <;> simp [guarded, h, caught, Crash.report, Crash.message?]

/-- A guarded rule has as many enabled checks. -/
@[simp] theorem Rule.enabledChecks_guarded (r : Rule) :
    r.guarded.enabledChecks = r.enabledChecks := by
  rw [enabledChecks, guarded, List.countP_map]
  rfl

namespace Metric

variable {m : Metric}

@[simp] theorem rule_guarded : m.guarded.rule = m.rule.guarded := by cases m <;> rfl

@[simp] theorem scope_guarded : m.guarded.scope = m.scope.guarded := by cases m <;> rfl

theorem guarded_withRule (rule : Rule) :
    (m.withRule rule).guarded = m.guarded.withRule rule.guarded := by
  cases m <;> rfl

end Metric

/-! ## One row -/

/-- The outcome with its checks guarded. -/
def RowOutcome.guarded (o : RowOutcome) : RowOutcome :=
  { o with checks := o.checks.map Check.guarded }

theorem RowOutcome.withValue_guarded (o : RowOutcome) (value : Value) (event : String → Event)
    (config : LogConfig) :
    o.guarded.withValue value event config = (o.withValue value event config).guarded := by
  cases value <;> rfl

namespace RowVisit

variable {v : RowVisit} {context : String} {checks : List Check} {b : Bindings} {scope : Scope}

/-- The row visited by a pass that catches crashes, or by one that does not. -/
def catching (catches : Bool) (v : RowVisit) : RowVisit :=
  { v with config := { v.config with catchesCrashes := catches } }

/-- **A guarded expression has the value that catching gives**, also where
crashes are not caught. -/
theorem evaluate_guarded (catches : Bool) (e : Expression) :
    (v.catching catches).evaluate e.guarded b = .ok (caught (e.evaluate b)) := by
  cases catches with
  | true =>
    rw [evaluate_of_catches rfl, e.evaluate_guarded]
    rfl
  | false => exact e.evaluate_guarded b

theorem runChecks_guarded (catches : Bool) (h : v.config.catchesCrashes = true) :
    (v.catching catches).runChecks context (checks.map Check.guarded) b =
      (v.runChecks context checks b).guarded := by
  induction checks generalizing b with
  | nil => rfl
  | cons check rest ih =>
    rw [List.map_cons]
    cases hd : check.disabled with
    | true =>
      have hd' : check.guarded.disabled = true := hd
      rw [runChecks_of_disabled hd, runChecks_of_disabled hd', ih]
      rfl
    | false =>
      -- A guarded check looks at the same column, so it is bound to the same
      -- bindings.
      have hd' : check.guarded.disabled = false := hd
      have hrebound : (v.catching catches).rebound context check.guarded b =
          v.rebound context check b := rfl
      rw [runChecks_of_value hd (evaluate_of_catches h _),
        runChecks_of_value hd' (evaluate_guarded catches _), hrebound, ih,
        RowOutcome.withValue_guarded]
      rfl

/-- **A guarded row has the outcome of the row**, but for the guards. -/
theorem run_guarded (catches : Bool) (h : v.config.catchesCrashes = true) :
    (v.catching catches).run scope.guarded (checks.map Check.guarded) b =
      (v.run scope checks b).guarded := by
  cases hc : scope.call with
  | none =>
    have hc' : scope.guarded.call = none := by rw [Scope.guarded, hc, Option.map_none]
    rw [run_of_no_call hc, run_of_no_call hc']
    exact runChecks_guarded catches h
  | some call =>
    have hc' : scope.guarded.call = some call.guarded := by
      rw [Scope.guarded, hc, Option.map_some]
    rw [run_of_call_value hc (evaluate_of_catches h _),
      run_of_call_value hc' (evaluate_guarded catches _), ← RowOutcome.withValue_guarded,
      ← runChecks_guarded catches h]
    rfl

end RowVisit

/-! ## A pass -/

/-- The pass of a guarded metric, which catches crashes or does not. -/
def Variation.guarding (catches : Bool) : Variation where
  config c := { c with catchesCrashes := catches }
  scope := Scope.guarded
  checks := List.map Check.guarded

/-- **Guards make no difference where crashes are caught.** -/
theorem Variation.guarding_keeps (catches : Bool) :
    (guarding catches).Keeps (fun c => c.catchesCrashes = true) (fun _ => true) where
  columnName _ := rfl
  enabledChecks := Rule.enabledChecks_guarded
  log _ _ := rfl
  run v scope checks b h :=
    ⟨(v.run scope checks b).events, RowVisit.run_guarded catches h, rfl⟩

namespace Metric

variable {metric : Metric} {project : Project} {tests : List RowTest} {binder : Binder}
variable {config : EvaluationConfig}

/-- A pass of a guarded metric is that of the metric, but for the guards. -/
theorem evaluate_guarded (catches : Bool) (h : config.catchesCrashes = true) :
    metric.guarded.evaluate project tests binder { config with catchesCrashes := catches } =
      ((metric.evaluate project tests binder config).1.guarded,
        (metric.evaluate project tests binder config).2) := by
  obtain ⟨⟨rule, hleft, hleft'⟩, hevents, hending⟩ := evaluate_varied
    (Variation.guarding_keeps catches) scope_guarded rule_guarded project tests binder config h
  refine Prod.ext ?_ (Prod.ext ?_ hending)
  · rw [hleft, guarded_withRule]
    exact hleft'
  · rw [List.filter_true, List.filter_true] at hevents
    exact hevents

/-- **Crashes count as errors.** Where crashes are caught, a pass of a
metric goes as the pass of the guarded metric, whose expressions result in
an error with the text of the crash where those of the metric crash, and
which never crashes by itself, whether or not that pass catches crashes: it
reports the same events, ends the same way with the same counters, and
leaves the same dirty rows and measure. No crash of a check or of a call
ends the pass: it returns, with every accepted row visited and an account
of each enabled check and of the call for each judged row, unless a test of
rows crashes. -/
theorem crashes_count_as_errors (metric : Metric) (project : Project) (tests : List RowTest)
    (binder : Binder) (config : EvaluationConfig) (catches : Bool)
    (h : config.catchesCrashes = true) :
    ∃ metric' events ending,
      metric.evaluate project tests binder config = (metric', events, ending) ∧
      metric.guarded.evaluate project tests binder { config with catchesCrashes := catches } =
        (metric'.guarded, events, ending) ∧
      metric'.guarded.rule.dirty = metric'.rule.dirty ∧
      metric'.guarded.rule.measure = metric'.rule.measure ∧
      ((∃ stats, ending = .returned stats ∧
        metric.Completes project tests (metric.found project tests binder config) metric' stats) ∨
      ∃ crash, ending = .crashed crash ∧ ∃ i row, project.rows[i]? = some row ∧
        ∃ test ∈ tests, (test project i row).2 = .error crash) := by
  have hguarded : metric.guarded.evaluate project tests binder
      { config with catchesCrashes := catches } = _ := evaluate_guarded catches h
  rcases returns_or_test_crashes metric binder h with
    ⟨metric', events, stats, hreturned, hcompletes⟩ |
    ⟨metric', events, crash, hcrashed, htest⟩
  · rw [hreturned] at hguarded
    exact ⟨metric', events, _, hreturned, hguarded, by rw [rule_guarded]; rfl,
      by rw [rule_guarded]; rfl, .inl ⟨stats, rfl, hcompletes⟩⟩
  · rw [hcrashed] at hguarded
    exact ⟨metric', events, _, hcrashed, hguarded, by rw [rule_guarded]; rfl,
      by rw [rule_guarded]; rfl, .inr ⟨crash, rfl, htest⟩⟩

end Metric

namespace Flags

/-- The value of the bound cell, which must be there. -/
def required : Expression where
  source := "required"
  evaluate b :=
    match b.cell with
    | some cell => .ok cell.value
    | none => .error (.text "no cell")

/-- A call that crashes on every row, without a text. -/
def broken : SpanningCall where
  function := "broken"
  params := []
  expression := ⟨"broken()", fun _ => .error .unknown⟩

/-- Both flags must be there and set, and the broken call is made first. -/
def strict : SpanningMetric where
  rule :=
    { name := "strict"
      description := none
      checks := [⟨required, some "seen", false, none, none⟩, ⟨required, none, false, none, none⟩]
      combination := .all }
  columns := ["raised", "seen"]
  call := some broken

/-- The call crashes on all three rows and a check on the short one. These
four are left out, the results beside them count, and a pass that catches no
crash goes the same way once the metric is guarded. -/
theorem strict_pass : ∃ metric' events,
    (Metric.spanning strict).evaluate project [notLast] Binder.plain .standard =
        (metric', events, .returned ⟨3, 3, 0, 4, 2⟩) ∧
      (Metric.spanning strict).guarded.evaluate project [notLast] Binder.plain
          { EvaluationConfig.standard with catchesCrashes := false } =
        (metric'.guarded, events, .returned ⟨3, 3, 0, 4, 2⟩) ∧
      metric'.rule.dirty.entries = [(0, [false, true]), (1, [true, false])] := by
  have hcatch : EvaluationConfig.standard.catchesCrashes = true := rfl
  obtain ⟨metric', events, ending, hplain, hguarded, -, -, hending⟩ :=
    Metric.crashes_count_as_errors (.spanning strict) project [notLast] Binder.plain .standard
      false hcatch
  rcases hending with ⟨stats, rfl, hcompletes⟩ | ⟨crash, rfl, i, row, -, test, htest, hcrash⟩
  · obtain rfl : stats = ⟨3, 3, 0, 4, 2⟩ := hcompletes.stats
    refine ⟨metric', events, hplain, hguarded, ?_⟩
    rw [hcompletes.dirty]
    rfl
  · rw [List.mem_singleton.mp htest] at hcrash
    cases hcrash

end Flags

end DataQuality
