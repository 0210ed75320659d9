import DataQuality.Pass.Row
/-!
# One row of a pass — what the evaluation of its checks comes to

A row that no check crashes on has one result or one exclusion for the call
of the scope and for each enabled check (`length_results_add_excluded`),
and leaves each enabled check with the column it keeps
(`checks_of_crash_eq_none`). Which columns the checks kept before does not
matter beyond the columns they look at (`run_settled`). Where crashes are
caught no row crashes.
-/

namespace DataQuality

/-- The truth value of a value that counts as a result. -/
def Value.truth? : Value → Option Bool
  | .bool b => some b
  | _ => none

/-- Under these bindings an expression has a value: crashes are caught, or
it does not crash. -/
def Expression.Answers (config : EvaluationConfig) (b : Bindings) (e : Expression) : Prop :=
  config.catchesCrashes = true ∨ ∃ value, e.evaluate b = .ok value

/-! ## Checks that keep a column -/

namespace Check

variable {c : Check} {context : String}

/-- The check after a row of a metric with this column: an enabled check
keeps a column, a disabled one is passed by. -/
def settled (context : String) (c : Check) : Check :=
  if c.disabled then c else c.keeping context

/-- The check without the column it keeps. -/
def unkept (c : Check) : Check := { c with kept := none }

theorem settled_of_disabled (h : c.disabled = true) : c.settled context = c := if_pos h

theorem settled_of_enabled (h : c.disabled = false) : c.settled context = c.keeping context :=
  if_neg (by rw [h]; exact Bool.false_ne_true)

/-- Keeping a column does not change the column that is looked at. -/
@[simp] theorem columnIn_keeping : (c.keeping context).columnIn context = c.columnIn context := by
  cases hc : c.column <;> simp [columnIn, keeping, hc]

@[simp] theorem keeping_keeping : (c.keeping context).keeping context = c.keeping context := by
  cases hc : c.column <;> simp [keeping, hc]

@[simp] theorem disabled_settled : (c.settled context).disabled = c.disabled := by
  rw [settled]
  split <;> rfl

/-- **A check settles once.** -/
@[simp] theorem settled_settled : (c.settled context).settled context = c.settled context := by
  cases hd : c.disabled with
  | true => rw [settled_of_disabled hd, settled_of_disabled hd]
  | false =>
    rw [settled_of_enabled hd, settled_of_enabled (by exact hd), keeping_keeping]

@[simp] theorem unkept_settled : (c.settled context).unkept = c.unkept := by
  rw [settled]
  split <;> rfl

/-- Settling all checks again changes none. -/
theorem map_settled_settled (checks : List Check) :
    (checks.map (settled context)).map (settled context) = checks.map (settled context) := by
  simp [Function.comp_def]

end Check

/-! ## Outcomes -/

namespace RowOutcome

variable {o : RowOutcome} {check : Check} {value : Value} {event : String → Event}
variable {config : LogConfig}

@[simp] theorem withCheck_checks : (o.withCheck check).checks = check :: o.checks := rfl
@[simp] theorem withCheck_bindings : (o.withCheck check).bindings = o.bindings := rfl
@[simp] theorem withCheck_results : (o.withCheck check).results = o.results := rfl
@[simp] theorem withCheck_excluded : (o.withCheck check).excluded = o.excluded := rfl
@[simp] theorem withCheck_crash : (o.withCheck check).crash = o.crash := rfl

@[simp] theorem withValue_checks : (o.withValue value event config).checks = o.checks := by
  cases value <;> rfl

@[simp] theorem withValue_bindings : (o.withValue value event config).bindings = o.bindings := by
  cases value <;> rfl

@[simp] theorem withValue_crash : (o.withValue value event config).crash = o.crash := by
  cases value <;> rfl

/-- Only a truth value is a result. -/
@[simp] theorem withValue_results :
    (o.withValue value event config).results = value.truth?.toList ++ o.results := by
  cases value <;> rfl

/-- What is no truth value is left out. -/
@[simp] theorem withValue_excluded :
    (o.withValue value event config).excluded =
      o.excluded + if value.truth?.isNone then 1 else 0 := by
  cases value <;> rfl

/-- What is left out is reported if rows are detailed. -/
@[simp] theorem withValue_events :
    (o.withValue value event config).events =
      (if value.truth?.isNone && config.rowDetails then
        [event (Text.truncate config.maxFieldLength value.text)] else []) ++ o.events := by
  cases value <;> rfl

/-- **A value is a result or it is excluded.** -/
theorem withValue_account :
    (o.withValue value event config).results.length + (o.withValue value event config).excluded =
      o.results.length + o.excluded + 1 := by
  cases value <;> simp only [withValue, List.length_cons] <;> omega

end RowOutcome

/-! ## Checks in order -/

namespace RowVisit

variable {v : RowVisit} {context : String} {check : Check} {rest checks : List Check}
variable {b : Bindings} {scope : Scope}

/-- The bindings that a check is evaluated under. -/
def rebound (v : RowVisit) (context : String) (check : Check) (b : Bindings) : Bindings :=
  v.binder.rebind b (check.columnIn context) (v.project.cell? v.row (check.columnIn context))

theorem runChecks_of_disabled (h : check.disabled = true) :
    v.runChecks context (check :: rest) b = (v.runChecks context rest b).withCheck check := by
  rw [runChecks, if_pos h]

theorem runChecks_of_crash {crash : Crash} (h : check.disabled = false)
    (hv : v.evaluate check.expression (v.rebound context check b) = .error crash) :
    v.runChecks context (check :: rest) b =
      ⟨check.keeping context :: rest, v.rebound context check b, [], 0, [], some crash⟩ := by
  rw [runChecks, h, if_neg Bool.false_ne_true]
  simp only [rebound] at hv ⊢
  rw [hv]

theorem runChecks_of_value {value : Value} (h : check.disabled = false)
    (hv : v.evaluate check.expression (v.rebound context check b) = .ok value) :
    v.runChecks context (check :: rest) b =
      ((v.runChecks context rest (v.rebound context check b)).withValue value
        (.checkExcluded v.index check.expression.source) v.config.log).withCheck
          (check.keeping context) := by
  rw [runChecks, h, if_neg Bool.false_ne_true]
  simp only [rebound] at hv ⊢
  rw [hv]

/-- **An evaluation that answers has a value**: its own, or what its crash
counts as. -/
theorem evaluate_of_answers {e : Expression} (h : e.Answers v.config b) :
    v.evaluate e b = .ok (caught (e.evaluate b)) := by
  rw [evaluate]
  cases hcatch : v.config.catchesCrashes with
  | true => rfl
  | false =>
    rcases h with h | ⟨value, hvalue⟩
    · rw [hcatch] at h
      cases h
    · rw [hvalue]
      rfl

/-- Where crashes are caught every evaluation has a value. -/
theorem evaluate_of_catches (h : v.config.catchesCrashes = true) (e : Expression) :
    v.evaluate e b = .ok (caught (e.evaluate b)) :=
  evaluate_of_answers (.inl h)

theorem runChecks_crash_of_catches (h : v.config.catchesCrashes = true) :
    (v.runChecks context checks b).crash = none := by
  induction checks generalizing b with
  | nil => rfl
  | cons check rest ih =>
    cases hd : check.disabled with
    | true => rw [runChecks_of_disabled hd, RowOutcome.withCheck_crash, ih]
    | false =>
      rw [runChecks_of_value hd (evaluate_of_catches h _), RowOutcome.withCheck_crash,
        RowOutcome.withValue_crash, ih]

/-- Each enabled check that is reached has a result or an exclusion. -/
theorem runChecks_account (h : (v.runChecks context checks b).crash = none) :
    (v.runChecks context checks b).results.length + (v.runChecks context checks b).excluded =
      checks.countP (!·.disabled) := by
  induction checks generalizing b with
  | nil => rfl
  | cons check rest ih =>
    cases hd : check.disabled with
    | true =>
      rw [runChecks_of_disabled hd] at h ⊢
      simpa [hd] using ih h
    | false =>
      cases hv : v.evaluate check.expression (v.rebound context check b) with
      | error crash =>
        rw [runChecks_of_crash hd hv] at h
        cases h
      | ok value =>
        rw [runChecks_of_value hd hv] at h ⊢
        simp only [RowOutcome.withCheck_crash, RowOutcome.withValue_crash] at h
        rw [RowOutcome.withCheck_results, RowOutcome.withCheck_excluded,
          RowOutcome.withValue_account, ih h, List.countP_cons]
        simp [hd]

/-- A row that is evaluated to its end settles the checks. -/
theorem runChecks_checks (h : (v.runChecks context checks b).crash = none) :
    (v.runChecks context checks b).checks = checks.map (Check.settled context) := by
  induction checks generalizing b with
  | nil => rfl
  | cons check rest ih =>
    rw [List.map_cons]
    cases hd : check.disabled with
    | true =>
      rw [runChecks_of_disabled hd] at h ⊢
      rw [RowOutcome.withCheck_checks, ih h, Check.settled_of_disabled hd]
    | false =>
      cases hv : v.evaluate check.expression (v.rebound context check b) with
      | error crash =>
        rw [runChecks_of_crash hd hv] at h
        cases h
      | ok value =>
        rw [runChecks_of_value hd hv] at h ⊢
        simp only [RowOutcome.withCheck_crash, RowOutcome.withValue_crash] at h
        rw [RowOutcome.withCheck_checks, RowOutcome.withValue_checks, ih h,
          Check.settled_of_enabled hd]

/-- However a row ends, its checks are the same but for what they keep. -/
theorem runChecks_unkept :
    (v.runChecks context checks b).checks.map Check.unkept = checks.map Check.unkept := by
  induction checks generalizing b with
  | nil => rfl
  | cons check rest ih =>
    cases hd : check.disabled with
    | true =>
      rw [runChecks_of_disabled hd, RowOutcome.withCheck_checks, List.map_cons, ih, List.map_cons]
    | false =>
      cases hv : v.evaluate check.expression (v.rebound context check b) with
      | error crash =>
        rw [runChecks_of_crash hd hv]
        rfl
      | ok value =>
        rw [runChecks_of_value hd hv, RowOutcome.withCheck_checks, RowOutcome.withValue_checks,
          List.map_cons, ih]
        rfl

/-- **What checks kept before does not show.** Settled checks are evaluated
as they were before they settled, and stay settled. -/
theorem runChecks_settled :
    v.runChecks context (checks.map (Check.settled context)) b =
      { v.runChecks context checks b with checks := checks.map (Check.settled context) } := by
  induction checks generalizing b with
  | nil => rfl
  | cons check rest ih =>
    rw [List.map_cons]
    cases hd : check.disabled with
    | true =>
      rw [Check.settled_of_disabled hd, runChecks_of_disabled hd, runChecks_of_disabled hd, ih]
      rfl
    | false =>
      -- The settled check looks at the same column, so it is bound to the same
      -- bindings and has the same value.
      have hd' : (check.keeping context).disabled = false := hd
      have hrebound : v.rebound context (check.keeping context) b = v.rebound context check b := by
        rw [rebound, Check.columnIn_keeping, rebound]
      have hexpr : (check.keeping context).expression = check.expression := rfl
      rw [Check.settled_of_enabled hd]
      cases hv : v.evaluate check.expression (v.rebound context check b) with
      | error crash =>
        rw [runChecks_of_crash hd hv,
          runChecks_of_crash hd' (by rw [hexpr, hrebound]; exact hv), hrebound,
          Check.keeping_keeping]
      | ok value =>
        rw [runChecks_of_value hd hv,
          runChecks_of_value hd' (by rw [hexpr, hrebound]; exact hv), hrebound, hexpr, ih,
          Check.keeping_keeping]
        cases value <;> rfl

/-! ## The call, and then the checks -/

theorem run_of_no_call (h : scope.call = none) :
    v.run scope checks b = v.runChecks scope.columnName checks b := by
  rw [run, h]

theorem run_of_call_crash {call : SpanningCall} {crash : Crash} (h : scope.call = some call)
    (hv : v.evaluate call.expression b = .error crash) :
    v.run scope checks b = ⟨checks, b, [], 0, [], some crash⟩ := by
  rw [run, h]
  simp only [hv]

theorem run_of_call_value {call : SpanningCall} {value : Value} (h : scope.call = some call)
    (hv : v.evaluate call.expression b = .ok value) :
    v.run scope checks b =
      (v.runChecks scope.columnName checks b).withValue value
        (.callExcluded v.index call.function) v.config.log := by
  rw [run, h]
  simp only [hv]

theorem crash_of_catches (h : v.config.catchesCrashes = true) :
    (v.run scope checks b).crash = none := by
  cases hc : scope.call with
  | none => rw [run_of_no_call hc, runChecks_crash_of_catches h]
  | some call =>
    rw [run_of_call_value hc (evaluate_of_catches h _), RowOutcome.withValue_crash,
      runChecks_crash_of_catches h]

/-- **The account of a row**: the call, if there is one, and each enabled
check have a result or an exclusion. -/
theorem length_results_add_excluded (h : (v.run scope checks b).crash = none) :
    (v.run scope checks b).results.length + (v.run scope checks b).excluded =
      checks.countP (!·.disabled) + if scope.call.isSome then 1 else 0 := by
  cases hc : scope.call with
  | none =>
    rw [run_of_no_call hc] at h ⊢
    simpa using runChecks_account h
  | some call =>
    cases hv : v.evaluate call.expression b with
    | error crash =>
      rw [run_of_call_crash hc hv] at h
      cases h
    | ok value =>
      rw [run_of_call_value hc hv] at h ⊢
      rw [RowOutcome.withValue_crash] at h
      rw [RowOutcome.withValue_account, runChecks_account h]
      rfl

theorem checks_of_crash_eq_none (h : (v.run scope checks b).crash = none) :
    (v.run scope checks b).checks = checks.map (Check.settled scope.columnName) := by
  cases hc : scope.call with
  | none =>
    rw [run_of_no_call hc] at h ⊢
    exact runChecks_checks h
  | some call =>
    cases hv : v.evaluate call.expression b with
    | error crash =>
      rw [run_of_call_crash hc hv] at h
      cases h
    | ok value =>
      rw [run_of_call_value hc hv] at h ⊢
      rw [RowOutcome.withValue_crash] at h
      rw [RowOutcome.withValue_checks, runChecks_checks h]

theorem run_unkept :
    (v.run scope checks b).checks.map Check.unkept = checks.map Check.unkept := by
  cases hc : scope.call with
  | none => rw [run_of_no_call hc, runChecks_unkept]
  | some call =>
    cases hv : v.evaluate call.expression b with
    | error crash => rw [run_of_call_crash hc hv]
    | ok value => rw [run_of_call_value hc hv, RowOutcome.withValue_checks, runChecks_unkept]

theorem run_settled :
    v.run scope (checks.map (Check.settled scope.columnName)) b =
      { v.run scope checks b with checks := checks.map (Check.settled scope.columnName) } := by
  cases hc : scope.call with
  | none => rw [run_of_no_call hc, run_of_no_call hc, runChecks_settled]
  | some call =>
    cases hv : v.evaluate call.expression b with
    | error crash => rw [run_of_call_crash hc hv, run_of_call_crash hc hv]
    | ok value =>
      rw [run_of_call_value hc hv, run_of_call_value hc hv, runChecks_settled]
      cases value <;> rfl

/-- **Checks that settle alike have one outcome**, but for what they keep. -/
theorem run_of_settled_eq {checks' : List Check}
    (h : checks'.map (Check.settled scope.columnName) =
      checks.map (Check.settled scope.columnName)) :
    v.run scope checks' b =
      { v.run scope checks b with checks := (v.run scope checks' b).checks } := by
  have hsettled : v.run scope (checks.map (Check.settled scope.columnName)) b = _ := run_settled
  rw [← h, run_settled, h] at hsettled
  generalize v.run scope checks' b = o' at hsettled ⊢
  generalize v.run scope checks b = o at hsettled ⊢
  cases o'
  cases o
  obtain ⟨-, rfl, rfl, rfl, rfl, rfl⟩ := RowOutcome.mk.inj hsettled
  rfl

end RowVisit

end DataQuality
