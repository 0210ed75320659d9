import DataQuality.Proofs.Pass.Counters
/-!
# Origins — where a check without a column looks

A check that has no column of its own keeps the first column of a metric that
it is evaluated with, and takes it along wherever it goes. What a check has
been through is told without what it keeps (`Check.Origin`): the first metric
that evaluated it gives it its origin, and calls that do not come to evaluate
it give it none. What a check keeps is its origin (`Check.origin_iff`), and
so it looks at the column of its own metric just when it was evaluated by no
other metric before, or first by one with the same column
(`Metric.untargeted_looks_at_origin`).
-/

namespace DataQuality

/-- One evaluation of a check. -/
structure Evaluation where
  /-- The place of the check among the checks of its metric. -/
  place : Nat
  check : Check
  /-- The bindings that its expression is evaluated under. -/
  bindings : Bindings

/-- A check after some evaluations in a metric with this column: one that is
evaluated keeps a column. -/
def Check.after (context : String) (as : List Evaluation) (place : Nat) (c : Check) : Check :=
  if as.any (·.place == place) then c.keeping context else c

namespace Check

variable {context : String} {as bs : List Evaluation} {a : Evaluation} {place : Nat} {c : Check}

theorem after_of_mem (h : a ∈ as) : c.after context as a.place = c.keeping context :=
  if_pos (List.any_eq_true.mpr ⟨a, h, beq_self_eq_true a.place⟩)

theorem after_of_forall_ne (h : ∀ a ∈ as, a.place ≠ place) : c.after context as place = c := by
  refine if_neg fun hany => ?_
  obtain ⟨a, ha, hplace⟩ := List.any_eq_true.mp hany
  exact h a ha (beq_iff_eq.mp hplace)

/-- An evaluation of another check does not matter. -/
theorem after_cons_of_ne (h : a.place ≠ place) :
    c.after context (a :: as) place = c.after context as place := by
  rw [after, after, List.any_cons, beq_eq_false_iff_ne.mpr h, Bool.false_or]

/-- **A column is kept once**: evaluations after others add nothing to them. -/
theorem after_append :
    c.after context (as ++ bs) place = (c.after context as place).after context bs place := by
  rw [after, after, after, List.any_append]
  cases as.any (·.place == place) <;> cases bs.any (·.place == place) <;> simp

theorem columnIn_after :
    (c.after context as place).columnIn context = c.columnIn context := by
  rw [after]
  split
  · exact columnIn_keeping
  · rfl

theorem disabled_after : (c.after context as place).disabled = c.disabled := by
  rw [after]
  split <;> rfl

theorem expression_after : (c.after context as place).expression = c.expression := by
  rw [after]
  split <;> rfl

end Check

/-! ## The evaluations of a row -/

namespace RowVisit

variable {v : RowVisit} {context : String} {check : Check} {rest checks : List Check}
variable {b : Bindings} {scope : Scope} {place : Nat}

/-- The evaluations of checks in order, the first of which stands at `place`.
After a crash that is not caught there is none. -/
def evaluationsFrom (v : RowVisit) (context : String) :
    Nat → List Check → Bindings → List Evaluation
  | _, [], _ => []
  | place, check :: rest, b =>
    if check.disabled then v.evaluationsFrom context (place + 1) rest b
    else
      ⟨place, check, v.rebound context check b⟩ ::
        match v.evaluate check.expression (v.rebound context check b) with
        | .error _ => []
        | .ok _ => v.evaluationsFrom context (place + 1) rest (v.rebound context check b)

/-- The evaluations of the checks of a bound row. There is none if the call of
the scope crashes. -/
def evaluations (v : RowVisit) (scope : Scope) (checks : List Check) (b : Bindings) :
    List Evaluation :=
  match scope.call.map fun call => v.evaluate call.expression b with
  | some (.error _) => []
  | _ => v.evaluationsFrom scope.columnName 0 checks b

theorem evaluationsFrom_of_disabled (h : check.disabled = true) :
    v.evaluationsFrom context place (check :: rest) b =
      v.evaluationsFrom context (place + 1) rest b := by
  rw [evaluationsFrom, if_pos h]

theorem evaluationsFrom_of_crash {crash : Crash} (h : check.disabled = false)
    (hv : v.evaluate check.expression (v.rebound context check b) = .error crash) :
    v.evaluationsFrom context place (check :: rest) b =
      [⟨place, check, v.rebound context check b⟩] := by
  rw [evaluationsFrom, h, if_neg Bool.false_ne_true, hv]

theorem evaluationsFrom_of_value {value : Value} (h : check.disabled = false)
    (hv : v.evaluate check.expression (v.rebound context check b) = .ok value) :
    v.evaluationsFrom context place (check :: rest) b =
      ⟨place, check, v.rebound context check b⟩ ::
        v.evaluationsFrom context (place + 1) rest (v.rebound context check b) := by
  rw [evaluationsFrom, h, if_neg Bool.false_ne_true, hv]

/-- The truth value that an evaluation comes to, if it comes to one. -/
def truthOf (v : RowVisit) (a : Evaluation) : Option Bool :=
  match v.evaluate a.check.expression a.bindings with
  | .ok value => value.truth?
  | .error _ => none

/-- **The results of a row are those of its evaluations**: nothing else is
evaluated. -/
theorem runChecks_results (place : Nat) (h : (v.runChecks context checks b).crash = none) :
    (v.runChecks context checks b).results =
      (v.evaluationsFrom context place checks b).filterMap v.truthOf := by
  induction checks generalizing place b with
  | nil => rfl
  | cons check rest ih =>
    cases hd : check.disabled with
    | true =>
      rw [runChecks_of_disabled hd] at h ⊢
      rw [evaluationsFrom_of_disabled hd]
      exact ih (place + 1) h
    | false =>
      cases hv : v.evaluate check.expression (v.rebound context check b) with
      | error crash =>
        rw [runChecks_of_crash hd hv] at h
        cases h
      | ok value =>
        rw [runChecks_of_value hd hv, RowOutcome.withCheck_crash, RowOutcome.withValue_crash] at h
        have htruth : v.truthOf ⟨place, check, v.rebound context check b⟩ = value.truth? := by
          simp only [truthOf, hv]
        rw [runChecks_of_value hd hv, evaluationsFrom_of_value hd hv,
          RowOutcome.withCheck_results, RowOutcome.withValue_results, ih (place + 1) h,
          List.filterMap_cons, htruth]
        cases value.truth? <;> rfl

/-- **An evaluation is of an enabled check, pointed at the column it looks
at.** -/
theorem of_mem_evaluationsFrom {a : Evaluation}
    (h : a ∈ v.evaluationsFrom context place checks b) :
    place ≤ a.place ∧ checks[a.place - place]? = some a.check ∧ a.check.disabled = false ∧
      ∃ b', a.bindings = v.rebound context a.check b' := by
  induction checks generalizing place b with
  | nil => cases h
  | cons check rest ih =>
    -- A check further down stands one place further on.
    have hrest : ∀ {b'}, a ∈ v.evaluationsFrom context (place + 1) rest b' →
        place ≤ a.place ∧ (check :: rest)[a.place - place]? = some a.check ∧
          a.check.disabled = false ∧ ∃ b', a.bindings = v.rebound context a.check b' := by
      intro b' hmem
      obtain ⟨hplace, hcheck, hothers⟩ := ih hmem
      have hnext : a.place - place = a.place - (place + 1) + 1 := by omega
      exact ⟨by omega, by rw [hnext, List.getElem?_cons_succ]; exact hcheck, hothers⟩
    have hfirst : a = ⟨place, check, v.rebound context check b⟩ → check.disabled = false →
        place ≤ a.place ∧ (check :: rest)[a.place - place]? = some a.check ∧
          a.check.disabled = false ∧ ∃ b', a.bindings = v.rebound context a.check b' := by
      rintro rfl hd
      exact ⟨Nat.le_refl _, by rw [Nat.sub_self]; rfl, hd, b, rfl⟩
    cases hd : check.disabled with
    | true =>
      rw [evaluationsFrom_of_disabled hd] at h
      exact hrest h
    | false =>
      cases hv : v.evaluate check.expression (v.rebound context check b) with
      | error crash =>
        rw [evaluationsFrom_of_crash hd hv] at h
        exact hfirst (List.mem_singleton.mp h) hd
      | ok value =>
        rw [evaluationsFrom_of_value hd hv] at h
        rcases List.mem_cons.mp h with h | h
        · exact hfirst h hd
        · exact hrest h

/-- The checks that are evaluated keep a column, and no other check does. -/
theorem runChecks_getElem? (place n : Nat) :
    (v.runChecks context checks b).checks[n]? = checks[n]?.map
      (Check.after context (v.evaluationsFrom context place checks b) (place + n)) := by
  induction checks generalizing place n b with
  | nil => rfl
  | cons check rest ih =>
    cases hd : check.disabled with
    | true =>
      rw [runChecks_of_disabled hd, evaluationsFrom_of_disabled hd, RowOutcome.withCheck_checks]
      cases n with
      | zero =>
        -- The checks that follow stand further on.
        have hfirst : ∀ a ∈ v.evaluationsFrom context (place + 1) rest b, a.place ≠ place := by
          intro a ha
          have := (of_mem_evaluationsFrom ha).1
          omega
        exact congrArg some (Check.after_of_forall_ne hfirst).symm
      | succ n =>
        have hplace : place + (n + 1) = place + 1 + n := by omega
        rw [List.getElem?_cons_succ, List.getElem?_cons_succ, hplace, ih (place + 1)]
    | false =>
      cases hv : v.evaluate check.expression (v.rebound context check b) with
      | error crash =>
        rw [runChecks_of_crash hd hv, evaluationsFrom_of_crash hd hv]
        cases n with
        | zero => exact congrArg some (Check.after_of_mem (List.mem_singleton_self _)).symm
        | succ n =>
          have hsecond : ∀ c : Check, c.after context
              [⟨place, check, v.rebound context check b⟩] (place + (n + 1)) = c := fun c =>
            Check.after_of_forall_ne fun a ha => by rw [List.mem_singleton.mp ha]; simp
          rw [funext hsecond, Option.map_id']
          rfl
      | ok value =>
        rw [runChecks_of_value hd hv, evaluationsFrom_of_value hd hv, RowOutcome.withCheck_checks,
          RowOutcome.withValue_checks]
        cases n with
        | zero =>
          exact congrArg some (Check.after_of_mem List.mem_cons_self).symm
        | succ n =>
          have hplace : place + (n + 1) = place + 1 + n := by omega
          have hne : place ≠ place + 1 + n := by omega
          rw [List.getElem?_cons_succ, List.getElem?_cons_succ, hplace, ih (place + 1)]
          exact congrArg (Option.map · rest[n]?) (funext fun c => (Check.after_cons_of_ne hne).symm)

theorem evaluations_of_no_call (h : scope.call = none) :
    v.evaluations scope checks b = v.evaluationsFrom scope.columnName 0 checks b := by
  rw [evaluations, h]
  rfl

theorem evaluations_of_call_crash {call : SpanningCall} {crash : Crash} (h : scope.call = some call)
    (hv : v.evaluate call.expression b = .error crash) : v.evaluations scope checks b = [] := by
  simp only [evaluations, h, Option.map_some, hv]

theorem evaluations_of_call_value {call : SpanningCall} {value : Value} (h : scope.call = some call)
    (hv : v.evaluate call.expression b = .ok value) :
    v.evaluations scope checks b = v.evaluationsFrom scope.columnName 0 checks b := by
  simp only [evaluations, h, Option.map_some, hv]

/-- A row whose call does not crash has the evaluations of its checks. -/
theorem evaluations_of_crash_eq_none (h : (v.run scope checks b).crash = none) :
    v.evaluations scope checks b = v.evaluationsFrom scope.columnName 0 checks b ∧
      (v.runChecks scope.columnName checks b).crash = none ∧
      (v.runChecks scope.columnName checks b).results <:+ (v.run scope checks b).results := by
  cases hc : scope.call with
  | none =>
    rw [run_of_no_call hc] at h ⊢
    exact ⟨evaluations_of_no_call hc, h, List.suffix_refl _⟩
  | some call =>
    cases hv : v.evaluate call.expression b with
    | error crash =>
      rw [run_of_call_crash hc hv] at h
      cases h
    | ok value =>
      rw [run_of_call_value hc hv] at h ⊢
      rw [RowOutcome.withValue_crash] at h
      rw [RowOutcome.withValue_results]
      exact ⟨evaluations_of_call_value hc hv, h, List.suffix_append _ _⟩

/-- Of a row the evaluated checks keep the column of the scope. -/
theorem run_getElem? (n : Nat) :
    (v.run scope checks b).checks[n]? =
      checks[n]?.map (Check.after scope.columnName (v.evaluations scope checks b) n) := by
  have hchecks : (v.runChecks scope.columnName checks b).checks[n]? = checks[n]?.map
      (Check.after scope.columnName (v.evaluationsFrom scope.columnName 0 checks b) n) := by
    rw [runChecks_getElem? 0, Nat.zero_add]
  cases hc : scope.call with
  | none => rw [run_of_no_call hc, evaluations_of_no_call hc, hchecks]
  | some call =>
    cases hv : v.evaluate call.expression b with
    | error crash =>
      rw [run_of_call_crash hc hv, evaluations_of_call_crash hc hv]
      exact Option.map_id'.symm
    | ok value =>
      rw [run_of_call_value hc hv, evaluations_of_call_value hc hv, RowOutcome.withValue_checks,
        hchecks]

/-- An evaluation is of a check of the rule. -/
theorem of_mem_evaluations {a : Evaluation} (h : a ∈ v.evaluations scope checks b) :
    checks[a.place]? = some a.check ∧
      ∃ b', a.bindings = v.rebound scope.columnName a.check b' := by
  have hfrom : a ∈ v.evaluationsFrom scope.columnName 0 checks b := by
    rw [evaluations] at h
    split at h
    · cases h
    · exact h
  obtain ⟨-, hcheck, -, hbindings⟩ := of_mem_evaluationsFrom hfrom
  exact ⟨hcheck, hbindings⟩

/-- Where no check crashes each enabled check is evaluated. -/
theorem exists_evaluation (place : Nat) {n : Nat} {c : Check}
    (h : (v.runChecks context checks b).crash = none) (hc : checks[n]? = some c)
    (hd : c.disabled = false) :
    ∃ a ∈ v.evaluationsFrom context place checks b, a.place = place + n := by
  induction checks generalizing place n b with
  | nil => cases hc
  | cons check rest ih =>
    have hplace : ∀ n, place + (n + 1) = place + 1 + n := fun n => by omega
    cases hd' : check.disabled with
    | true =>
      rw [runChecks_of_disabled hd'] at h
      rw [evaluationsFrom_of_disabled hd']
      cases n with
      | zero =>
        obtain rfl : check = c := Option.some.inj hc
        rw [hd] at hd'
        cases hd'
      | succ n => exact hplace n ▸ ih (place + 1) h hc
    | false =>
      cases hv : v.evaluate check.expression (v.rebound context check b) with
      | error crash =>
        rw [runChecks_of_crash hd' hv] at h
        cases h
      | ok value =>
        rw [runChecks_of_value hd' hv, RowOutcome.withCheck_crash, RowOutcome.withValue_crash] at h
        rw [evaluationsFrom_of_value hd' hv]
        cases n with
        | zero => exact ⟨_, List.mem_cons_self, rfl⟩
        | succ n =>
          obtain ⟨a, ha, hrest⟩ := ih (place + 1) h hc
          exact ⟨a, List.mem_cons_of_mem _ ha, hrest.trans (hplace n).symm⟩

end RowVisit

/-! ## The evaluations of a session -/

namespace Evaluator

variable {e : Evaluator} {p : Pass} {project : Project} {index n : Nat} {row : Row} {b : Bindings}
variable {a : Evaluation} {calls : List Visitor.Call}

/-- The evaluations that a call makes. -/
def evaluations (e : Evaluator) : Visitor.Call → List Evaluation
  | .visit project index row =>
    match e.pass with
    | none => []
    | some p =>
      match e.bound p index row with
      | .error _ => []
      | .ok b => (e.rowVisit project index row).evaluations e.scope e.rule.checks b
  | _ => []

/-- The evaluations that calls make, one after another. -/
def history : Evaluator → List Visitor.Call → List Evaluation
  | _, [] => []
  | e, call :: rest => e.evaluations call ++ history (visitor.step e call).1 rest

theorem evaluations_visit_closed (hp : e.pass = none) :
    e.evaluations (.visit project index row) = [] := by
  rw [evaluations, hp]

theorem evaluations_visit_refused {fault : Fault} (hp : e.pass = some p)
    (hb : e.bound p index row = .error fault) : e.evaluations (.visit project index row) = [] := by
  simp only [evaluations, hp, hb]

theorem evaluations_visit_bound (hp : e.pass = some p) (hb : e.bound p index row = .ok b) :
    e.evaluations (.visit project index row) =
      (e.rowVisit project index row).evaluations e.scope e.rule.checks b := by
  simp only [evaluations, hp, hb]

/-- **One call makes the evaluated checks keep the column of the scope**, and
does nothing else to the checks. -/
theorem step_getElem? (e : Evaluator) (call : Visitor.Call) (n : Nat) :
    (visitor.step e call).1.rule.checks[n]? =
      e.rule.checks[n]?.map (Check.after e.scope.columnName (e.evaluations call) n) := by
  have hsame : e.rule.checks[n]? =
      e.rule.checks[n]?.map (Check.after e.scope.columnName [] n) :=
    Option.map_id'.symm
  cases call with
  | start project => exact hsame
  | visit project index row =>
    cases hp : e.pass with
    | none => rw [step_visit_closed hp, evaluations_visit_closed hp, ← hsame]
    | some p =>
      cases hb : e.bound p index row with
      | error fault =>
        rw [step_visit_refused hp hb, evaluations_visit_refused hp hb, ← hsame]
        rfl
      | ok b =>
        have hrun : (e.outcome project index row b).checks[n]? =
            e.rule.checks[n]?.map (Check.after e.scope.columnName
              ((e.rowVisit project index row).evaluations e.scope e.rule.checks b) n) :=
          RowVisit.run_getElem? n
        rw [evaluations_visit_bound hp hb, ← hrun, Visitor.step_visit_fst]
        cases hc : (e.outcome project index row b).crash with
        | some crash =>
          change (e.visit project index row).1.rule.checks[n]? = _
          rw [visit_crashed hp hb hc]
          rfl
        | none =>
          change (e.visit project index row).1.rule.checks[n]? = _
          rw [visit_judged hp hb hc]
  | finish project =>
    cases hp : e.pass with
    | none =>
      rw [step_finish_closed hp]
      exact hsame
    | some p =>
      rw [step_finish_open hp]
      exact hsame

/-- **So do calls one after another.** -/
theorem after_getElem? (e : Evaluator) (calls : List Visitor.Call) (n : Nat) :
    (visitor.after e calls).rule.checks[n]? =
      e.rule.checks[n]?.map (Check.after e.scope.columnName (e.history calls) n) := by
  induction calls generalizing e with
  | nil => exact Option.map_id'.symm
  | cons call rest ih =>
    rw [Visitor.after_cons, ih, step_getElem?, (step_sameSetup e call).scope, Option.map_map,
      history]
    exact congrArg (Option.map · e.rule.checks[n]?) (funext fun c => Check.after_append.symm)

/-- An evaluation of a call is of the check at its place, which looks at its
column. -/
theorem of_mem_evaluations (h : a ∈ e.evaluations (.visit project index row)) :
    e.rule.checks[a.place]? = some a.check ∧
      ∃ b, a.bindings =
        (e.rowVisit project index row).rebound e.scope.columnName a.check b := by
  cases hp : e.pass with
  | none =>
    rw [evaluations_visit_closed hp] at h
    cases h
  | some p =>
    cases hb : e.bound p index row with
    | error fault =>
      rw [evaluations_visit_refused hp hb] at h
      cases h
    | ok b =>
      rw [evaluations_visit_bound hp hb] at h
      exact RowVisit.of_mem_evaluations h

/-- **A judged row is judged by its evaluations**, and each enabled check is
among them. -/
theorem evaluations_of_judged {results : List Bool} {excluded : Nat}
    (h : e.finding? (.visit project index row) = some (.judged index results excluded)) :
    (e.evaluations (.visit project index row)).filterMap
        (e.rowVisit project index row).truthOf <:+ results ∧
      ∀ n c, e.rule.checks[n]? = some c → c.disabled = false →
        ∃ a ∈ e.evaluations (.visit project index row), a.place = n := by
  cases hp : e.pass with
  | none => simp [finding?, hp] at h
  | some p =>
    cases hb : e.bound p index row with
    | error fault => simp [finding?, hp, hb] at h
    | ok b =>
      cases hc : (e.outcome project index row b).crash with
      | some crash => simp [finding?, hp, hb, hc] at h
      | none =>
        rw [finding?_judged hp hb hc] at h
        obtain ⟨-, rfl, rfl⟩ := Finding.judged.inj (Option.some.inj h)
        obtain ⟨heq, hchecks, hsuffix⟩ := RowVisit.evaluations_of_crash_eq_none hc
        rw [evaluations_visit_bound hp hb, heq]
        refine ⟨?_, fun n c hcheck hd => ?_⟩
        · rw [← RowVisit.runChecks_results 0 hchecks]
          exact hsuffix
        · obtain ⟨a, ha, hplace⟩ := RowVisit.exists_evaluation 0 hchecks hcheck hd
          exact ⟨a, ha, by rw [hplace, Nat.zero_add]⟩

end Evaluator

/-! ## Origins -/

open Evaluator (visitor)

/-- **What a check has been through.** The origin of a check is the column of
the first metric that it was evaluated in, if there is one. A clone of a check
has been through what the check had been through when it was cloned. -/
inductive Check.Origin : Check → Option String → Prop
  /-- A new check. -/
  | made (expression : Expression) (column : Option String) (disabled : Bool)
      (comment : Option String) : Origin ⟨expression, column, disabled, comment, none⟩ none
  /-- A check that is switched or commented. -/
  | edited {c : Check} {o : Option String} (disabled : Bool) (comment : Option String) :
      Origin c o → Origin { c with disabled, comment } o
  /-- A check that is given a column of its own. -/
  | targeted {c : Check} {o : Option String} (column : String) :
      Origin c o → Origin { c with column := some column } o
  /-- A check that is asked for its column in a metric with this column. -/
  | asked {c : Check} {o : Option String} (context : String) :
      Origin c o → Origin (c.keeping context) (some (o.getD context))
  /-- A check of a metric that evaluates it in a session. -/
  | evaluated {e : Evaluator} {calls : List Visitor.Call} {c c' : Check} {o : Option String}
      {a : Evaluation} : e.rule.checks[a.place]? = some c → Origin c o → a ∈ e.history calls →
      (visitor.after e calls).rule.checks[a.place]? = some c' →
      Origin c' (some (o.getD e.scope.columnName))
  /-- A check of a metric that does not evaluate it in a session. -/
  | passedBy {e : Evaluator} {calls : List Visitor.Call} {c c' : Check} {o : Option String}
      {n : Nat} : e.rule.checks[n]? = some c → Origin c o → (∀ a ∈ e.history calls, a.place ≠ n) →
      (visitor.after e calls).rule.checks[n]? = some c' → Origin c' o

namespace Check

variable {c : Check} {o : Option String} {context : String}

theorem kept_keeping (h : c.column = none) :
    (c.keeping context).kept = some (c.kept.getD context) := by
  rw [keeping, h]
  rfl

/-- **A check without a column keeps its origin.** -/
theorem Origin.kept_eq (h : c.Origin o) (hc : c.column = none) : c.kept = o := by
  -- One case for each thing that a check can go through; a session leaves the
  -- check as it was or makes it keep a column.
  induction h with
  | made => rfl
  | edited _ _ _ ih => exact ih hc
  | targeted => cases hc
  | @asked c o context _ ih =>
    have hc : c.column = none := hc
    rw [kept_keeping hc, ih hc]
  | @evaluated e calls c c' o a hget _ hmem hafter ih =>
    rw [Evaluator.after_getElem?, hget, Option.map_some, after_of_mem hmem] at hafter
    obtain rfl := Option.some.inj hafter
    have hc : c.column = none := hc
    rw [kept_keeping hc, ih hc]
  | @passedBy e calls c c' o n hget _ hne hafter ih =>
    rw [Evaluator.after_getElem?, hget, Option.map_some, after_of_forall_ne hne] at hafter
    obtain rfl := Option.some.inj hafter
    exact ih hc

/-- What a check without a column keeps is its origin, and it has no other. -/
theorem origin_iff (hc : c.column = none) : c.Origin o ↔ c.kept = o := by
  refine ⟨fun h => h.kept_eq hc, ?_⟩
  rintro rfl
  obtain ⟨expression, column, disabled, comment, kept⟩ := c
  have hmade : Origin ⟨expression, none, disabled, comment, none⟩ none := .made ..
  obtain rfl : column = none := hc
  cases kept with
  | none => exact hmade
  | some context => exact hmade.asked context

theorem Origin.columnIn_eq (h : c.Origin o) (hc : c.column = none) (context : String) :
    c.columnIn context = o.getD context := by
  rw [columnIn, hc, (origin_iff hc).mp h]
  rfl

end Check

namespace Metric

/-- A pass over the rows of a project is a session of the metric. -/
theorem exists_session_evaluate (metric : Metric) (project : Project) (tests : List RowTest)
    (binder : Binder) (config : EvaluationConfig) :
    ∃ calls, (metric.evaluate project tests binder config).1 =
      metric.withRule (visitor.after (Evaluator.ofMetric metric binder config) calls).rule := by
  obtain ⟨calls, hcalls⟩ :=
    visitor.exists_session_traverse tests project (Evaluator.ofMetric metric binder config)
  refine ⟨calls, ?_⟩
  rw [evaluate, ← hcalls]
  obtain ⟨e, events, ending⟩ :=
    visitor.traverse tests project (Evaluator.ofMetric metric binder config)
  cases ending <;> rfl

/-- After a pass a check has the origin it had, or the column of the metric if
it had none. -/
theorem origin_evaluate {metric : Metric} {project : Project} {tests : List RowTest}
    {binder : Binder} {config : EvaluationConfig} {n : Nat} {c c' : Check} {o : Option String}
    (hc : metric.rule.checks[n]? = some c) (horigin : c.Origin o)
    (hc' : (metric.evaluate project tests binder config).1.rule.checks[n]? = some c') :
    c'.Origin o ∨ c'.Origin (some (o.getD metric.scope.columnName)) := by
  obtain ⟨calls, hcalls⟩ := exists_session_evaluate metric project tests binder config
  rw [hcalls, rule_withRule] at hc'
  by_cases h : ∃ a ∈ (Evaluator.ofMetric metric binder config).history calls, a.place = n
  · obtain ⟨a, ha, rfl⟩ := h
    exact .inr (.evaluated hc horigin ha hc')
  · exact .inl (.passedBy hc horigin (fun a ha hplace => h ⟨a, ha, hplace⟩) hc')

/-- **A check without a column looks at its origin.** In a metric that holds
it, whatever passes the metric has been through, and on each row of the next
one, it is evaluated with its origin bound if it has one, and else with the
column of the metric. It is evaluated on each row that is judged if it is
enabled, and the row is judged by nothing else. So it looks at the column of
its own metric just when no metric evaluated it before, or first one with the
same column. -/
theorem untargeted_looks_at_origin (metric : Metric) (binder : Binder) (config : EvaluationConfig)
    (calls : List Visitor.Call) (project : Project) (index : Nat) (row : Row) {n : Nat}
    {c : Check} {o : Option String} (hc : metric.rule.checks[n]? = some c)
    (huntargeted : c.column = none) (horigin : c.Origin o) :
    let context := metric.scope.columnName
    let column := o.getD context
    let e := visitor.after (Evaluator.ofMetric metric binder config) calls
    (∀ a ∈ e.evaluations (.visit project index row), a.place = n →
      a.check.expression = c.expression ∧
        ∃ b, a.bindings = binder.rebind b column (project.cell? row column)) ∧
    (∀ results excluded, e.finding? (.visit project index row) =
        some (.judged index results excluded) →
      (e.evaluations (.visit project index row)).filterMap
          (e.rowVisit project index row).truthOf <:+ results ∧
        (c.disabled = false → ∃ a ∈ e.evaluations (.visit project index row), a.place = n)) ∧
    (column = context ↔ o = none ∨ o = some context) := by
  intro context column e
  have hsetup := Evaluator.after_sameSetup (Evaluator.ofMetric metric binder config) calls
  -- The check that the evaluator holds by now looks at the same column.
  have hget : e.rule.checks[n]? = some
      (c.after context ((Evaluator.ofMetric metric binder config).history calls) n) := by
    have hafter := Evaluator.after_getElem? (Evaluator.ofMetric metric binder config) calls n
    have hchecks : (Evaluator.ofMetric metric binder config).rule.checks[n]? = some c := hc
    rw [hchecks] at hafter
    exact hafter
  refine ⟨?_, fun results excluded hjudged => ?_, ?_⟩
  · rintro a ha rfl
    obtain ⟨hcheck, b, hb⟩ := Evaluator.of_mem_evaluations ha
    have hsame := Option.some.inj (hcheck.symm.trans hget)
    have hscope : e.scope.columnName = context := congrArg Scope.columnName hsetup.scope
    have hcolumn : a.check.columnIn e.scope.columnName = column := by
      rw [hscope, hsame, Check.columnIn_after, horigin.columnIn_eq huntargeted]
    have hbinder : (e.rowVisit project index row).binder = binder := hsetup.binder
    refine ⟨by rw [hsame, Check.expression_after], b, ?_⟩
    rw [hb, RowVisit.rebound, hcolumn, hbinder]
    rfl
  · obtain ⟨hresults, henabled⟩ := Evaluator.evaluations_of_judged hjudged
    exact ⟨hresults, fun hd => henabled n _ hget (Check.disabled_after.trans hd)⟩
  · cases o with
    | none => exact iff_of_true rfl (.inl rfl)
    | some column => simp [column]

end Metric

namespace Flags

/-- The first row of flags. -/
def firstRow : Row := Row.ofValues [.bool true, .bool false]

/-- Checks that were made for raised flags and have been evaluated there, in a
metric of the flags that were seen. -/
def moved : ColumnMetric where
  rule :=
    { name := "moved"
      description := none
      checks := ((Metric.column metric).evaluate project [] Binder.plain .standard).1.rule.checks
      combination := .all }
  column := some "seen"

/-- The evaluator of the metric with a pass open. -/
def movedPass : Evaluator :=
  visitor.after (Evaluator.ofMetric (.column moved) Binder.plain .standard) [.start project]

/-- The check without a column that was evaluated on raised flags still looks
at those, where its origin is, on each row that is judged. -/
theorem moved_looks_at_raised :
    (∀ a ∈ movedPass.evaluations (.visit project 0 firstRow), a.place = 0 →
      ∃ b, a.bindings = Binder.plain.rebind b "raised" (project.cell? firstRow "raised")) ∧
    ∃ a ∈ movedPass.evaluations (.visit project 0 firstRow), a.place = 0 := by
  have hevaluated : Check.Origin ⟨cell, none, false, none, some "raised"⟩ (some "raised") :=
    (Check.Origin.made cell none false none).asked "raised"
  have hheld : (Metric.column moved).rule.checks[0]? =
      some ⟨cell, none, false, none, some "raised"⟩ := rfl
  obtain ⟨hlooks, hjudged, -⟩ := Metric.untargeted_looks_at_origin (.column moved) Binder.plain
    .standard [.start project] project 0 firstRow hheld rfl hevaluated
  refine ⟨fun a ha hplace => (hlooks a ha hplace).2, ?_⟩
  exact (hjudged [true, false] 0 rfl).2 rfl

/-- So it does not look at the column of the metric that holds it. -/
theorem moved_overlooks_seen :
    ∃ a ∈ movedPass.evaluations (.visit project 0 firstRow),
      a.check.column = none ∧ a.check.disabled = false ∧
        ∀ b, a.bindings ≠ Binder.plain.rebind b "seen" (project.cell? firstRow "seen") := by
  refine ⟨_, List.mem_cons_self, rfl, rfl, fun b hb => ?_⟩
  have hcolumn : "raised" = "seen" := congrArg Bindings.column hb
  revert hcolumn
  decide

end Flags

end DataQuality
