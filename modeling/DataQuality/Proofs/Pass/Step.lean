import DataQuality.Proofs.Pass.Finding
import DataQuality.Proofs.Pass.Row
import DataQuality.Proofs.Session
/-!
# Evaluators call by call — what one call can do

What one call does to an evaluator is said once, case by case (`Steps`):
where no pass is open nothing happens but a start; a visit of an open pass
finds something about the row, or crashes and loses the pass; a finish
publishes. Whatever is called, the evaluator stays the evaluator of its
rule (`after_sameSetup`).
-/

namespace DataQuality

open Visitor (Answer)

/-- A pass holds findings: it has staged their dirty rows and counted them. -/
structure Pass.Holds (c : Combination) (fs : List Finding) (p : Pass) : Prop where
  pending : p.pending = Finding.dirtyIndex c fs
  stats : p.stats = Finding.stats c fs

namespace Pass

variable {c : Combination} {fs : List Finding} {p : Pass}

/-- A row that is skipped is one refused row more. -/
theorem Holds.skip (h : p.Holds c fs) (index : Nat) (b : Bindings) :
    (p.skip b).Holds c (fs ++ [.refused index]) where
  pending := by
    rw [Finding.dirtyIndex_concat]
    exact h.pending
  stats := by
    rw [Finding.stats_concat_refused, ← h.stats]
    rfl

/-- A row that is staged is one judged row more. -/
theorem Holds.stage (h : p.Holds c fs) (index : Nat) (o : RowOutcome) :
    (p.stage index o (c.isDirty o.results)).Holds c
      (fs ++ [.judged index o.results o.excluded]) where
  pending := by
    rw [Finding.dirtyIndex_concat, ← h.pending]
    rfl
  stats := by
    rw [Finding.stats_concat_judged, ← h.stats]
    rfl

end Pass

namespace Evaluator

variable {e e' e'' : Evaluator} {p : Pass} {project : Project} {index : Nat} {row : Row}
variable {b : Bindings} {fault : Fault} {crash : Crash} {call : Visitor.Call}

/-- The bindings of a row in an open pass, if it can be bound. -/
def bound (e : Evaluator) (p : Pass) (index : Nat) (row : Row) : Except Fault Bindings :=
  e.binder.bind p.bindings row index e.scope.columnName (p.contextIndex.bind row.cell?)

/-- What is left of the bindings of an open pass when a row is refused. -/
def leftover (e : Evaluator) (p : Pass) (index : Nat) (row : Row) : Bindings :=
  e.binder.refused p.bindings row index e.scope.columnName (p.contextIndex.bind row.cell?)

/-- The outcome of a bound row. -/
def outcome (e : Evaluator) (project : Project) (index : Nat) (row : Row) (b : Bindings) :
    RowOutcome :=
  (e.rowVisit project index row).run e.scope e.rule.checks b

/-- What a call finds out about a row: something if it shows one to an open
pass and does not crash. -/
def finding? (e : Evaluator) : Visitor.Call → Option Finding
  | .visit project index row =>
    e.pass.bind fun p =>
      match e.bound p index row with
      | .error _ => some (.refused index)
      | .ok b =>
        match (e.outcome project index row b).crash with
        | some _ => none
        | none =>
          some (.judged index (e.outcome project index row b).results
            (e.outcome project index row b).excluded)
  | _ => none

/-- What some calls find out about rows, in order. -/
def findings : Evaluator → List Visitor.Call → List Finding
  | _, [] => []
  | e, call :: rest => (e.finding? call).toList ++ findings (visitor.step e call).1 rest

/-- How many results and exclusions a row of the rule has. -/
def accountSize (e : Evaluator) : Nat :=
  e.rule.enabledChecks + if e.scope.call.isSome then 1 else 0

/-! ## What one call does -/

@[simp] theorem step_start : visitor.step e (.start project) = (e.start project, .started) := rfl

/-- A row outside of a pass is not looked at. -/
theorem visit_closed (h : e.pass = none) :
    e.visit project index row = (e, [.rowOutsidePass index], .ok .stop) := by
  rw [visit, h]

theorem step_visit_closed (h : e.pass = none) :
    visitor.step e (.visit project index row) = (e, .visited .stop) := by
  simp [Visitor.step, visitor, visit_closed h]

/-- A pass that is not open cannot be finished. -/
theorem step_finish_closed (h : e.pass = none) :
    visitor.step e (.finish project) =
      (e, .failed (.internal "Evaluation pass was not started")) := by
  simp [Visitor.step, visitor, finish, h]

/-- The checks of a rule after findings: a judged row settles them. -/
def checksAfter (e : Evaluator) (fs : List Finding) : List Check :=
  if fs.any (·.isJudged) then e.rule.checks.map (Check.settled e.scope.columnName)
  else e.rule.checks

/-- The evaluator after a visit that found `f`, with the pass as it is then. -/
def withFinding (e : Evaluator) (f : Finding) (p : Pass) : Evaluator :=
  { e with rule := { e.rule with checks := e.checksAfter [f] }, pass := some p }

/-- The evaluator after a visit that crashed. -/
def withoutPass (e : Evaluator) (checks : List Check) : Evaluator :=
  { e with rule := { e.rule with checks }, pass := none }

/-- The evaluator after a pass is finished: dirty rows and measure are
published together. -/
def concluded (e : Evaluator) (p : Pass) : Evaluator :=
  { e with
    rule := e.rule.publish p.pending p.stats.measure
    pass := none
    lastStats := some p.stats }

theorem step_finish_open (h : e.pass = some p) :
    visitor.step e (.finish project) = (e.concluded p, .finished) := by
  simp [Visitor.step, visitor, finish, concluded, h]

/-- A row that cannot be bound is counted, with what is left of the
bindings. -/
theorem visit_refused (hp : e.pass = some p) (hb : e.bound p index row = .error fault) :
    e.visit project index row =
      ({ e with pass := some (p.skip (e.leftover p index row)) },
        reportIf e.config.log.skipped (.rowRefused index fault.message), .ok .proceed) := by
  rw [bound] at hb
  simp [visit, hp, hb, leftover]

theorem step_visit_refused (hp : e.pass = some p) (hb : e.bound p index row = .error fault) :
    visitor.step e (.visit project index row) =
      (e.withFinding (.refused index) (p.skip (e.leftover p index row)), .visited .proceed) := by
  simp [Visitor.step, visitor, visit_refused hp hb, withFinding, checksAfter, Finding.isJudged]

/-- A crash closes the pass; what was reported of the row before stays. -/
theorem visit_crashed (hp : e.pass = some p) (hb : e.bound p index row = .ok b)
    (hc : (e.outcome project index row b).crash = some crash) :
    e.visit project index row =
      (e.withoutPass (e.outcome project index row b).checks,
        (e.outcome project index row b).events, .error crash) := by
  rw [bound] at hb
  rw [outcome] at hc ⊢
  simp [visit, hp, hb, hc, withoutPass]

theorem step_visit_crashed (hp : e.pass = some p) (hb : e.bound p index row = .ok b)
    (hc : (e.outcome project index row b).crash = some crash) :
    visitor.step e (.visit project index row) =
      (e.withoutPass (e.outcome project index row b).checks, .crashed crash) := by
  simp [Visitor.step, visitor, visit_crashed hp hb hc]

/-- What a bound row is found to be if no check crashes on it. -/
def judgement (e : Evaluator) (project : Project) (index : Nat) (row : Row) (b : Bindings) :
    Finding :=
  .judged index (e.outcome project index row b).results (e.outcome project index row b).excluded

theorem finding?_judged (hp : e.pass = some p) (hb : e.bound p index row = .ok b)
    (hc : (e.outcome project index row b).crash = none) :
    e.finding? (.visit project index row) = some (e.judgement project index row b) := by
  simp [finding?, hp, hb, hc, judgement]

/-- A bound row that no check crashes on is judged by its results. -/
theorem visit_judged (hp : e.pass = some p) (hb : e.bound p index row = .ok b)
    (hc : (e.outcome project index row b).crash = none) :
    e.visit project index row =
      let o := e.outcome project index row b
      let dirty := e.rule.combination.isDirty o.results
      ({ e with rule := { e.rule with checks := o.checks }, pass := some (p.stage index o dirty) },
        o.events ++ reportIf e.config.log.rowDetails (.rowEvaluated index dirty o.results),
        .ok .proceed) := by
  rw [bound] at hb
  rw [outcome] at hc ⊢
  simp [visit, hp, hb, hc]

theorem step_visit_judged (hp : e.pass = some p) (hb : e.bound p index row = .ok b)
    (hc : (e.outcome project index row b).crash = none) :
    visitor.step e (.visit project index row) =
      (e.withFinding (e.judgement project index row b)
        (p.stage index (e.outcome project index row b)
          (e.rule.combination.isDirty (e.outcome project index row b).results)),
        .visited .proceed) := by
  have hchecks : (e.outcome project index row b).checks =
      e.rule.checks.map (Check.settled e.scope.columnName) :=
    RowVisit.checks_of_crash_eq_none hc
  simp [Visitor.step, visitor, visit_judged hp hb hc, hchecks, withFinding, checksAfter, judgement,
    Finding.isJudged]

/-- What holds of a visit of an open pass that finds `f`. -/
structure Finds (e : Evaluator) (p : Pass) (index : Nat) (f : Finding) (p' : Pass) : Prop where
  index : f.index = index
  holds : ∀ fs, p.Holds e.rule.combination fs → p'.Holds e.rule.combination (fs ++ [f])
  account : f.isJudged = true → f.results.length + f.excluded = e.accountSize

/-- **What one call does**, case by case: the evaluator after it and the
answer. -/
inductive Steps (e : Evaluator) : Visitor.Call → Evaluator × Answer → Prop
  /-- A start opens a pass and drops one that was open. -/
  | started {project : Project} : Steps e (.start project) (e.start project, .started)
  /-- A row outside of a pass is not looked at. -/
  | outside {project : Project} {index : Nat} {row : Row} : e.pass = none →
      e.finding? (.visit project index row) = none →
      Steps e (.visit project index row) (e, .visited .stop)
  /-- The pass goes on and holds one finding more. -/
  | found {project : Project} {index : Nat} {row : Row} {p p' : Pass} {f : Finding} :
      e.pass = some p →
      e.finding? (.visit project index row) = some f → e.Finds p index f p' →
      Steps e (.visit project index row) (e.withFinding f p', .visited .proceed)
  /-- A crash loses the pass. -/
  | crashed {project : Project} {index : Nat} {row : Row} {p : Pass} {crash : Crash}
      {checks : List Check} : e.pass = some p →
      e.finding? (.visit project index row) = none →
      checks.map Check.unkept = e.rule.checks.map Check.unkept →
      Steps e (.visit project index row) (e.withoutPass checks, .crashed crash)
  /-- A pass that is not open cannot be finished. -/
  | unstarted {project : Project} : e.pass = none →
      Steps e (.finish project) (e, .failed (.internal "Evaluation pass was not started"))
  /-- An open pass is published when it is finished, and is closed. -/
  | finished {project : Project} {p : Pass} : e.pass = some p →
      Steps e (.finish project) (e.concluded p, .finished)

theorem steps (e : Evaluator) (call : Visitor.Call) : Steps e call (visitor.step e call) := by
  -- What a visit does is decided by the pass, then by the binder, then by
  -- the checks.
  cases call with
  | start project => exact .started
  | visit project index row =>
    cases hp : e.pass with
    | none =>
      rw [step_visit_closed hp]
      exact .outside hp (by simp [finding?, hp])
    | some p =>
      cases hb : e.bound p index row with
      | error fault =>
        rw [step_visit_refused hp hb]
        exact .found hp (by simp [finding?, hp, hb]) ⟨rfl, fun fs h => h.skip index _, nofun⟩
      | ok b =>
        cases hc : (e.outcome project index row b).crash with
        | some crash =>
          rw [step_visit_crashed hp hb hc]
          exact .crashed hp (by simp [finding?, hp, hb, hc]) RowVisit.run_unkept
        | none =>
          rw [step_visit_judged hp hb hc]
          exact .found hp (finding?_judged hp hb hc)
            ⟨rfl, fun fs h => h.stage index _, fun _ => RowVisit.length_results_add_excluded hc⟩
  | finish project =>
    cases hp : e.pass with
    | none =>
      rw [step_finish_closed hp]
      exact .unstarted hp
    | some p =>
      rw [step_finish_open hp]
      exact .finished hp

/-- Where crashes are caught a visit of an open pass finds something. -/
theorem finding?_isSome_of_catches (hcatch : e.config.catchesCrashes = true)
    (hp : e.pass = some p) : (e.finding? (.visit project index row)).isSome := by
  cases hb : e.bound p index row with
  | error fault => simp [finding?, hp, hb]
  | ok b =>
    have hc : (e.outcome project index row b).crash = none := RowVisit.crash_of_catches hcatch
    simp [finding?, hp, hb, hc]

/-! ## What no call does -/

/-- Two states of one evaluator: they differ in the pass, in what was
published and in the columns that checks keep, and in nothing else. -/
structure SameSetup (e e' : Evaluator) : Prop where
  binder : e'.binder = e.binder
  config : e'.config = e.config
  scope : e'.scope = e.scope
  name : e'.rule.name = e.rule.name
  description : e'.rule.description = e.rule.description
  combination : e'.rule.combination = e.rule.combination
  checks : e'.rule.checks.map Check.unkept = e.rule.checks.map Check.unkept

namespace SameSetup

theorem refl (e : Evaluator) : SameSetup e e := ⟨rfl, rfl, rfl, rfl, rfl, rfl, rfl⟩

theorem trans (h : SameSetup e e') (h' : SameSetup e' e'') : SameSetup e e'' where
  binder := h'.binder.trans h.binder
  config := h'.config.trans h.config
  scope := h'.scope.trans h.scope
  name := h'.name.trans h.name
  description := h'.description.trans h.description
  combination := h'.combination.trans h.combination
  checks := h'.checks.trans h.checks

/-- The account of a row is that of the setup. -/
theorem accountSize_eq (h : SameSetup e e') : e'.accountSize = e.accountSize := by
  have hcount : ∀ checks : List Check,
      checks.countP (!·.disabled) = (checks.map Check.unkept).countP (!·.disabled) := by
    intro checks
    rw [List.countP_map]
    rfl
  rw [accountSize, accountSize, Rule.enabledChecks, Rule.enabledChecks, hcount, h.checks,
    ← hcount, h.scope]

end SameSetup

theorem unkept_checksAfter (e : Evaluator) (fs : List Finding) :
    (e.checksAfter fs).map Check.unkept = e.rule.checks.map Check.unkept := by
  rw [checksAfter]
  split
  · simp [Function.comp_def]
  · rfl

/-- **No call changes the setup.** -/
theorem step_sameSetup (e : Evaluator) (call : Visitor.Call) :
    SameSetup e (visitor.step e call).1 := by
  have h := steps e call
  generalize visitor.step e call = next at h ⊢
  cases h with
  | started => exact ⟨rfl, rfl, rfl, rfl, rfl, rfl, rfl⟩
  | outside => exact SameSetup.refl e
  | found => exact ⟨rfl, rfl, rfl, rfl, rfl, rfl, unkept_checksAfter e _⟩
  | crashed _ _ hchecks => exact ⟨rfl, rfl, rfl, rfl, rfl, rfl, hchecks⟩
  | unstarted => exact SameSetup.refl e
  | finished => exact ⟨rfl, rfl, rfl, rfl, rfl, rfl, rfl⟩

theorem after_sameSetup (e : Evaluator) (calls : List Visitor.Call) :
    SameSetup e (visitor.after e calls) := by
  induction calls generalizing e with
  | nil => exact SameSetup.refl e
  | cons call rest ih => exact (step_sameSetup e call).trans (ih _)

/-- **Where crashes are caught no call crashes.** -/
theorem crashed_not_mem_answers {calls : List Visitor.Call} (crash : Crash)
    (hcatch : e.config.catchesCrashes = true) : .crashed crash ∉ visitor.answers e calls := by
  induction calls generalizing e with
  | nil => exact List.not_mem_nil
  | cons call rest ih =>
    have hsetup := step_sameSetup e call
    have hstep := steps e call
    rw [Visitor.answers, List.mem_cons, not_or]
    refine ⟨?_, ih (hsetup.config ▸ hcatch)⟩
    intro hcrash
    generalize visitor.step e call = next at hcrash hstep
    cases hstep with
    | @crashed project index row _ _ _ hp hnone =>
      -- A visit of an open pass finds something.
      have hsome : (e.finding? (.visit project index row)).isSome :=
        finding?_isSome_of_catches hcatch hp
      rw [hnone] at hsome
      cases hsome
    | started => cases hcrash
    | outside => cases hcrash
    | found => cases hcrash
    | unstarted => cases hcrash
    | finished => cases hcrash

end Evaluator

end DataQuality
