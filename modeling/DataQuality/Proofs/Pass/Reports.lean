import DataQuality.Proofs.Pass.Counters
import DataQuality.Proofs.Pass.Variation
import DataQuality.Proofs.Traversal
/-!
# Reports — what a pass says about itself

How much a pass reports has no influence on it: to report otherwise is a
variation that makes no difference, if no event is looked at
(`Variation.logging_keeps`). What a pass reports is told by what it finds:
a visit reports its finding and nothing else (`Evaluator.visit_reports`), and
so the events of a pass, apart from those of the tests, are as many as its
counters say (`Metric.reports_are_faithful`).
-/

namespace DataQuality

open Visitor (visits visits_cons)
open RowTest (accepted)

/-! ## Kinds of events -/

/-- What the events of a pass are about. -/
inductive Event.Kind where
  | columnMissing
  | passStarted
  | rowRefused
  /-- A result of a check or of a call is left out. -/
  | exclusion
  | rowEvaluated
  | passFinished
  /-- What a pass does not report itself. -/
  | other
  deriving DecidableEq

namespace Event

/-- The kind of an event. -/
def kind : Event → Kind
  | columnMissing .. => .columnMissing
  | passStarted .. => .passStarted
  | rowRefused .. => .rowRefused
  | callExcluded .. | checkExcluded .. => .exclusion
  | rowEvaluated .. => .rowEvaluated
  | passFinished .. => .passFinished
  | _ => .other

/-- How many of some events are of a kind. -/
def count (kind : Kind) (events : List Event) : Nat := events.countP (·.kind = kind)

variable {kind : Kind} {event : Event} {events more : List Event}

@[simp] theorem count_nil : count kind [] = 0 := rfl

theorem count_cons :
    count kind (event :: events) = count kind events + if event.kind = kind then 1 else 0 := by
  simp [count, List.countP_cons]

@[simp] theorem count_append :
    count kind (events ++ more) = count kind events + count kind more :=
  List.countP_append

/-- Events of one kind are counted as that kind and as no other. -/
theorem count_of_forall {k : Kind} (h : ∀ event ∈ events, event.kind = k) :
    count kind events = if k = kind then events.length else 0 := by
  split
  · rename_i hk
    exact List.countP_eq_length.mpr fun event hevent => by simp [h event hevent, hk]
  · rename_i hk
    exact List.countP_eq_zero.mpr fun event hevent => by simp [h event hevent, hk]

/-- Where no event of a kind is counted, there is none. -/
theorem kind_ne_of_count_eq_zero (h : count kind events = 0) (hevent : event ∈ events) :
    event.kind ≠ kind := by
  have hnot := List.countP_eq_zero.mp h event hevent
  rwa [decide_eq_true_iff] at hnot

end Event

/-- Whether events of a kind are reported. -/
def LogConfig.permits (log : LogConfig) : Event.Kind → Bool
  | .columnMissing | .rowRefused => log.skipped
  | .passStarted | .passFinished => log.passSummary
  | .exclusion | .rowEvaluated => log.rowDetails
  | .other => true

/-- How many events of a kind tell of a finding. -/
def Finding.reports (f : Finding) : Event.Kind → Nat
  | .rowRefused => if !f.isJudged then 1 else 0
  | .exclusion => f.excluded
  | .rowEvaluated => if f.isJudged then 1 else 0
  | _ => 0

/-- What the tests report when they are asked about some rows. -/
def RowTest.reports (tests : List RowTest) (project : Project) (rows : List (Row × Nat)) :
    List Event :=
  rows.flatMap fun r => (RowTest.all project r.2 r.1 tests).1

/-! ## How much is reported has no influence -/

/-- A value counts the same whatever was and is reported. -/
theorem RowOutcome.exists_withValue (o : RowOutcome) (events : List Event) (value : Value)
    (event : String → Event) (log log' : LogConfig) :
    ∃ events', ({ o with events } : RowOutcome).withValue value event log' =
      { o.withValue value event log with events := events' } := by
  cases value <;> exact ⟨_, rfl⟩

namespace RowVisit

/-- The row visited by a pass that reports as `log` has it. -/
def logging (log : LogConfig) (v : RowVisit) : RowVisit :=
  { v with config := { v.config with log } }

theorem runChecks_logging (log : LogConfig) (v : RowVisit) (context : String)
    (checks : List Check) (b : Bindings) :
    ∃ events, (v.logging log).runChecks context checks b =
      { v.runChecks context checks b with events } := by
  induction checks generalizing b with
  | nil => exact ⟨_, rfl⟩
  | cons check rest ih =>
    cases hd : check.disabled with
    | true =>
      obtain ⟨events, hrest⟩ := ih b
      rw [runChecks_of_disabled hd, runChecks_of_disabled hd, hrest]
      exact ⟨events, rfl⟩
    | false =>
      -- The bindings and the evaluation do not know what is reported.
      have hrebound : (v.logging log).rebound context check b = v.rebound context check b := rfl
      cases hv : v.evaluate check.expression (v.rebound context check b) with
      | error crash =>
        rw [runChecks_of_crash hd hv, runChecks_of_crash (v := v.logging log) hd hv]
        exact ⟨_, rfl⟩
      | ok value =>
        obtain ⟨events, hrest⟩ := ih (v.rebound context check b)
        rw [runChecks_of_value hd hv, runChecks_of_value (v := v.logging log) hd hv, hrebound,
          hrest]
        obtain ⟨events', hvalue⟩ := RowOutcome.exists_withValue
          (v.runChecks context rest (v.rebound context check b)) events value
          (.checkExcluded v.index check.expression.source) v.config.log log
        exact ⟨events', congrArg (RowOutcome.withCheck (check.keeping context)) hvalue⟩

/-- **A row has one outcome however much is reported**, but for its events. -/
theorem run_logging (log : LogConfig) (v : RowVisit) (scope : Scope) (checks : List Check)
    (b : Bindings) :
    ∃ events, (v.logging log).run scope checks b = { v.run scope checks b with events } := by
  cases hc : scope.call with
  | none =>
    rw [run_of_no_call hc, run_of_no_call hc]
    exact runChecks_logging log v scope.columnName checks b
  | some call =>
    cases hv : v.evaluate call.expression b with
    | error crash =>
      rw [run_of_call_crash hc hv, run_of_call_crash (v := v.logging log) hc hv]
      exact ⟨_, rfl⟩
    | ok value =>
      obtain ⟨events, hchecks⟩ := runChecks_logging log v scope.columnName checks b
      rw [run_of_call_value hc hv, run_of_call_value (v := v.logging log) hc hv, hchecks]
      exact RowOutcome.exists_withValue _ _ _ _ _ _

end RowVisit

/-- The pass that reports as `log` has it. -/
def Variation.logging (log : LogConfig) : Variation where
  config c := { c with log }
  scope := id
  checks := id

/-- **How much is reported makes no difference**, if no event is looked at. -/
theorem Variation.logging_keeps (log : LogConfig) :
    (logging log).Keeps (fun _ => True) (fun _ => false) where
  columnName _ := rfl
  enabledChecks _ := rfl
  log h _ := absurd h (by simp)
  run v scope checks b _ := by
    obtain ⟨events, houtcome⟩ := RowVisit.run_logging log v scope checks b
    exact ⟨events, houtcome, by simp⟩

/-- **How much a pass reports does not influence it.** -/
theorem Metric.evaluate_logging (metric : Metric) (project : Project) (tests : List RowTest)
    (binder : Binder) (config : EvaluationConfig) (log : LogConfig) :
    (metric.evaluate project tests binder { config with log }).1 =
        (metric.evaluate project tests binder config).1 ∧
      (metric.evaluate project tests binder { config with log }).2.2 =
        (metric.evaluate project tests binder config).2.2 := by
  obtain ⟨⟨rule, hleft, hleft'⟩, -, hending⟩ := evaluate_varied (m := metric)
    (Variation.logging_keeps log) rfl rfl project tests binder config trivial
  exact ⟨hleft'.trans hleft.symm, hending⟩

/-! ## What the rows of a pass report -/

/-- Events are split into those that tests reported and those that the pass
reported itself, which are permitted. -/
structure LogConfig.Splits (log : LogConfig) (events asked own : List Event) : Prop where
  perm : events.Perm (asked ++ own)
  permitted : ∀ event ∈ own, log.permits event.kind = true

namespace LogConfig.Splits

variable {log : LogConfig} {events asked own events' asked' own' : List Event}

theorem of_tests (events : List Event) : log.Splits events events [] where
  perm := by rw [List.append_nil]
  permitted := fun _ h => absurd h List.not_mem_nil

/-- What is reported of a row: first the tests report, then the visit. -/
theorem of_row (tested : List Event) (h : ∀ event ∈ events, log.permits event.kind = true) :
    log.Splits (tested ++ events) tested events := ⟨.refl _, h⟩

theorem of_pass (h : ∀ event ∈ events, log.permits event.kind = true) :
    log.Splits events [] events := of_row [] h

theorem append (h : log.Splits events asked own) (h' : log.Splits events' asked' own') :
    log.Splits (events ++ events') (asked ++ asked') (own ++ own') where
  perm := by
    refine (h.perm.append h'.perm).trans ?_
    rw [List.append_assoc, List.append_assoc]
    refine List.Perm.append_left asked ?_
    rw [← List.append_assoc, ← List.append_assoc]
    exact List.perm_append_comm.append_right own'
  permitted := fun event hevent =>
    (List.mem_append.mp hevent).elim (h.permitted event) (h'.permitted event)

end LogConfig.Splits

/-- An outcome reports exclusions, and if rows are detailed all of them. -/
structure RowOutcome.Reports (log : LogConfig) (o : RowOutcome) : Prop where
  kind : ∀ event ∈ o.events, event.kind = .exclusion
  length : o.events.length = if log.rowDetails then o.excluded else 0

/-- A value that is left out is one exclusion more. -/
theorem RowOutcome.Reports.withValue {log : LogConfig} {o : RowOutcome} (h : o.Reports log)
    (event : String → Event) (hevent : ∀ text, (event text).kind = .exclusion) (value : Value) :
    (o.withValue value event log).Reports log := by
  obtain ⟨hkind, hlength⟩ := h
  constructor
  · intro e he
    rw [withValue_events, List.mem_append] at he
    rcases he with he | he
    · split at he
      · rw [List.mem_singleton.mp he, hevent]
      · cases he
    · exact hkind e he
  · rw [withValue_events, withValue_excluded, List.length_append, hlength]
    cases value.truth?.isNone <;> cases log.rowDetails <;> simp [Nat.add_comm]

namespace RowVisit

variable {v : RowVisit} {context : String} {checks : List Check} {b : Bindings} {scope : Scope}

theorem runChecks_reports : (v.runChecks context checks b).Reports v.config.log := by
  have hnothing : ∀ checks b crash,
      (⟨checks, b, [], 0, [], crash⟩ : RowOutcome).Reports v.config.log :=
    fun _ _ _ => ⟨nofun, (ite_self 0).symm⟩
  induction checks generalizing b with
  | nil => exact hnothing _ _ _
  | cons check rest ih =>
    cases hd : check.disabled with
    | true =>
      rw [runChecks_of_disabled hd]
      exact ⟨ih.kind, ih.length⟩
    | false =>
      cases hv : v.evaluate check.expression (v.rebound context check b) with
      | error crash =>
        rw [runChecks_of_crash hd hv]
        exact hnothing _ _ _
      | ok value =>
        rw [runChecks_of_value hd hv]
        have hvalue := (ih (b := v.rebound context check b)).withValue
          (.checkExcluded v.index check.expression.source) (fun _ => rfl) value
        exact ⟨hvalue.kind, hvalue.length⟩

/-- **A row reports its exclusions**, also when it crashes. -/
theorem run_reports : (v.run scope checks b).Reports v.config.log := by
  cases hc : scope.call with
  | none =>
    rw [run_of_no_call hc]
    exact runChecks_reports
  | some call =>
    cases hv : v.evaluate call.expression b with
    | error crash =>
      rw [run_of_call_crash hc hv]
      exact ⟨nofun, (ite_self 0).symm⟩
    | ok value =>
      rw [run_of_call_value hc hv]
      exact runChecks_reports.withValue (.callExcluded v.index call.function) (fun _ => rfl) value

end RowVisit

namespace Evaluator

variable {e : Evaluator} {p : Pass} {index : Nat} {kind : Event.Kind} {flag : Bool} {event : Event}

theorem mem_reportIf {event' : Event} :
    event' ∈ reportIf flag event ↔ flag = true ∧ event' = event := by
  cases flag <;> simp [reportIf]

theorem count_reportIf :
    Event.count kind (reportIf flag event) = if flag ∧ event.kind = kind then 1 else 0 := by
  cases flag <;> simp [reportIf, Event.count_cons]

/-- A refused row reports that it is refused. -/
theorem count_visit_refused (log : LogConfig) (error : String) :
    Event.count kind (reportIf log.skipped (.rowRefused index error)) =
      if log.permits kind then (Finding.refused index).reports kind else 0 := by
  rw [count_reportIf]
  cases hpermits : log.permits kind <;> cases kind <;> rw [LogConfig.permits] at hpermits <;>
    simp [hpermits, Event.kind, Finding.reports, Finding.isJudged, Finding.excluded]

/-- A judged row reports its exclusions and that it is evaluated. -/
theorem count_visit_judged {log : LogConfig} {o : RowOutcome} (h : o.Reports log) (dirty : Bool) :
    Event.count kind (o.events ++ reportIf log.rowDetails (.rowEvaluated index dirty o.results)) =
      if log.permits kind then (Finding.judged index o.results o.excluded).reports kind else 0 := by
  rw [Event.count_append, Event.count_of_forall h.kind, h.length, count_reportIf]
  cases hpermits : log.permits kind <;> cases kind <;> rw [LogConfig.permits] at hpermits <;>
    simp [hpermits, Event.kind, Finding.reports, Finding.isJudged, Finding.excluded]

/-- **A visit reports what it finds**, and nothing that is not permitted. -/
theorem visit_reports (hp : e.pass = some p) (project : Project) (index : Nat) (row : Row) :
    (∀ event ∈ (e.visit project index row).2.1, e.config.log.permits event.kind = true) ∧
      ∀ f, e.finding? (.visit project index row) = some f →
        ∀ kind, Event.count kind (e.visit project index row).2.1 =
          if e.config.log.permits kind then f.reports kind else 0 := by
  cases hb : e.bound p index row with
  | error fault =>
    rw [visit_refused hp hb]
    constructor
    · intro event hevent
      obtain ⟨hflag, rfl⟩ := mem_reportIf.mp hevent
      exact hflag
    · intro f hf kind
      obtain rfl : Finding.refused index = f := by simpa [finding?, hp, hb] using hf
      exact count_visit_refused _ _
  | ok b =>
    have hreports : (e.outcome project index row b).Reports e.config.log :=
      RowVisit.run_reports (v := e.rowVisit project index row)
    -- An exclusion that is reported is permitted: else there is no event.
    have hpermitted : ∀ event ∈ (e.outcome project index row b).events,
        e.config.log.permits event.kind = true := by
      intro event hevent
      rw [hreports.kind event hevent]
      have hlength := hreports.length
      cases hdetails : e.config.log.rowDetails with
      | true => exact hdetails
      | false =>
        rw [hdetails, if_neg Bool.false_ne_true, List.length_eq_zero_iff] at hlength
        rw [hlength] at hevent
        cases hevent
    cases hc : (e.outcome project index row b).crash with
    | some crash =>
      rw [visit_crashed hp hb hc]
      refine ⟨hpermitted, fun f hf => ?_⟩
      simp [finding?, hp, hb, hc] at hf
    | none =>
      rw [visit_judged hp hb hc]
      constructor
      · intro event hevent
        rcases List.mem_append.mp hevent with hevent | hevent
        · exact hpermitted event hevent
        · obtain ⟨hflag, rfl⟩ := mem_reportIf.mp hevent
          exact hflag
      · intro f hf kind
        obtain rfl := Option.some.inj ((finding?_judged hp hb hc).symm.trans hf)
        exact count_visit_judged hreports _

/-- **What the rows report** is what the tests report about them and, beside
it, what is found. Where something crashes, the tests are not asked about the
rows that are left. -/
theorem showRows_reports (hp : e.pass = some p) (tests : List RowTest) (project : Project)
    (index : Nat) (rows : List Row) :
    ∃ asked own,
      e.config.log.Splits (visitor.showRows tests project index rows e).events asked own ∧
      asked <+: RowTest.reports tests project (rows.zipIdx index) ∧
      ((visitor.showRows tests project index rows e).crash = none →
        asked = RowTest.reports tests project (rows.zipIdx index) ∧
        ∀ kind, Event.count kind own =
          if e.config.log.permits kind then
            Finding.total (·.reports kind)
              (e.findings (visits project (accepted tests project (rows.zipIdx index))))
          else 0) := by
  induction rows generalizing index e p with
  | nil => exact ⟨[], [], .of_tests [], List.nil_prefix, fun _ => ⟨rfl, fun _ => (ite_self 0).symm⟩⟩
  | cons row rest ih =>
    have hshows := showRows_cons hp tests project index row rest
    have hreports : RowTest.reports tests project ((row :: rest).zipIdx index) =
        (RowTest.all project index row tests).1 ++
          RowTest.reports tests project (rest.zipIdx (index + 1)) := rfl
    rw [hreports]
    generalize visitor.showRows tests project index (row :: rest) e = o at hshows ⊢
    cases hshows with
    | @tested tested crash hall =>
      rw [hall]
      refine ⟨tested, [], .of_tests tested, List.prefix_append _ _, fun h => ?_⟩
      cases h
    | @rejected tested hall hpasses =>
      obtain ⟨asked, own, hsplit, hasked, hcount⟩ := ih hp (index + 1)
      rw [hall, RowTest.accepted_of_rejected hpasses]
      refine ⟨tested ++ asked, own, (LogConfig.Splits.of_tests tested).append hsplit,
        (List.prefix_append_right_inj tested).mpr hasked, fun hcrash => ?_⟩
      obtain ⟨rfl, hfound⟩ := hcount hcrash
      exact ⟨rfl, hfound⟩
    | @found tested f p' hall hpasses hf hfinds hnext =>
      obtain ⟨hpermitted, hfinding⟩ := visit_reports hp project index row
      obtain ⟨asked, own, hsplit, hasked, hcount⟩ := ih (e := e.withFinding f p') rfl (index + 1)
      rw [hall, RowTest.accepted_of_passes hpasses, visits_cons]
      refine ⟨tested ++ asked, (e.visit project index row).2.1 ++ own,
        (LogConfig.Splits.of_row tested hpermitted).append hsplit,
        (List.prefix_append_right_inj tested).mpr hasked, fun hcrash => ?_⟩
      obtain ⟨rfl, hfound⟩ := hcount hcrash
      refine ⟨rfl, fun kind => ?_⟩
      rw [findings_of_found hnext hf, Finding.total, Event.count_append, hfound kind,
        hfinding f hf kind]
      change _ + (if e.config.log.permits kind then _ else 0) = _
      split <;> rfl
    | @crashed tested e' crash hall hpasses hnext =>
      obtain ⟨hpermitted, -⟩ := visit_reports hp project index row
      rw [hall]
      refine ⟨tested, (e.visit project index row).2.1, .of_row tested hpermitted,
        List.prefix_append _ _, fun h => ?_⟩
      cases h

/-! ## What the start and the end of a pass report -/

/-- A missing column is reported if the column has a name, and the start is
reported once. -/
theorem count_startEvents (e : Evaluator) (project : Project) (kind : Event.Kind) :
    Event.count kind (e.startEvents project) =
      if e.config.log.permits kind then
        match kind with
        | .columnMissing =>
          if e.scope.columnName ≠ "" ∧ e.scope.columnName ∉ project.columns.names then 1 else 0
        | .passStarted => 1
        | _ => 0
      else 0 := by
  have hmissing : (e.config.log.skipped && (e.contextIndex project).isNone &&
      e.scope.columnName != "") = true ↔ e.config.log.skipped = true ∧
        e.scope.columnName ≠ "" ∧ e.scope.columnName ∉ project.columns.names := by
    rw [Bool.and_eq_true, Bool.and_eq_true, bne_iff_ne, Option.isNone_iff_eq_none, contextIndex,
      Columns.index?_eq_none_iff, and_assoc, and_comm (b := e.scope.columnName ≠ "")]
  rw [startEvents, Event.count_append, count_reportIf, count_reportIf]
  simp only [hmissing]
  cases hpermits : e.config.log.permits kind <;> cases kind <;>
    rw [LogConfig.permits] at hpermits <;> simp [hpermits, Event.kind]

theorem splits_startEvents (e : Evaluator) (project : Project) :
    e.config.log.Splits (e.startEvents project) [] (e.startEvents project) := by
  refine .of_pass fun event h => ?_
  rw [startEvents, List.mem_append, mem_reportIf, mem_reportIf] at h
  rcases h with ⟨hflag, rfl⟩ | ⟨hflag, rfl⟩
  · rw [Bool.and_eq_true, Bool.and_eq_true] at hflag
    exact hflag.1.1
  · exact hflag

/-- What is reported once the rows are over. -/
def endEvents (e : Evaluator) (project : Project) (tests : List RowTest) (accepted : Nat)
    (stats : PassStats) : List Event :=
  .traversalFinished project.name accepted tests.length :: e.finishEvents stats

/-- The end of the rows and of the pass are reported once each. -/
theorem count_endEvents (e : Evaluator) (project : Project) (tests : List RowTest) (accepted : Nat)
    (stats : PassStats) (kind : Event.Kind) :
    Event.count kind (e.endEvents project tests accepted stats) =
      if e.config.log.permits kind then
        match kind with
        | .passFinished => 1
        | .other => 1
        | _ => 0
      else 0 := by
  rw [endEvents, Event.count_cons, finishEvents, count_reportIf]
  cases hpermits : e.config.log.permits kind <;> cases kind <;>
    rw [LogConfig.permits] at hpermits <;> simp [hpermits, Event.kind]

theorem splits_endEvents (e : Evaluator) (project : Project) (tests : List RowTest)
    (accepted : Nat) (stats : PassStats) :
    e.config.log.Splits (e.endEvents project tests accepted stats) []
      (e.endEvents project tests accepted stats) := by
  refine .of_pass fun event h => ?_
  rcases List.mem_cons.mp h with rfl | h
  · rfl
  · obtain ⟨hflag, rfl⟩ := mem_reportIf.mp h
    exact hflag

/-- The end of a pass tells its counters and its measure. -/
theorem eq_of_mem_endEvents {tests : List RowTest} {project : Project} {accepted : Nat}
    {stats : PassStats} (h : event ∈ e.endEvents project tests accepted stats)
    (hkind : event.kind = .passFinished) :
    event = .passFinished stats.evaluated stats.skippedRows stats.dirtyRows stats.excluded
      stats.measure := by
  rcases List.mem_cons.mp h with rfl | h
  · cases hkind
  · exact (mem_reportIf.mp h).2

end Evaluator

namespace Finding

variable {fs : List Finding}

/-- One for each finding of a sort comes to their number. -/
theorem total_ite (sort : Finding → Bool) :
    total (fun f => if sort f then 1 else 0) fs = fs.countP sort := by
  induction fs with
  | nil => rfl
  | cons f rest ih =>
    rw [total, ih, List.countP_cons, Nat.add_comm]

/-- **The findings report what the counters count.** -/
theorem total_reports (c : Combination) (fs : List Finding) (kind : Event.Kind) :
    total (·.reports kind) fs =
      match kind with
      | .rowRefused => (stats c fs).skippedRows
      | .exclusion => (stats c fs).excluded
      | .rowEvaluated => (stats c fs).evaluated
      | _ => 0 := by
  have hnone : total (fun _ => 0) fs = 0 := by
    induction fs with
    | nil => rfl
    | cons f rest ih => rw [total, ih]
  cases kind with
  | rowRefused => exact total_ite (!·.isJudged)
  | exclusion => rfl
  | rowEvaluated => exact total_ite isJudged
  | columnMissing => exact hnone
  | passStarted => exact hnone
  | passFinished => exact hnone
  | other => exact hnone

end Finding

namespace Metric

variable {metric : Metric} {project : Project} {tests : List RowTest} {binder : Binder}
variable {config : EvaluationConfig}

/-- How many events of a kind a pass of a metric reports by its counters: its
start and its end once, a missing column if it has a name, and one event for
each row and each exclusion that is counted. -/
def reported (metric : Metric) (project : Project) (stats : PassStats) : Event.Kind → Nat
  | .columnMissing =>
    if metric.scope.columnName ≠ "" ∧ metric.scope.columnName ∉ project.columns.names then 1 else 0
  | .passStarted => 1
  | .rowRefused => stats.skippedRows
  | .exclusion => stats.excluded
  | .rowEvaluated => stats.evaluated
  | .passFinished => 1
  | .other => 1

/-- **What a pass reports beside its tests** is permitted, and if the pass
returns it is as much as the counters say. -/
theorem evaluate_reports (metric : Metric) (project : Project) (tests : List RowTest)
    (binder : Binder) (config : EvaluationConfig) :
    ∃ asked own,
      config.log.Splits (metric.evaluate project tests binder config).2.1 asked own ∧
      asked <+: RowTest.reports tests project project.rows.zipIdx ∧
      ∀ stats, (metric.evaluate project tests binder config).2.2 = .returned stats →
        asked = RowTest.reports tests project project.rows.zipIdx ∧
        (∀ kind, Event.count kind own =
          if config.log.permits kind then metric.reported project stats kind else 0) ∧
        ∀ event ∈ own, event.kind = .passFinished →
          event = .passFinished stats.evaluated stats.skippedRows stats.dirtyRows stats.excluded
            stats.measure := by
  generalize he : Evaluator.ofMetric metric binder config = e
  have hlog : config.log = e.config.log := by rw [← he]; rfl
  have hscope : metric.scope = e.scope := by rw [← he]; rfl
  obtain ⟨p, hp, -⟩ := Evaluator.start_holds e project
  obtain ⟨asked, own, hsplit, hasked, hcount⟩ :=
    Evaluator.showRows_reports hp tests project 0 project.rows
  have hshown := (e.splits_startEvents project).append hsplit
  rw [List.nil_append] at hshown
  cases hc : (Evaluator.visitor.showRows tests project 0 project.rows (e.start project)).crash with
  | some crash =>
    obtain ⟨metric', hcrashed⟩ := evaluate_of_crash (he ▸ hc)
    rw [hcrashed, hlog, he]
    exact ⟨asked, _, hshown, hasked, nofun⟩
  | none =>
    obtain ⟨metric', stats, hreturned, hcompletes⟩ := evaluate_of_crash_eq_none (he ▸ hc)
    obtain ⟨rfl, hfound⟩ := hcount hc
    have hstats : stats = Finding.stats metric.rule.combination _ := hcompletes.stats
    rw [found, he] at hstats
    -- The rows report what is found, which is what the counters count.
    have hrows : ∀ kind, Event.count kind own =
        if e.config.log.permits kind then
          match kind with
          | .rowRefused => stats.skippedRows
          | .exclusion => stats.excluded
          | .rowEvaluated => stats.evaluated
          | _ => 0
        else 0 := by
      intro kind
      rw [hfound, Finding.total_reports metric.rule.combination, ← hstats]
      rfl
    have hall := hshown.append (e.splits_endEvents project tests
      (Evaluator.visitor.showRows tests project 0 project.rows (e.start project)).accepted stats)
    rw [List.append_nil] at hall
    rw [hreturned, hlog, he]
    refine ⟨_, _, hall, hasked, ?_⟩
    rintro _ ⟨⟩
    refine ⟨rfl, fun kind => ?_, fun event hevent hkind => ?_⟩
    · rw [Event.count_append, Event.count_append, Evaluator.count_startEvents, hrows,
        Evaluator.count_endEvents, ← hscope]
      split
      · cases kind <;> simp [reported]
      · rfl
    · have hstarted : Event.count .passFinished (e.startEvents project) = 0 := by
        rw [Evaluator.count_startEvents, ite_self]
      have hfinished : Event.count .passFinished own = 0 := by rw [hrows, ite_self]
      rcases List.mem_append.mp hevent with hevent | hevent
      · rcases List.mem_append.mp hevent with hevent | hevent
        · exact absurd hkind (Event.kind_ne_of_count_eq_zero hstarted hevent)
        · exact absurd hkind (Event.kind_ne_of_count_eq_zero hfinished hevent)
      · exact Evaluator.eq_of_mem_endEvents hevent hkind

/-- **Reports have no influence and are faithful.** A pass leaves the metric
and ends as it does whatever is reported. Its events are those of the tests
that were asked about rows and, among them, its own, all of a kind that is
permitted. If the pass returns, all tests were asked, and of its own events
there are: one for each evaluated row and for each exclusion if rows are
detailed; one for each skipped row if skips are told, and one for the scope's
column if it has a name that the project does not have; one start and one end
if there is a summary, and the end tells the counters and the measure. -/
theorem reports_are_faithful (metric : Metric) (project : Project) (tests : List RowTest)
    (binder : Binder) (config : EvaluationConfig) :
    (∀ log log' : LogConfig,
      (metric.evaluate project tests binder { config with log }).1 =
          (metric.evaluate project tests binder { config with log := log' }).1 ∧
        (metric.evaluate project tests binder { config with log }).2.2 =
          (metric.evaluate project tests binder { config with log := log' }).2.2) ∧
      ∃ asked own,
        (metric.evaluate project tests binder config).2.1.Perm (asked ++ own) ∧
        asked <+: RowTest.reports tests project project.rows.zipIdx ∧
        (∀ event ∈ own, config.log.permits event.kind = true) ∧
        ∀ stats, (metric.evaluate project tests binder config).2.2 = .returned stats →
          asked = RowTest.reports tests project project.rows.zipIdx ∧
          Event.count .rowEvaluated own =
            (if config.log.rowDetails then stats.evaluated else 0) ∧
          Event.count .exclusion own = (if config.log.rowDetails then stats.excluded else 0) ∧
          Event.count .rowRefused own = (if config.log.skipped then stats.skippedRows else 0) ∧
          Event.count .columnMissing own =
            (if config.log.skipped ∧ metric.scope.columnName ≠ "" ∧
              metric.scope.columnName ∉ project.columns.names then 1 else 0) ∧
          Event.count .passStarted own = (if config.log.passSummary then 1 else 0) ∧
          Event.count .passFinished own = (if config.log.passSummary then 1 else 0) ∧
          ∀ event ∈ own, event.kind = .passFinished →
            event = .passFinished stats.evaluated stats.skippedRows stats.dirtyRows stats.excluded
              stats.measure := by
  constructor
  · intro log log'
    have h := evaluate_logging metric project tests binder { config with log := log' } log
    exact h
  · obtain ⟨asked, own, hsplit, hasked, hreported⟩ :=
      evaluate_reports metric project tests binder config
    refine ⟨asked, own, hsplit.perm, hasked, hsplit.permitted, fun stats hreturned => ?_⟩
    obtain ⟨rfl, hcount, hfinish⟩ := hreported stats hreturned
    have hmissing := hcount .columnMissing
    rw [reported, LogConfig.permits, ← ite_and] at hmissing
    exact ⟨rfl, hcount .rowEvaluated, hcount .exclusion, hcount .rowRefused, hmissing,
      hcount .passStarted, hcount .passFinished, hfinish⟩

end Metric

namespace Flags

/-- The metric of a column that the flags do not have. -/
def lost : ColumnMetric := { metric with column := some "lost" }

/-- A verbose pass reports its start and its end, the column that is missing,
the row that the binder refuses, the two rows it evaluates and the three
results it leaves out; a pass that reports nothing counts the same. -/
theorem lost_reports : ∃ asked own,
    ((Metric.column lost).evaluate project [notLast] binder .verbose).2.1.Perm (asked ++ own) ∧
      ((Metric.column lost).evaluate project [notLast] binder .verbose).2.2 =
        .returned ⟨3, 2, 1, 3, 1⟩ ∧
      ((Metric.column lost).evaluate project [notLast] binder .production).2.2 =
        .returned ⟨3, 2, 1, 3, 1⟩ ∧
      Event.count .rowEvaluated own = 2 ∧ Event.count .exclusion own = 3 ∧
      Event.count .rowRefused own = 1 ∧ Event.count .columnMissing own = 1 ∧
      Event.count .passStarted own = 1 ∧ Event.count .passFinished own = 1 := by
  have hreturned : ((Metric.column lost).evaluate project [notLast] binder .verbose).2.2 =
      .returned ⟨3, 2, 1, 3, 1⟩ := rfl
  obtain ⟨hsame, asked, own, hperm, -, -, hcounts⟩ :=
    Metric.reports_are_faithful (.column lost) project [notLast] binder .verbose
  obtain ⟨-, hevaluated, hexcluded, hskipped, hmissing, hstart, hfinish, -⟩ :=
    hcounts ⟨3, 2, 1, 3, 1⟩ hreturned
  refine ⟨asked, own, hperm, hreturned, ?_, hevaluated, hexcluded, hskipped, ?_, hstart, hfinish⟩
  · exact (hsame LogConfig.production LogConfig.verbose).2.trans hreturned
  · rw [hmissing, if_pos (by decide)]

end Flags

end DataQuality
