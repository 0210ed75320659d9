import DataQuality.Proofs.Pass.Publication
import DataQuality.Proofs.Pass.Traversal
import DataQuality.Proofs.Traversal
/-!
# Encounters — the rows of a pass, met one by one

A pass carries one bindings from check to check and from row to row. Under a
binder that forgets at which column of a row they pointed
(`Binder.ForgetsColumns`), what is carried is told by the rows alone: each
accepted row is met with bindings that no check has a part in
(`Metric.encounters`). A row has then the values of its checks, each under
these bindings pointed at the check's column (`RowVisit.run_of_answers`); a
pass finds what the encounters find (`Metric.found_of_answers`), and returns
just when every evaluation has a value (`Metric.returns_iff`). If the binder
forgets rows too (`Binder.ForgetsRows`), a row is met as if no other one came
before it (`Binder.encounters_eq_map`).
-/

namespace DataQuality

open Visitor (visits visits_cons)
open RowTest (accepted)

/-! ## Binders that forget -/

namespace Binder

variable {binder : Binder} {b b' b'' : Bindings}

/-- Two bindings are of one row: pointed at a column they are the same. -/
def SameRow (binder : Binder) (b b' : Bindings) : Prop :=
  ∀ column cell, binder.rebind b column cell = binder.rebind b' column cell

theorem SameRow.refl (b : Bindings) : binder.SameRow b b := fun _ _ => rfl

/-- A binder that forgets at which column of a row bindings pointed, when it
points them at another column or at another row. -/
structure ForgetsColumns (binder : Binder) : Prop where
  rebind : ∀ b column cell, binder.SameRow (binder.rebind b column cell) b
  bind : ∀ b b', binder.SameRow b b' → ∀ row index column cell,
    binder.bind b row index column cell = binder.bind b' row index column cell
  refused : ∀ b b', binder.SameRow b b' → ∀ row index column cell,
    binder.SameRow (binder.refused b row index column cell)
      (binder.refused b' row index column cell)

theorem plain_forgetsColumns : plain.ForgetsColumns where
  rebind _ _ _ _ _ := rfl
  bind b b' h row index column cell := by
    have hb : b.setColumn column cell = b'.setColumn column cell := h column cell
    have hbound := congrArg (fun b => plain.bind b row index column cell) hb
    exact hbound
  refused _ _ h _ _ _ _ := h

/-- Slots that are filled one by one are written over those there are. -/
theorem foldl_setSlot (entries : List (String × Value)) (b : Bindings) :
    entries.foldl (fun b e => b.setSlot e.1 e.2) b =
      { b with slots := entries.foldl (fun m e => m.insert e.1 e.2) b.slots } := by
  induction entries generalizing b with
  | nil => rfl
  | cons e rest ih => exact ih (b.setSlot e.1 e.2)

/-- Slots are filled beside the column, so it may be set before or after. -/
theorem setColumn_foldl_setSlot (entries : List (String × Value)) (b : Bindings) (column : String)
    (cell : Option Cell) :
    (entries.foldl (fun b e => b.setSlot e.1 e.2) b).setColumn column cell =
      entries.foldl (fun b e => b.setSlot e.1 e.2) (b.setColumn column cell) := by
  rw [foldl_setSlot, foldl_setSlot]
  rfl

theorem screening_forgetsColumns (screen : Screen) : (screening screen).ForgetsColumns where
  rebind _ _ _ _ _ := rfl
  bind b b' h row index column cell := by
    have hfilled : plain.SameRow (screen.slots.entries.foldl (fun b e => b.setSlot e.1 e.2) b)
        (screen.slots.entries.foldl (fun b e => b.setSlot e.1 e.2) b') := by
      intro column cell
      have hb : b.setColumn column cell = b'.setColumn column cell := h column cell
      change Bindings.setColumn _ column cell = Bindings.setColumn _ column cell
      rw [setColumn_foldl_setSlot, setColumn_foldl_setSlot, hb]
    simp only [screening, plain_forgetsColumns.bind _ _ hfilled]
  refused _ _ h _ _ _ _ := h

/-- Two bindings are of one project: pointed at a row they are the same, or
refuse it alike. -/
def SameProject (binder : Binder) (b b' : Bindings) : Prop :=
  ∀ row index column cell,
    binder.bind b row index column cell = binder.bind b' row index column cell

namespace SameProject

theorem refl (b : Bindings) : binder.SameProject b b := fun _ _ _ _ => rfl

theorem trans (h : binder.SameProject b b') (h' : binder.SameProject b' b'') :
    binder.SameProject b b'' :=
  fun row index column cell => (h row index column cell).trans (h' row index column cell)

end SameProject

/-- A binder that forgets at which row bindings pointed, whether or not it
refused it. -/
structure ForgetsRows (binder : Binder) : Prop where
  bind : ∀ b row index column cell b', binder.bind b row index column cell = .ok b' →
    binder.SameProject b' b
  refused : ∀ b row index column cell,
    binder.SameProject (binder.refused b row index column cell) b

theorem plain_forgetsRows : plain.ForgetsRows where
  bind _ _ _ _ _ _ h := by
    cases h
    exact fun _ _ _ _ => rfl
  refused b _ _ _ _ := .refl b

/-- Slots that are filled already are filled with the same values again. -/
theorem screening_forgetsRows (screen : Screen) : (screening screen).ForgetsRows where
  bind b row index column cell b' h := by
    simp only [screening] at h
    split at h
    · cases h
    · split at h
      · cases h
      · cases h
        intro row index column cell
        simp only [screening, foldl_setSlot, plain, Bindings.setRow, Bindings.setColumn,
          OrderedMap.foldl_insert_twice]
  refused b _ _ _ _ := .refl b

end Binder

/-! ## The values of a row -/

theorem Value.filterMap_truth?_cons (value : Value) (rest : List Value) :
    (value :: rest).filterMap truth? = value.truth?.toList ++ rest.filterMap truth? := by
  cases value <;> rfl

namespace RowVisit

variable {v : RowVisit} {context : String} {checks : List Check} {b b' : Bindings} {scope : Scope}

/-- An evaluation answers just when it has a value. -/
theorem answers_iff {e : Expression} :
    e.Answers v.config b ↔ ∃ value, v.evaluate e b = .ok value := by
  constructor
  · intro h
    exact ⟨_, evaluate_of_answers h⟩
  · rintro ⟨value, hvalue⟩
    rw [evaluate] at hvalue
    split at hvalue
    · rename_i hcatch
      exact .inl hcatch
    · exact .inr ⟨value, hvalue⟩

/-- The values of the enabled checks on a bound row, each under the bindings
pointed at its column. -/
def checkValues (v : RowVisit) (context : String) (checks : List Check) (b : Bindings) :
    List Value :=
  (checks.filter (!·.disabled)).map fun c => caught (c.expression.evaluate (v.rebound context c b))

/-- The value of the call on a bound row, if there is one, and then those of
the enabled checks. -/
def values (v : RowVisit) (scope : Scope) (checks : List Check) (b : Bindings) : List Value :=
  scope.call.toList.map (fun call => caught (call.expression.evaluate b)) ++
    v.checkValues scope.columnName checks b

/-- Every evaluation of a bound row has a value: that of the call, if there is
one, and those of the enabled checks. -/
structure Answers (v : RowVisit) (scope : Scope) (checks : List Check) (b : Bindings) : Prop where
  call : ∀ call ∈ scope.call, call.expression.Answers v.config b
  checks : ∀ c ∈ checks, c.disabled = false →
    c.expression.Answers v.config (v.rebound scope.columnName c b)

/-- A check has the same bindings wherever the row's bindings point. -/
theorem rebound_of_sameRow (h : v.binder.SameRow b' b) (context : String) (c : Check) :
    v.rebound context c b' = v.rebound context c b := h _ _

/-- **The checks of a row have the values they have by themselves**, and
leave bindings of the row. -/
theorem runChecks_of_answers (hbinder : v.binder.ForgetsColumns) (h : v.binder.SameRow b' b)
    (hanswers : ∀ c ∈ checks, c.disabled = false →
      c.expression.Answers v.config (v.rebound context c b)) :
    (v.runChecks context checks b').crash = none ∧
      (v.runChecks context checks b').results =
        (v.checkValues context checks b).filterMap Value.truth? ∧
      (v.runChecks context checks b').excluded =
        (v.checkValues context checks b).countP (·.truth?.isNone) ∧
      v.binder.SameRow (v.runChecks context checks b').bindings b := by
  induction checks generalizing b' with
  | nil => exact ⟨rfl, rfl, rfl, h⟩
  | cons check rest ih =>
    have hrest := fun c hc => hanswers c (List.mem_cons_of_mem _ hc)
    cases hd : check.disabled with
    | true =>
      have hvalues : v.checkValues context (check :: rest) b = v.checkValues context rest b := by
        simp [checkValues, hd]
      rw [runChecks_of_disabled hd, hvalues]
      exact ih h hrest
    | false =>
      -- Pointing at the check's column forgets the column before it.
      have hrebound := rebound_of_sameRow h context check
      have hvalues : v.checkValues context (check :: rest) b =
          caught (check.expression.evaluate (v.rebound context check b)) ::
            v.checkValues context rest b := by
        simp [checkValues, hd]
      have hvalue : v.evaluate check.expression (v.rebound context check b') =
          .ok (caught (check.expression.evaluate (v.rebound context check b))) := by
        rw [hrebound]
        exact evaluate_of_answers (hanswers check List.mem_cons_self hd)
      have hleft : v.binder.SameRow (v.rebound context check b') b :=
        hrebound ▸ hbinder.rebind b _ _
      obtain ⟨hcrash, hresults, hexcluded, hlast⟩ := ih hleft hrest
      rw [runChecks_of_value hd hvalue, hvalues, RowOutcome.withCheck_crash,
        RowOutcome.withCheck_results, RowOutcome.withCheck_excluded,
        RowOutcome.withCheck_bindings, RowOutcome.withValue_crash, RowOutcome.withValue_results,
        RowOutcome.withValue_excluded, RowOutcome.withValue_bindings, hresults, hexcluded,
        List.countP_cons, Value.filterMap_truth?_cons]
      exact ⟨hcrash, rfl, rfl, hlast⟩

/-- Where no check crashes, every enabled check has a value. -/
theorem answers_of_runChecks (hbinder : v.binder.ForgetsColumns) (h : v.binder.SameRow b' b)
    (hcrash : (v.runChecks context checks b').crash = none) :
    ∀ c ∈ checks, c.disabled = false →
      c.expression.Answers v.config (v.rebound context c b) := by
  induction checks generalizing b' with
  | nil => exact fun c hc => absurd hc List.not_mem_nil
  | cons check rest ih =>
    rw [List.forall_mem_cons]
    cases hd : check.disabled with
    | true =>
      rw [runChecks_of_disabled hd] at hcrash
      exact ⟨nofun, ih h hcrash⟩
    | false =>
      have hrebound := rebound_of_sameRow h context check
      cases hv : v.evaluate check.expression (v.rebound context check b') with
      | error crash =>
        rw [runChecks_of_crash hd hv] at hcrash
        cases hcrash
      | ok value =>
        rw [runChecks_of_value hd hv, RowOutcome.withCheck_crash, RowOutcome.withValue_crash]
          at hcrash
        rw [hrebound] at hv hcrash
        exact ⟨fun _ => answers_iff.mpr ⟨value, hv⟩, ih (hbinder.rebind b _ _) hcrash⟩

/-- **A bound row has the values of its call and of its checks.** -/
theorem run_of_answers (hbinder : v.binder.ForgetsColumns) (h : v.Answers scope checks b) :
    (v.run scope checks b).crash = none ∧
      (v.run scope checks b).results = (v.values scope checks b).filterMap Value.truth? ∧
      (v.run scope checks b).excluded =
        (v.values scope checks b).countP (·.truth?.isNone) ∧
      v.binder.SameRow (v.run scope checks b).bindings b := by
  obtain ⟨hcrash, hresults, hexcluded, hleft⟩ :=
    runChecks_of_answers hbinder (Binder.SameRow.refl b) h.checks
  cases hc : scope.call with
  | none =>
    have hvalues : v.values scope checks b = v.checkValues scope.columnName checks b := by
      rw [values, hc]
      rfl
    rw [run_of_no_call hc, hvalues]
    exact ⟨hcrash, hresults, hexcluded, hleft⟩
  | some call =>
    have hvalues : v.values scope checks b =
        caught (call.expression.evaluate b) :: v.checkValues scope.columnName checks b := by
      rw [values, hc]
      rfl
    rw [run_of_call_value hc (evaluate_of_answers (h.call call hc)), RowOutcome.withValue_crash,
      RowOutcome.withValue_results, RowOutcome.withValue_excluded, RowOutcome.withValue_bindings,
      hresults, hexcluded, hvalues, List.countP_cons, Value.filterMap_truth?_cons]
    exact ⟨hcrash, rfl, rfl, hleft⟩

/-- **A bound row crashes just when an evaluation has no value.** -/
theorem run_crash_eq_none_iff (hbinder : v.binder.ForgetsColumns) :
    (v.run scope checks b).crash = none ↔ v.Answers scope checks b := by
  refine ⟨fun hcrash => ?_, fun h => (run_of_answers hbinder h).1⟩
  cases hc : scope.call with
  | none =>
    rw [run_of_no_call hc] at hcrash
    refine ⟨fun call hcall => ?_, answers_of_runChecks hbinder (Binder.SameRow.refl b) hcrash⟩
    rw [hc] at hcall
    cases hcall
  | some call =>
    cases hv : v.evaluate call.expression b with
    | error crash =>
      rw [run_of_call_crash hc hv] at hcrash
      cases hcrash
    | ok value =>
      rw [run_of_call_value hc hv, RowOutcome.withValue_crash] at hcrash
      refine ⟨fun call' hcall => ?_, answers_of_runChecks hbinder (Binder.SameRow.refl b) hcrash⟩
      obtain rfl : call = call' := Option.some.inj (hc.symm.trans hcall)
      exact answers_iff.mpr ⟨value, hv⟩

end RowVisit

/-! ## The rows of a pass -/

/-- A row as a pass meets it. -/
structure Encounter where
  row : Row
  index : Nat
  /-- The bindings of the row; a refused row has none. -/
  bindings : Option Bindings

/-- The visit of a row that is met. -/
def Encounter.visit (r : Encounter) (project : Project) (binder : Binder)
    (config : EvaluationConfig) : RowVisit :=
  ⟨project, r.index, r.row, binder, config⟩

namespace Binder

/-- The bindings that a row is met with, if it is not refused, and those that
are carried on to the next row. -/
def meet (binder : Binder) (project : Project) (column : String) (b : Bindings) (r : Row × Nat) :
    Option Bindings × Bindings :=
  match binder.bind b r.1 r.2 column (project.cell? r.1 column) with
  | .error _ => (none, binder.refused b r.1 r.2 column (project.cell? r.1 column))
  | .ok b => (some b, b)

/-- The encounters with some rows. No check has a part in them. -/
def encounters (binder : Binder) (project : Project) (column : String) :
    Bindings → List (Row × Nat) → List Encounter
  | _, [] => []
  | b, r :: rest =>
    ⟨r.1, r.2, (binder.meet project column b r).1⟩ ::
      binder.encounters project column (binder.meet project column b r).2 rest

/-- What is met depends on the project alone. -/
theorem meet_fst_congr {binder : Binder} {project : Project} {column : String} {b b' : Bindings}
    (h : binder.SameProject b b') (r : Row × Nat) :
    (binder.meet project column b r).1 = (binder.meet project column b' r).1 := by
  rw [meet, meet, h]
  split <;> rfl

theorem meet_snd_sameProject {binder : Binder} (hrows : binder.ForgetsRows) (project : Project)
    (column : String) (b : Bindings) (r : Row × Nat) :
    binder.SameProject (binder.meet project column b r).2 b := by
  rw [meet]
  split
  · exact hrows.refused _ _ _ _ _
  · rename_i hbind
    exact hrows.bind _ _ _ _ _ _ hbind

/-- **Rows are met by themselves** where the binder forgets rows: each as if no
other one came before it. -/
theorem encounters_eq_map {binder : Binder} (hrows : binder.ForgetsRows) (project : Project)
    (column : String) {b b' : Bindings} (h : binder.SameProject b b') (rows : List (Row × Nat)) :
    binder.encounters project column b rows =
      rows.map fun r => ⟨r.1, r.2, (binder.meet project column b' r).1⟩ := by
  induction rows generalizing b with
  | nil => rfl
  | cons r rest ih =>
    have hnext : binder.SameProject (binder.meet project column b r).2 b' :=
      (meet_snd_sameProject hrows project column b r).trans h
    rw [encounters, ih hnext, List.map_cons, meet_fst_congr h]

end Binder

/-- A row that is judged by these values: the truth values are results, and
the others are left out. -/
def Finding.ofValues (index : Nat) (values : List Value) : Finding :=
  .judged index (values.filterMap Value.truth?) (values.countP (·.truth?.isNone))

namespace Metric

variable (metric : Metric) (project : Project) (binder : Binder) (config : EvaluationConfig)

/-- The encounters of a pass with the accepted rows. -/
def encounters (metric : Metric) (project : Project) (tests : List RowTest) (binder : Binder) :
    List Encounter :=
  binder.encounters project metric.scope.columnName (binder.create project)
    (accepted tests project project.rows.zipIdx)

/-- Every evaluation of a row that is met has a value. -/
def AnswersAt (r : Encounter) : Prop :=
  ∀ b, r.bindings = some b →
    (r.visit project binder config).Answers metric.scope metric.rule.checks b

/-- What is found of a row that is met. -/
def findingAt (r : Encounter) : Finding :=
  match r.bindings with
  | none => .refused r.index
  | some b =>
    .ofValues r.index ((r.visit project binder config).values metric.scope metric.rule.checks b)

end Metric

namespace Evaluator

variable {metric : Metric} {project : Project} {binder : Binder} {config : EvaluationConfig}
variable {b : Bindings} {e : Evaluator} {p : Pass}

/-- An evaluator of a metric in whose open pass the checks have left nothing:
its bindings are those carried from row to row, wherever they point, and its
checks are those of the metric, or settled. -/
structure Carries (metric : Metric) (project : Project) (binder : Binder)
    (config : EvaluationConfig) (b : Bindings) (e : Evaluator) (p : Pass) : Prop where
  pass : e.pass = some p
  bindings : binder.SameRow p.bindings b
  binder : e.binder = binder
  config : e.config = config
  scope : e.scope = metric.scope
  checks : e.rule.checks = metric.rule.checks ∨
    e.rule.checks = metric.rule.checks.map (Check.settled metric.scope.columnName)
  contextIndex : p.contextIndex = project.columns.index? metric.scope.columnName

namespace Carries

variable (hbinder : binder.ForgetsColumns)
variable (h : e.Carries metric project binder config b p)
include hbinder h

theorem bound_eq (index : Nat) (row : Row) :
    e.bound p index row = binder.bind b row index metric.scope.columnName
      (project.cell? row metric.scope.columnName) := by
  rw [bound, h.binder, h.scope, h.contextIndex]
  exact hbinder.bind _ _ h.bindings _ _ _ _

theorem leftover_sameRow (index : Nat) (row : Row) :
    binder.SameRow (e.leftover p index row)
      (binder.refused b row index metric.scope.columnName
        (project.cell? row metric.scope.columnName)) := by
  rw [leftover, h.binder, h.scope, h.contextIndex]
  exact hbinder.refused _ _ h.bindings _ _ _ _

omit hbinder in
/-- What the checks kept from rows before does not show in a row. -/
theorem outcome_eq (index : Nat) (row : Row) (b : Bindings) :
    ∃ checks, e.outcome project index row b =
      { (RowVisit.mk project index row binder config).run metric.scope metric.rule.checks b with
        checks } := by
  rw [outcome, rowVisit, h.binder, h.config, h.scope]
  rcases h.checks with hchecks | hchecks
  · rw [hchecks]
    exact ⟨_, rfl⟩
  · rw [hchecks, RowVisit.run_settled]
    exact ⟨_, rfl⟩

omit hbinder in
/-- A judged row settles the checks, and later ones leave them settled. -/
theorem checks_withFinding (f : Finding) (p' : Pass) :
    (e.withFinding f p').rule.checks = metric.rule.checks ∨
      (e.withFinding f p').rule.checks =
        metric.rule.checks.map (Check.settled metric.scope.columnName) := by
  change e.checksAfter [f] = _ ∨ e.checksAfter [f] = _
  rw [checksAfter, h.scope]
  split
  · refine .inr ?_
    rcases h.checks with hchecks | hchecks
    · rw [hchecks]
    · rw [hchecks, Check.map_settled_settled]
  · exact h.checks

omit hbinder in
/-- What a visit hands on is carried if its bindings are those of the row. -/
theorem withFinding {b' : Bindings} {p' : Pass} (f : Finding)
    (hindex : p'.contextIndex = p.contextIndex) (hb : binder.SameRow p'.bindings b') :
    (e.withFinding f p').Carries metric project binder config b' p' where
  pass := rfl
  binder := h.binder
  config := h.config
  scope := h.scope
  checks := h.checks_withFinding f p'
  bindings := hb
  contextIndex := hindex.trans h.contextIndex

/-- A bound row crashes just when an evaluation has no value. -/
theorem outcome_crash_eq_none_iff (index : Nat) (row : Row) (b : Bindings) :
    (e.outcome project index row b).crash = none ↔
      (RowVisit.mk project index row binder config).Answers metric.scope metric.rule.checks b := by
  obtain ⟨checks, houtcome⟩ := h.outcome_eq index row b
  rw [houtcome]
  exact RowVisit.run_crash_eq_none_iff hbinder

/-- A bound row whose evaluations have values is judged by them, and leaves
bindings of the row. -/
theorem judgement_of_answers {index : Nat} {row : Row} {b : Bindings}
    (hanswers : (RowVisit.mk project index row binder config).Answers metric.scope
      metric.rule.checks b) :
    e.judgement project index row b =
        metric.findingAt project binder config ⟨row, index, some b⟩ ∧
      binder.SameRow (e.outcome project index row b).bindings b := by
  obtain ⟨checks, houtcome⟩ := h.outcome_eq index row b
  obtain ⟨-, hresults, hexcluded, hleft⟩ := RowVisit.run_of_answers hbinder hanswers
  rw [judgement, houtcome]
  exact ⟨congrArg₂ (Finding.judged index) hresults hexcluded, hleft⟩

/-- **A row is met as it is by itself**: if its evaluations have values it is
judged by them, and what comes next is carried. -/
theorem step_visit_of_answers {r : Row × Nat}
    (hanswers : metric.AnswersAt project binder config
      ⟨r.1, r.2, (binder.meet project metric.scope.columnName b r).1⟩) :
    ∃ f p', f = metric.findingAt project binder config
          ⟨r.1, r.2, (binder.meet project metric.scope.columnName b r).1⟩ ∧
      e.finding? (.visit project r.2 r.1) = some f ∧
      visitor.step e (.visit project r.2 r.1) = (e.withFinding f p', .visited .proceed) ∧
      (e.withFinding f p').Carries metric project binder config
        (binder.meet project metric.scope.columnName b r).2 p' := by
  have hbound := h.bound_eq hbinder r.2 r.1
  rw [Binder.meet] at hanswers ⊢
  cases hbind : binder.bind b r.1 r.2 metric.scope.columnName
      (project.cell? r.1 metric.scope.columnName) with
  | error fault =>
    rw [hbind] at hbound
    refine ⟨.refused r.2, _, rfl, ?_, step_visit_refused h.pass hbound,
      h.withFinding _ rfl (h.leftover_sameRow hbinder r.2 r.1)⟩
    simp [finding?, h.pass, hbound]
  | ok b' =>
    rw [hbind] at hbound hanswers
    have hcrash := (h.outcome_crash_eq_none_iff hbinder r.2 r.1 b').mpr (hanswers b' rfl)
    obtain ⟨hjudgement, hleft⟩ := h.judgement_of_answers hbinder (hanswers b' rfl)
    exact ⟨_, _, hjudgement, finding?_judged h.pass hbound hcrash,
      step_visit_judged h.pass hbound hcrash, h.withFinding _ rfl hleft⟩

/-- **A row that is met crashes** if one of its evaluations has no value. -/
theorem step_visit_of_not_answers {r : Row × Nat}
    (hnot : ¬ metric.AnswersAt project binder config
      ⟨r.1, r.2, (binder.meet project metric.scope.columnName b r).1⟩) :
    ∃ e' crash, visitor.step e (.visit project r.2 r.1) = (e', .crashed crash) := by
  have hbound := h.bound_eq hbinder r.2 r.1
  rw [Binder.meet] at hnot
  cases hbind : binder.bind b r.1 r.2 metric.scope.columnName
      (project.cell? r.1 metric.scope.columnName) with
  | error fault =>
    rw [hbind] at hnot
    exact absurd nofun hnot
  | ok b' =>
    rw [hbind] at hbound hnot
    cases hcrash : (e.outcome project r.2 r.1 b').crash with
    | some crash => exact ⟨_, crash, step_visit_crashed h.pass hbound hcrash⟩
    | none =>
      have hanswers := (h.outcome_crash_eq_none_iff hbinder r.2 r.1 b').mp hcrash
      refine absurd (fun b'' hb => ?_) hnot
      obtain rfl : b' = b'' := Option.some.inj hb
      exact hanswers

/-- **The rows are found to be what the encounters are.** -/
theorem findings_visits {rows : List (Row × Nat)}
    (hanswers : ∀ r ∈ binder.encounters project metric.scope.columnName b rows,
      metric.AnswersAt project binder config r) :
    e.findings (visits project rows) =
      (binder.encounters project metric.scope.columnName b rows).map
        (metric.findingAt project binder config) := by
  -- What is carried is the invariant: each visit hands it to the next.
  induction rows generalizing e p b with
  | nil => rfl
  | cons r rest ih =>
    rw [Binder.encounters, List.forall_mem_cons] at hanswers
    obtain ⟨_, p', rfl, hfinding, hstep, hnext⟩ := h.step_visit_of_answers hbinder hanswers.1
    rw [visits_cons, findings_of_found hstep hfinding, ih hnext hanswers.2, Binder.encounters,
      List.map_cons]

/-- **Rows are shown without a crash** just when every test answers and every
evaluation has a value. -/
theorem showRows_crash_eq_none_iff (tests : List RowTest) (index : Nat) (rows : List Row) :
    (visitor.showRows tests project index rows e).crash = none ↔
      (∀ r ∈ rows.zipIdx index,
        ∃ answer, (RowTest.all project r.2 r.1 tests).2 = .ok answer) ∧
      ∀ r ∈ binder.encounters project metric.scope.columnName b
          (accepted tests project (rows.zipIdx index)),
        metric.AnswersAt project binder config r := by
  induction rows generalizing index e p b with
  | nil => exact ⟨fun _ => ⟨nofun, nofun⟩, fun _ => rfl⟩
  | cons row rest ih =>
    have hshows := showRows_cons h.pass tests project index row rest
    rw [List.zipIdx_cons, List.forall_mem_cons, ← List.zipIdx_cons]
    generalize visitor.showRows tests project index (row :: rest) e = o at hshows ⊢
    cases hshows with
    | tested hall =>
      rw [hall]
      exact ⟨nofun, fun hok => absurd hok.1.1 nofun⟩
    | rejected hall hpasses =>
      rw [hall, RowTest.accepted_of_rejected hpasses]
      have hiff := ih h (index + 1)
      exact ⟨fun hcrash => ⟨⟨⟨_, rfl⟩, (hiff.mp hcrash).1⟩, (hiff.mp hcrash).2⟩,
        fun hok => hiff.mpr ⟨hok.1.2, hok.2⟩⟩
    | found hall hpasses hf hfinds hnext =>
      rw [hall, RowTest.accepted_of_passes hpasses, Binder.encounters, List.forall_mem_cons]
      have hanswers : metric.AnswersAt project binder config
          ⟨row, index, (binder.meet project metric.scope.columnName b (row, index)).1⟩ := by
        by_contra hnot
        obtain ⟨e', crash, hstep⟩ := h.step_visit_of_not_answers hbinder (r := (row, index)) hnot
        cases hnext.symm.trans hstep
      obtain ⟨f', p'', -, -, hstep, hcarries⟩ := h.step_visit_of_answers hbinder hanswers
      obtain ⟨hstate, -⟩ := Prod.mk.inj (hnext.symm.trans hstep)
      rw [← hstate] at hcarries
      have hiff := ih hcarries (index + 1)
      exact ⟨fun hcrash => ⟨⟨⟨_, rfl⟩, (hiff.mp hcrash).1⟩, hanswers, (hiff.mp hcrash).2⟩,
        fun hok => hiff.mpr ⟨hok.1.2, hok.2.2⟩⟩
    | crashed hall hpasses hnext =>
      rw [hall, RowTest.accepted_of_passes hpasses, Binder.encounters, List.forall_mem_cons]
      refine ⟨nofun, fun hok => ?_⟩
      obtain ⟨f, p', -, -, hstep, -⟩ := h.step_visit_of_answers hbinder (r := (row, index)) hok.2.1
      cases hnext.symm.trans hstep

end Carries

/-- A visit changes nothing of what is shown. -/
theorem published_visit (e : Evaluator) (project : Project) (index : Nat) (row : Row) :
    (e.visit project index row).1.published = e.published := by
  have hvisit : (visitor.step e (.visit project index row)).1 = (e.visit project index row).1 :=
    Visitor.step_visit_fst
  rw [← hvisit]
  refine published_step ?_
  rw [Visitor.step]
  intro h
  split at h <;> cases h

end Evaluator

namespace Metric

variable {metric : Metric} {project : Project} {tests : List RowTest} {binder : Binder}
variable {config : EvaluationConfig}

/-- Every test answers on every row, and every evaluation of an accepted row
has a value. -/
structure Responds (metric : Metric) (project : Project) (tests : List RowTest) (binder : Binder)
    (config : EvaluationConfig) : Prop where
  rows : ∀ r ∈ metric.encounters project tests binder, metric.AnswersAt project binder config r
  tests : ∀ r ∈ project.rows.zipIdx,
    ∃ answer, (RowTest.all project r.2 r.1 tests).2 = .ok answer

/-- A pass is started with what the project gives. -/
theorem start_carries (metric : Metric) (project : Project) (binder : Binder)
    (config : EvaluationConfig) :
    ((Evaluator.ofMetric metric binder config).start project).Carries metric project binder config
      (binder.create project)
      ⟨binder.create project, project.columns.index? metric.scope.columnName, OrderedMap.empty,
        {}⟩ :=
  ⟨rfl, .refl _, rfl, rfl, rfl, .inl rfl, rfl⟩

theorem crash_eq_none_iff_responds (hbinder : binder.ForgetsColumns) :
    (Evaluator.visitor.showRows tests project 0 project.rows
        ((Evaluator.ofMetric metric binder config).start project)).crash = none ↔
      metric.Responds project tests binder config := by
  rw [(start_carries metric project binder config).showRows_crash_eq_none_iff hbinder]
  exact ⟨fun h => ⟨h.2, h.1⟩, fun h => ⟨h.tests, h.rows⟩⟩

/-- **What a pass finds is what the encounters are.** -/
theorem found_of_answers (hbinder : binder.ForgetsColumns)
    (hanswers : ∀ r ∈ metric.encounters project tests binder,
      metric.AnswersAt project binder config r) :
    metric.found project tests binder config =
      (metric.encounters project tests binder).map (metric.findingAt project binder config) :=
  (start_carries metric project binder config).findings_visits hbinder hanswers

/-- **A pass in which everything responds returns**, and has judged each
accepted row as it is met. -/
theorem evaluate_of_responds (hbinder : binder.ForgetsColumns)
    (h : metric.Responds project tests binder config) :
    ∃ metric' events stats,
      metric.evaluate project tests binder config = (metric', events, .returned stats) ∧
        metric.Completes project tests
          ((metric.encounters project tests binder).map (metric.findingAt project binder config))
          metric' stats := by
  obtain ⟨metric', stats, hreturned, hcompletes⟩ :=
    evaluate_of_crash_eq_none ((crash_eq_none_iff_responds hbinder).mpr h)
  rw [found_of_answers hbinder h.rows] at hcompletes
  exact ⟨metric', _, stats, hreturned, hcompletes⟩

/-- **A pass in which something does not respond crashes**, and shows what it
showed before. -/
theorem evaluate_of_not_responds (hbinder : binder.ForgetsColumns)
    (h : ¬ metric.Responds project tests binder config) :
    ∃ metric' events crash,
      metric.evaluate project tests binder config = (metric', events, .crashed crash) ∧
        metric'.rule.dirty = metric.rule.dirty ∧ metric'.rule.measure = metric.rule.measure := by
  cases hc : (Evaluator.visitor.showRows tests project 0 project.rows
      ((Evaluator.ofMetric metric binder config).start project)).crash with
  | none => exact absurd ((crash_eq_none_iff_responds hbinder).mp hc) h
  | some crash =>
    have hpublished : (Evaluator.visitor.showRows tests project 0 project.rows
        ((Evaluator.ofMetric metric binder config).start project)).state.published =
          ((Evaluator.ofMetric metric binder config).start project).published :=
      Visitor.showRows_keeps Evaluator.published fun e index row =>
        Evaluator.published_visit e project index row
    rw [evaluate, Evaluator.traverse_of_crash hc]
    refine ⟨_, _, crash, rfl, ?_⟩
    rw [rule_withRule]
    exact ⟨congrArg (·.1) hpublished, congrArg (·.2.1) hpublished⟩

/-- **A pass returns just when everything responds.** -/
theorem returns_iff (hbinder : binder.ForgetsColumns) :
    (∃ stats, (metric.evaluate project tests binder config).2.2 = .returned stats) ↔
      metric.Responds project tests binder config := by
  constructor
  · rintro ⟨stats, hreturned⟩
    by_contra hnot
    obtain ⟨metric', events, crash, hcrashed, -⟩ := evaluate_of_not_responds hbinder hnot
    rw [hcrashed] at hreturned
    cases hreturned
  · intro h
    obtain ⟨metric', events, stats, hreturned, -⟩ := evaluate_of_responds hbinder h
    rw [hreturned]
    exact ⟨stats, rfl⟩

/-- A pass that returns has judged each accepted row as it is met. -/
theorem completes_of_returns {stats : PassStats} (hbinder : binder.ForgetsColumns)
    (h : (metric.evaluate project tests binder config).2.2 = .returned stats) :
    metric.Completes project tests
      ((metric.encounters project tests binder).map (metric.findingAt project binder config))
      (metric.evaluate project tests binder config).1 stats := by
  have hresponds := (returns_iff hbinder).mp ⟨stats, h⟩
  rw [← found_of_answers hbinder hresponds.rows]
  exact completes_of_returned (Prod.ext rfl (Prod.ext rfl h))

end Metric

end DataQuality
