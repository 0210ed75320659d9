import DataQuality.Proofs.Pass.Visits
/-!
# Publication — what an evaluator shows after any calls

A pass is opened by a start and closed by a finish or a crash; while it is
open the evaluator shows what it showed before. So what an evaluator shows
is told by the calls that were made: it is what the visits found between
the last finish that succeeded and the latest start before it
(`published_of_calls`), and nothing that was staged elsewhere.
-/

namespace DataQuality

open Visitor (Answer)

namespace Evaluator

variable {e e₀ : Evaluator} {p : Pass} {fs : List Finding} {call : Visitor.Call}
variable {calls visits : List Visitor.Call}

/-- What an evaluator shows of its passes: the dirty rows and the measure
of its rule, and the counters. -/
def published (e : Evaluator) : DirtyIndex × Option Float × Option PassStats :=
  (e.rule.dirty, e.rule.measure, e.lastStats)

/-- What an evaluator shows once a pass with these findings is finished. -/
def publication (c : Combination) (fs : List Finding) :
    DirtyIndex × Option Float × Option PassStats :=
  (Finding.dirtyIndex c fs, some (Finding.stats c fs).measure, some (Finding.stats c fs))

/-- Some calls leave a pass open that found `fs`: they end in a start and
visits, and none of the visits crashed. -/
def LeavesOpen (e : Evaluator) (calls : List Visitor.Call) (fs : List Finding) : Prop :=
  ∃ before project visits, calls = before ++ .start project :: visits ∧
    (∀ c ∈ visits, c.isVisit = true) ∧
    (∀ a ∈ visitor.answers ((visitor.after e before).start project) visits,
      a = .visited .proceed) ∧
    fs = ((visitor.after e before).start project).findings visits

/-- The last pass that some calls completed found `fs`: it was left open,
then finished, and no later finish succeeded. -/
def LastCompleted (e : Evaluator) (calls : List Visitor.Call) (fs : List Finding) : Prop :=
  ∃ opened last later, calls = opened ++ .finish last :: later ∧ e.LeavesOpen opened fs ∧
    Answer.finished ∉ visitor.answers (visitor.after e (opened ++ [.finish last])) later

/-! ## Open passes -/

/-- What is called after the latest start, while a pass is open, are visits. -/
theorem latest_start (h₀ : e₀.pass = none) (h : (visitor.after e₀ calls).pass ≠ none) :
    ∃ before project visits, calls = before ++ .start project :: visits ∧
      ∀ c ∈ visits, c.isVisit = true := by
  -- From the last call back: what leaves a pass open is a start, or a visit
  -- of a pass that was open before it.
  induction calls using List.reverseRecOn with
  | nil => exact absurd h₀ h
  | append_singleton calls call ih =>
    rw [Visitor.after_concat] at h
    have hstep := steps (visitor.after e₀ calls) call
    generalize visitor.step (visitor.after e₀ calls) call = next at h hstep
    cases hstep with
    | @started project => exact ⟨calls, project, [], rfl, fun c hc => absurd hc List.not_mem_nil⟩
    | outside hnone => exact absurd hnone h
    | @found project index row p _ _ hp =>
      obtain ⟨before, project', visits, rfl, hv⟩ := ih (by rw [hp]; exact Option.some_ne_none p)
      refine ⟨before, project', visits ++ [.visit project index row], by simp, fun c hc => ?_⟩
      rcases List.mem_append.mp hc with hc | hc
      · exact hv c hc
      · rw [List.mem_singleton.mp hc]
        rfl
    | crashed => exact absurd rfl h
    | unstarted hnone => exact absurd hnone h
    | finished => exact absurd rfl h

/-- **An open pass holds what was found since the latest start.** -/
theorem holds_of_leavesOpen (h : e₀.LeavesOpen calls fs) :
    ∃ p, (visitor.after e₀ calls).pass = some p ∧ p.Holds e₀.rule.combination fs := by
  obtain ⟨before, project, visits, rfl, hv, hgo, rfl⟩ := h
  obtain ⟨p, hp, hh⟩ := start_holds (visitor.after e₀ before) project
  rw [Visitor.after_append, Visitor.after_cons, step_start]
  rcases after_visits hp hv with ⟨p', h⟩ | ⟨-, crash, hmem⟩
  · have hh' := h.holds [] hh
    rw [List.nil_append] at hh'
    exact ⟨p', h.pass, (after_sameSetup e₀ before).combination ▸ hh'⟩
  · cases hgo _ hmem

theorem leavesOpen_of_open (h₀ : e₀.pass = none) (h : (visitor.after e₀ calls).pass ≠ none) :
    ∃ fs, e₀.LeavesOpen calls fs := by
  obtain ⟨before, project, visits, rfl, hv⟩ := latest_start h₀ h
  refine ⟨_, before, project, visits, rfl, hv, ?_, rfl⟩
  obtain ⟨p, hp, hh⟩ := start_holds (visitor.after e₀ before) project
  rw [Visitor.after_append, Visitor.after_cons, step_start] at h
  rcases after_visits hp hv with ⟨p', h'⟩ | ⟨hnone, -⟩
  · exact h'.proceeds
  · exact absurd hnone h

/-- A pass is open where the calls left one open. -/
theorem pass_isSome_iff (h₀ : e₀.pass = none) :
    (visitor.after e₀ calls).pass.isSome ↔ ∃ fs, e₀.LeavesOpen calls fs := by
  constructor
  · intro h
    exact leavesOpen_of_open h₀ (Option.isSome_iff_ne_none.mp h)
  · rintro ⟨fs, h⟩
    obtain ⟨p, hp, -⟩ := holds_of_leavesOpen h
    rw [hp]
    rfl

/-! ## What is shown -/

/-- **Only a finish that succeeds changes what is shown.** -/
theorem published_step (h : (visitor.step e call).2 ≠ .finished) :
    (visitor.step e call).1.published = e.published := by
  have hstep := steps e call
  generalize visitor.step e call = next at h hstep ⊢
  cases hstep with
  | finished => exact absurd rfl h
  | _ => rfl

/-- A call that crashes leaves no pass open. -/
theorem pass_of_crashed {crash : Crash} (h : (visitor.step e call).2 = .crashed crash) :
    (visitor.step e call).1.pass = none := by
  have hstep := steps e call
  generalize visitor.step e call = next at h hstep ⊢
  cases hstep with
  | crashed => rfl
  | _ => cases h

/-- **A finish that succeeds shows what the pass it closes found.** -/
theorem published_finished (h₀ : e₀.pass = none)
    (h : (visitor.step (visitor.after e₀ calls) call).2 = .finished) :
    (∃ project, call = .finish project) ∧ ∃ fs, e₀.LeavesOpen calls fs ∧
      (visitor.step (visitor.after e₀ calls) call).1.published =
        publication e₀.rule.combination fs := by
  have hstep := steps (visitor.after e₀ calls) call
  generalize visitor.step (visitor.after e₀ calls) call = next at h hstep ⊢
  cases hstep with
  | @finished project p hp =>
    have hne : (visitor.after e₀ calls).pass ≠ none := by rw [hp]; exact Option.some_ne_none p
    obtain ⟨fs, hopen⟩ := leavesOpen_of_open h₀ hne
    obtain ⟨p', hp', hh⟩ := holds_of_leavesOpen hopen
    obtain rfl : p = p' := Option.some.inj (hp.symm.trans hp')
    refine ⟨⟨project, rfl⟩, fs, hopen, ?_⟩
    rw [publication, ← hh.pending, ← hh.stats]
    rfl
  | _ => cases h

/-- **What is shown after any calls**: what the last completed pass found,
and before the first one what was shown at the beginning. -/
theorem published_of_calls (h₀ : e₀.pass = none) (calls : List Visitor.Call) :
    (Answer.finished ∉ visitor.answers e₀ calls ∧
        (visitor.after e₀ calls).published = e₀.published) ∨
      ∃ fs, e₀.LastCompleted calls fs ∧
        (visitor.after e₀ calls).published = publication e₀.rule.combination fs := by
  -- The last call either shows what it completed or shows what was shown.
  induction calls using List.reverseRecOn with
  | nil => exact Or.inl ⟨List.not_mem_nil, rfl⟩
  | append_singleton calls call ih =>
    rw [Visitor.after_concat]
    by_cases ha : (visitor.step (visitor.after e₀ calls) call).2 = .finished
    · obtain ⟨⟨project, rfl⟩, fs, hopen, hshown⟩ := published_finished h₀ ha
      exact Or.inr ⟨fs, ⟨calls, project, [], rfl, hopen, List.not_mem_nil⟩, hshown⟩
    · rw [published_step ha]
      have hone : ∀ e : Evaluator, visitor.answers e [call] = [(visitor.step e call).2] :=
        fun _ => rfl
      rcases ih with ⟨hnot, hshown⟩ | ⟨fs, ⟨opened, last, later, rfl, hopen, hnot⟩, hshown⟩
      · refine Or.inl ⟨?_, hshown⟩
        rw [Visitor.answers_append, hone, List.mem_append, List.mem_singleton]
        rintro (hmem | hlast)
        · exact hnot hmem
        · exact ha hlast.symm
      · refine Or.inr ⟨fs, ⟨opened, last, later ++ [call], by simp, hopen, ?_⟩, hshown⟩
        rw [Visitor.answers_append, hone, List.mem_append, List.mem_singleton,
          ← Visitor.after_append]
        rintro (hmem | hlast)
        · exact hnot hmem
        · exact ha (by rw [hlast]; simp)

/-- **Sessions of one evaluator**, whatever is called and in whatever order.
What is shown changes only when a finish succeeds, and then it is what the
visits found since the latest start. A pass is open where the calls left
one open; where none is open, a finish fails, a visit asks to stop, and
neither changes anything. After a crash that stays so until the next
start. What is shown is always that of the last completed pass. -/
theorem session_shows_completed_passes (metric : Metric) (binder : Binder)
    (config : EvaluationConfig) (calls : List Visitor.Call) (call : Visitor.Call) :
    let e₀ := ofMetric metric binder config
    let e := visitor.after e₀ calls
    let next := visitor.step e call
    let notStarted := Answer.failed (.internal "Evaluation pass was not started")
    (next.2 ≠ .finished → next.1.published = e.published) ∧
      (next.2 = .finished → (∃ project, call = .finish project) ∧
        ∃ fs, e₀.LeavesOpen calls fs ∧
          next.1.published = publication metric.rule.combination fs) ∧
      (e.pass.isSome ↔ ∃ fs, e₀.LeavesOpen calls fs) ∧
      (e.pass.isSome → ∀ project, (visitor.step e (.finish project)).2 = .finished) ∧
      (e.pass = none →
        (∀ project, visitor.step e (.finish project) = (e, notStarted)) ∧
          ∀ project index row, visitor.step e (.visit project index row) = (e, .visited .stop)) ∧
      (∀ crash, next.2 = .crashed crash → ∀ later, (∀ c ∈ later, c.isStart = false) →
        visitor.after next.1 later = next.1 ∧
          ∀ project, visitor.step next.1 (.finish project) = (next.1, notStarted)) ∧
      ((Answer.finished ∉ visitor.answers e₀ calls ∧
          e.published = (metric.rule.dirty, metric.rule.measure, none)) ∨
        ∃ fs, e₀.LastCompleted calls fs ∧
          e.published = publication metric.rule.combination fs) := by
  intro e₀ e next notStarted
  have h₀ : e₀.pass = none := rfl
  refine ⟨published_step, published_finished h₀, pass_isSome_iff h₀, ?_, ?_, ?_,
    published_of_calls h₀ calls⟩
  · intro hopen project
    obtain ⟨p, hp⟩ := Option.isSome_iff_exists.mp hopen
    rw [step_finish_open hp]
  · intro hnone
    exact ⟨fun project => step_finish_closed hnone,
      fun project index row => step_visit_closed hnone⟩
  · intro crash hcrash later hlater
    have hnone : next.1.pass = none := pass_of_crashed hcrash
    exact ⟨after_closed hnone hlater, fun project => step_finish_closed hnone⟩

end Evaluator

end DataQuality
