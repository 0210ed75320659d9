import DataQuality.Proofs.Pass.Step
/-!
# Visits — an open pass and the rows it is shown

Where no pass is open nothing but a start has an effect (`after_closed`).
Visits of an open pass all go on, or one of them crashes and the pass is
lost (`after_visits`). While they go on the pass holds what they found, one
finding for each row, and each judged row has the account of the rule.
-/

namespace DataQuality

open Visitor (Answer)

namespace Evaluator

variable {e : Evaluator} {p p' : Pass} {project : Project} {calls visits : List Visitor.Call}

theorem isStart_of_isVisit {c : Visitor.Call} (h : c.isVisit = true) : c.isStart = false := by
  cases c with
  | start project => cases h
  | visit project index row => rfl
  | finish project => rfl

/-- **Where no pass is open only a start changes anything.** -/
theorem after_closed (h : e.pass = none) (hcs : ∀ c ∈ calls, c.isStart = false) :
    visitor.after e calls = e := by
  induction calls with
  | nil => rfl
  | cons c rest ih =>
    have hrest := ih fun c hc => hcs c (List.mem_cons_of_mem _ hc)
    cases c with
    | start project => cases hcs _ List.mem_cons_self
    | visit project index row => rw [Visitor.after_cons, step_visit_closed h, hrest]
    | finish project => rw [Visitor.after_cons, step_finish_closed h, hrest]

/-- A pass just started holds no findings. -/
theorem start_holds (e : Evaluator) (project : Project) :
    ∃ p, (e.start project).pass = some p ∧ p.Holds e.rule.combination [] :=
  ⟨_, rfl, rfl, rfl⟩

/-- Checks that findings settled are settled by more of them. -/
theorem checksAfter_cons (e : Evaluator) (f : Finding) (fs : List Finding) (p : Pass) :
    (e.withFinding f p).checksAfter fs = e.checksAfter (f :: fs) := by
  have hrule : (e.withFinding f p).rule.checks = e.checksAfter [f] := rfl
  have hscope : (e.withFinding f p).scope = e.scope := rfl
  rw [checksAfter, hrule, hscope, checksAfter, checksAfter]
  cases hf : f.isJudged <;> cases hfs : fs.any (·.isJudged) <;>
    simp [hf, hfs, Function.comp_def]

/-- What a visit finds goes before what later calls find. -/
theorem findings_of_found {call : Visitor.Call} {f : Finding} {a : Answer}
    (hstep : visitor.step e call = (e.withFinding f p', a)) (hf : e.finding? call = some f) :
    e.findings (call :: calls) = f :: (e.withFinding f p').findings calls := by
  rw [findings, hf, hstep]
  rfl

/-- What visits of the open pass `p` do while none of them crashes, and the
pass `p'` they leave open. -/
structure GoesOn (e : Evaluator) (p : Pass) (visits : List Visitor.Call) (p' : Pass) : Prop where
  pass : (visitor.after e visits).pass = some p'
  holds : ∀ fs, p.Holds e.rule.combination fs →
    p'.Holds e.rule.combination (fs ++ e.findings visits)
  rule : (visitor.after e visits).rule =
    { e.rule with checks := e.checksAfter (e.findings visits) }
  proceeds : ∀ a ∈ visitor.answers e visits, a = .visited .proceed
  indices : (e.findings visits).map Finding.index = visits.filterMap Visitor.Call.index?
  account : ∀ f ∈ e.findings visits, f.isJudged = true →
    f.results.length + f.excluded = e.accountSize

theorem goesOn_nil (hp : e.pass = some p) : e.GoesOn p [] p where
  pass := hp
  holds fs h := by
    rw [findings, List.append_nil]
    exact h
  rule := rfl
  proceeds a ha := absurd ha List.not_mem_nil
  indices := rfl
  account f hf := absurd hf List.not_mem_nil

/-- A visit that finds something goes before visits that go on. -/
theorem GoesOn.cons {index : Nat} {row : Row} {f : Finding} {p'' : Pass}
    (hstep : visitor.step e (.visit project index row) =
      (e.withFinding f p', .visited .proceed))
    (hf : e.finding? (.visit project index row) = some f) (h : e.Finds p index f p')
    (hrest : (e.withFinding f p').GoesOn p' visits p'') :
    e.GoesOn p (.visit project index row :: visits) p'' := by
  have hfound : e.findings (.visit project index row :: visits) =
      f :: (e.withFinding f p').findings visits := findings_of_found hstep hf
  have hsize : (e.withFinding f p').accountSize = e.accountSize := by
    have hsame := step_sameSetup e (.visit project index row)
    rw [hstep] at hsame
    exact hsame.accountSize_eq
  constructor
  · rw [Visitor.after_cons, hstep]
    exact hrest.pass
  · intro fs hfs
    have hh := hrest.holds (fs ++ [f]) (h.holds fs hfs)
    rw [List.append_assoc] at hh
    rw [hfound]
    exact hh
  · rw [Visitor.after_cons, hstep, hfound, hrest.rule, checksAfter_cons]
    rfl
  · intro a ha
    rw [Visitor.answers, hstep] at ha
    rcases List.mem_cons.mp ha with rfl | ha
    · rfl
    · exact hrest.proceeds a ha
  · rw [hfound, List.map_cons, h.index, hrest.indices]
    rfl
  · intro g hg hjudged
    rw [hfound] at hg
    rcases List.mem_cons.mp hg with rfl | hg
    · exact h.account hjudged
    · exact (hrest.account g hg hjudged).trans hsize

/-- **Visits of an open pass** all go on, or one of them crashes and no pass
is open. -/
theorem after_visits (hp : e.pass = some p) (hv : ∀ c ∈ visits, c.isVisit = true) :
    (∃ p', e.GoesOn p visits p') ∨
      ((visitor.after e visits).pass = none ∧
        ∃ crash, Answer.crashed crash ∈ visitor.answers e visits) := by
  -- On the visits: the pass that the first one leaves is shown the others.
  induction visits generalizing e p with
  | nil => exact Or.inl ⟨p, goesOn_nil hp⟩
  | cons call rest ih =>
    have hrest : ∀ c ∈ rest, c.isVisit = true := fun c hc => hv c (List.mem_cons_of_mem _ hc)
    have hcall := hv call List.mem_cons_self
    have hstep := steps e call
    generalize hnext : visitor.step e call = next at hstep
    cases hstep with
    | started => cases hcall
    | unstarted => cases hcall
    | finished => cases hcall
    | outside hnone =>
      rw [hp] at hnone
      cases hnone
    | @found _ _ _ q p' f hq hf h =>
      obtain rfl : p = q := Option.some.inj (hp.symm.trans hq)
      rcases ih (e := e.withFinding f p') rfl hrest with ⟨p'', hgo⟩ | ⟨hnone, crash, hmem⟩
      · exact Or.inl ⟨p'', GoesOn.cons hnext hf h hgo⟩
      · rw [Visitor.after_cons, Visitor.answers, hnext]
        exact Or.inr ⟨hnone, crash, List.mem_cons_of_mem _ hmem⟩
    | @crashed _ _ _ _ crash =>
      rw [Visitor.after_cons, Visitor.answers, hnext]
      refine Or.inr ⟨?_, crash, List.mem_cons_self⟩
      rw [after_closed rfl fun c hc => isStart_of_isVisit (hrest c hc)]
      rfl

end Evaluator

end DataQuality
