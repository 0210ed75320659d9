import DataQuality.Proofs.Session
import DataQuality.Proofs.Simulation
import DataQuality.Recorder
/-!
# Traversals — the calls they make of a visitor

What a traversal asks of a visitor is seen by a visitor that writes down
every call it gets (`recorded`). It is a session: the start, then the
accepted rows up to the first one after which the visitor wants no more
(`shown`), then the finish (`traversal_calls`).
-/

namespace DataQuality

open RowTest (accepted passes)

namespace RowTest

variable {tests : List RowTest} {project : Project} {index : Nat} {row : Row}

/-- Where each test answers, the tests together answer whether the row
passes them all. -/
theorem all_eq_passes (h : ∀ test ∈ tests, ∃ answer, (test project index row).2 = .ok answer) :
    (all project index row tests).2 = .ok (passes tests project index row) := by
  cases hall : (all project index row tests).2 with
  | ok answer => rw [all_answer hall]
  | error crash =>
    obtain ⟨test, htest, hcrash⟩ := exists_test_of_all hall
    obtain ⟨answer, hanswer⟩ := h test htest
    rw [hanswer] at hcrash
    cases hcrash

/-- A row that the tests turn down is not accepted. -/
theorem accepted_of_rejected (h : passes tests project index row = false) (rest : List Row) :
    accepted tests project ((row :: rest).zipIdx index) =
      accepted tests project (rest.zipIdx (index + 1)) := by
  rw [List.zipIdx_cons, accepted, List.filter_cons, h]
  rfl

/-- A row that passes the tests is accepted before the others. -/
theorem accepted_of_passes (h : passes tests project index row = true) (rest : List Row) :
    accepted tests project ((row :: rest).zipIdx index) =
      (row, index) :: accepted tests project (rest.zipIdx (index + 1)) := by
  rw [List.zipIdx_cons, accepted, List.filter_cons, h]
  rfl

end RowTest

namespace Visitor

variable {σ : Type} {v : Visitor σ} {s : σ} {project : Project} {tests : List RowTest}
variable {index n : Nat} {row : Row} {rows : List Row} {r : Row × Nat}

/-! ## Calls that are written down -/

/-- What a call comes to, with the call written down after earlier ones. -/
def noting {ρ : Type} (call : Call) (calls : List Call) (o : σ × List Event × ρ) :
    (σ × List Call) × List Event × ρ :=
  ((o.1, calls ++ [call]), o.2)

/-- The visitor that writes down every call it gets. -/
def recorded (v : Visitor σ) : Visitor (σ × List Call) where
  start s project := noting (.start project) s.2 (v.start s.1 project)
  visit s project index row := noting (.visit project index row) s.2 (v.visit s.1 project index row)
  finish s project := noting (.finish project) s.2 (v.finish s.1 project)

/-- Writing down changes nothing of what a visitor does. -/
theorem mirrors_recorded (v : Visitor σ) :
    Mirrors (fun s (t : σ × List Call) => t.1 = s) (fun _ => true) v v.recorded where
  start := by
    rintro s ⟨t, calls⟩ rfl project
    exact ⟨rfl, rfl, rfl⟩
  visit := by
    rintro s ⟨t, calls⟩ rfl project index row
    exact ⟨rfl, rfl, rfl⟩
  finish := by
    rintro s ⟨t, calls⟩ rfl project
    exact ⟨rfl, rfl, rfl⟩

theorem step_recorded (call : Call) (s : σ × List Call) :
    v.recorded.step s call = (((v.step s.1 call).1, s.2 ++ [call]), (v.step s.1 call).2) := by
  cases call with
  | start project =>
    have h : v.recorded.start s project = noting (.start project) s.2 (v.start s.1 project) := rfl
    rw [step, step, h]
    obtain ⟨t, events, fault | _⟩ := v.start s.1 project <;> rfl
  | visit project index row =>
    have h : v.recorded.visit s project index row =
        noting (.visit project index row) s.2 (v.visit s.1 project index row) := rfl
    rw [step, step, h]
    obtain ⟨t, events, crash | control⟩ := v.visit s.1 project index row <;> rfl
  | finish project =>
    have h : v.recorded.finish s project = noting (.finish project) s.2 (v.finish s.1 project) := rfl
    rw [step, step, h]
    obtain ⟨t, events, fault | _⟩ := v.finish s.1 project <;> rfl

/-- The start is the first call that is written down. -/
theorem start_recorded {s₁ : σ} {o : List Event × Except Fault Unit}
    (hstart : v.start s project = (s₁, o)) :
    v.recorded.start (s, []) project = ((s₁, [.start project]), o) := by
  change noting (.start project) [] (v.start s project) = _
  rw [hstart]
  rfl

/-- **What is written down are the calls.** -/
theorem after_recorded (calls : List Call) (s : σ × List Call) :
    v.recorded.after s calls = (v.after s.1 calls, s.2 ++ calls) := by
  induction calls generalizing s with
  | nil => exact Prod.ext rfl (List.append_nil s.2).symm
  | cons call rest ih =>
    rw [after_cons, after_cons, ih, step_recorded]
    exact Prod.ext rfl (List.append_assoc s.2 [call] rest)

theorem answers_recorded (calls : List Call) (s : σ × List Call) :
    v.recorded.answers s calls = v.answers s.1 calls := by
  induction calls generalizing s with
  | nil => rfl
  | cons call rest ih => rw [answers, answers, ih, step_recorded]

/-- A traversal goes the same way while calls are written down. -/
theorem traverse_recorded (v : Visitor σ) (tests : List RowTest) (project : Project) (s : σ)
    (calls : List Call) :
    v.traverse tests project s =
      ((v.recorded.traverse tests project (s, calls)).1.1,
        (v.recorded.traverse tests project (s, calls)).2) := by
  have h := (mirrors_recorded v).traverse (s := s) (t := (s, calls)) rfl tests project
  exact Prod.ext h.state.symm h.snd_eq.symm

/-! ## Rows that are shown -/

/-- Of some rows those that a visitor is shown: all up to the first one after
which it does not go on, and that one. -/
def shown (v : Visitor σ) (project : Project) : List (Row × Nat) → σ → List (Row × Nat)
  | [], _ => []
  | r :: rest, s =>
    r ::
      match v.visit s project r.2 r.1 with
      | (t, _, .ok .proceed) => v.shown project rest t
      | _ => []

theorem shown_prefix (v : Visitor σ) (project : Project) (rows : List (Row × Nat)) (s : σ) :
    v.shown project rows s <+: rows := by
  induction rows generalizing s with
  | nil => exact List.prefix_refl []
  | cons r rest ih =>
    rw [shown, List.cons_prefix_cons]
    refine ⟨rfl, ?_⟩
    split
    · exact ih _
    · exact List.nil_prefix

theorem shown_recorded (rows : List (Row × Nat)) (s : σ × List Call) :
    v.recorded.shown project rows s = v.shown project rows s.1 := by
  induction rows generalizing s with
  | nil => rfl
  | cons r rest ih =>
    have h : v.recorded.visit s project r.2 r.1 =
        noting (.visit project r.2 r.1) s.2 (v.visit s.1 project r.2 r.1) := rfl
    rw [shown, shown, h]
    obtain ⟨t, events, crash | control⟩ := v.visit s.1 project r.2 r.1
    · rfl
    · cases control with
      | stop => rfl
      | proceed => exact congrArg (List.cons r) (ih _)

/-- **A row is shown after rows that went on**: just when the visitor wanted
to go on after all rows before it. -/
theorem getElem?_shown {rows : List (Row × Nat)} : (v.shown project rows s)[n]? = some r ↔
    rows[n]? = some r ∧
      ∀ a ∈ v.answers s (visits project (rows.take n)), a = .visited .proceed := by
  induction rows generalizing s n with
  | nil => simp [shown]
  | cons r' rest ih =>
    rw [shown]
    cases n with
    | zero => simp [visits, answers]
    | succ n =>
      rw [List.getElem?_cons_succ, List.getElem?_cons_succ, List.take_succ_cons, visits_cons,
        answers, List.forall_mem_cons, step]
      obtain ⟨t, events, crash | control⟩ := v.visit s project r'.2 r'.1
      · simp
      · cases control with
        | stop => simp
        | proceed => simpa using ih

/-- **A traversal is a session**: where the tests answer, the visitor is
shown the accepted rows up to the first one after which it does not go on,
and a crash is that of a visit. -/
theorem showRows_of_answers (htests : ∀ r ∈ rows.zipIdx index, ∀ test ∈ tests,
      ∃ answer, (test project r.2 r.1).2 = .ok answer) :
    (v.showRows tests project index rows s).state =
        v.after s (visits project
          (v.shown project (accepted tests project (rows.zipIdx index)) s)) ∧
      ∀ crash, (v.showRows tests project index rows s).crash = some crash ↔
        .crashed crash ∈ v.answers s (visits project
          (v.shown project (accepted tests project (rows.zipIdx index)) s)) := by
  induction rows generalizing index s with
  | nil =>
    refine ⟨rfl, fun crash => ⟨fun h => ?_, fun h => ?_⟩⟩
    · cases h
    · cases h
  | cons row rest ih =>
    rw [List.zipIdx_cons, List.forall_mem_cons] at htests
    obtain ⟨hrow, hrest⟩ := htests
    have hall := RowTest.all_eq_passes hrow
    rw [showRows]
    generalize RowTest.all project index row tests = o at hall
    obtain ⟨tested, answer⟩ := o
    obtain rfl : answer = _ := hall
    cases hpasses : passes tests project index row with
    | false =>
      rw [RowTest.accepted_of_rejected hpasses]
      exact ih hrest
    | true =>
      rw [RowTest.accepted_of_passes hpasses, shown]
      rw [visits_cons, after_cons, answers, step]
      obtain ⟨t, more, crash | control⟩ := v.visit s project index row
      · exact ⟨rfl, fun crash' => by simp [visits, answers, eq_comm]⟩
      · cases control with
        | stop => exact ⟨rfl, fun crash => by simp [visits, answers]⟩
        | proceed =>
          obtain ⟨hstate, hcrash⟩ := ih (s := t) hrest
          refine ⟨hstate, fun crash => ?_⟩
          rw [List.mem_cons, ← hcrash crash]
          refine ⟨.inr, fun h => h.resolve_left fun hcrashed => ?_⟩
          cases hcrashed

/-- **A traversal is told by the accepted rows.** Where other tests answer as
well and accept the same rows, it leaves the visitor the same and ends the
same way. -/
theorem traverse_congr {others : List RowTest}
    (htests : ∀ r ∈ project.rows.zipIdx, ∀ test ∈ tests,
      ∃ answer, (test project r.2 r.1).2 = .ok answer)
    (hothers : ∀ r ∈ project.rows.zipIdx, ∀ test ∈ others,
      ∃ answer, (test project r.2 r.1).2 = .ok answer)
    (h : accepted others project project.rows.zipIdx =
      accepted tests project project.rows.zipIdx) :
    (v.traverse others project s).1 = (v.traverse tests project s).1 ∧
      (v.traverse others project s).2.2 = (v.traverse tests project s).2.2 := by
  rw [traverse, traverse]
  obtain ⟨s₁, started, fault | _⟩ := v.start s project
  · exact ⟨rfl, rfl⟩
  · obtain ⟨hstate, hcrash⟩ := showRows_of_answers (v := v) (s := s₁) htests
    obtain ⟨hstate', hcrash'⟩ := showRows_of_answers (v := v) (s := s₁) hothers
    rw [h] at hstate' hcrash'
    have hstates : (v.showRows others project 0 project.rows s₁).state =
        (v.showRows tests project 0 project.rows s₁).state := hstate'.trans hstate.symm
    have hcrashes : (v.showRows others project 0 project.rows s₁).crash =
        (v.showRows tests project 0 project.rows s₁).crash :=
      Option.ext fun crash => (hcrash' crash).trans (hcrash crash).symm
    simp only [hstates, hcrashes]
    cases (v.showRows tests project 0 project.rows s₁).crash <;> exact ⟨rfl, rfl⟩

/-- What no visit changes, the rows of a traversal leave as it is. -/
theorem showRows_keeps {α : Type} (f : σ → α)
    (h : ∀ s index row, f (v.visit s project index row).1 = f s) :
    f (v.showRows tests project index rows s).state = f s := by
  induction rows generalizing index s with
  | nil => rfl
  | cons row rest ih =>
    rw [showRows]
    cases RowTest.all project index row tests with
    | mk tested answer =>
      cases answer with
      | error crash => rfl
      | ok answer =>
        cases answer with
        | false => exact ih
        | true =>
          have hvisit := h s index row
          generalize v.visit s project index row = o at hvisit
          obtain ⟨t, more, crash | control⟩ := o
          · exact hvisit
          · cases control with
            | stop => exact hvisit
            | proceed => exact ih.trans hvisit

/-- The visitor after a call that starts it is the one the start leaves. -/
theorem step_start_fst : (v.step s (.start project)).1 = (v.start s project).1 := by
  rw [step]
  split <;> rename_i hv <;> rw [hv]

/-- The visitor after a call that finishes it is the one the finish leaves. -/
theorem step_finish_fst : (v.step s (.finish project)).1 = (v.finish s project).1 := by
  rw [step]
  split <;> rename_i hv <;> rw [hv]

/-- Showing rows is a session of visits. -/
theorem exists_session_showRows (v : Visitor σ) (tests : List RowTest) (project : Project)
    (index : Nat) (rows : List Row) (s : σ) :
    ∃ calls, (v.showRows tests project index rows s).state = v.after s calls := by
  induction rows generalizing index s with
  | nil => exact ⟨[], rfl⟩
  | cons row rest ih =>
    rw [showRows]
    cases RowTest.all project index row tests with
    | mk tested answer =>
      cases answer with
      | error crash => exact ⟨[], rfl⟩
      | ok answer =>
        cases answer with
        | false => exact ih _ s
        | true =>
          have hstep : (v.step s (.visit project index row)).1 = (v.visit s project index row).1 :=
            step_visit_fst
          generalize v.visit s project index row = o at hstep
          obtain ⟨t, more, crash | control⟩ := o
          · exact ⟨[.visit project index row], hstep.symm⟩
          · cases control with
            | stop => exact ⟨[.visit project index row], hstep.symm⟩
            | proceed =>
              obtain ⟨calls, hcalls⟩ := ih (index + 1) t
              refine ⟨.visit project index row :: calls, ?_⟩
              rw [after_cons, hstep]
              exact hcalls

/-- **A traversal is a session**, however it ends. -/
theorem exists_session_traverse (v : Visitor σ) (tests : List RowTest) (project : Project)
    (s : σ) : ∃ calls, (v.traverse tests project s).1 = v.after s calls := by
  have hstart : (v.step s (.start project)).1 = (v.start s project).1 := step_start_fst
  rw [traverse]
  generalize v.start s project = o at hstart
  obtain ⟨s₁, started, fault | _⟩ := o
  · exact ⟨[.start project], hstart.symm⟩
  · obtain ⟨calls, hcalls⟩ := v.exists_session_showRows tests project 0 project.rows s₁
    have hshown : v.after s (.start project :: calls) =
        (v.showRows tests project 0 project.rows s₁).state := by
      rw [after_cons, hstart, hcalls]
    cases hcrash : (v.showRows tests project 0 project.rows s₁).crash with
    | some crash => exact ⟨.start project :: calls, by simp only [hcrash, hshown]⟩
    | none =>
      refine ⟨.start project :: calls ++ [.finish project], ?_⟩
      rw [after_concat, hshown, step_finish_fst]
      simp only [hcrash]

section Started

variable {s₁ : σ} {started : List Event}
variable (hstart : v.start s project = (s₁, started, .ok ()))
variable (htests : ∀ r ∈ project.rows.zipIdx, ∀ test ∈ tests,
  ∃ answer, (test project r.2 r.1).2 = .ok answer)
include hstart htests

/-- A traversal without a crash ends as the finish ends. -/
theorem traverse_of_not_crashed
    (h : ∀ crash, .crashed crash ∉ v.answers s₁
      (visits project (v.shown project (accepted tests project project.rows.zipIdx) s₁))) :
    ∃ events, v.traverse tests project s =
      ((v.finish (v.after s₁ (visits project
          (v.shown project (accepted tests project project.rows.zipIdx) s₁))) project).1, events,
        Ending.ofExcept (v.finish (v.after s₁ (visits project
          (v.shown project (accepted tests project project.rows.zipIdx) s₁))) project).2.2) := by
  obtain ⟨hstate, hcrash⟩ := showRows_of_answers (v := v) (s := s₁) htests
  have hnone : (v.showRows tests project 0 project.rows s₁).crash = none :=
    Option.eq_none_iff_forall_ne_some.mpr fun crash hc => h crash ((hcrash crash).mp hc)
  rw [traverse, hstart]
  simp only [hnone, hstate]
  exact ⟨_, rfl⟩

/-- A crash of a visit ends a traversal. -/
theorem traverse_of_crashed {crash : Crash}
    (h : .crashed crash ∈ v.answers s₁
      (visits project (v.shown project (accepted tests project project.rows.zipIdx) s₁))) :
    ∃ events, v.traverse tests project s =
      (v.after s₁ (visits project
        (v.shown project (accepted tests project project.rows.zipIdx) s₁)), events,
          .crashed crash) := by
  obtain ⟨hstate, hcrash⟩ := showRows_of_answers (v := v) (s := s₁) htests
  rw [traverse, hstart]
  simp only [(hcrash crash).mpr h, hstate]
  exact ⟨_, rfl⟩

/-- The calls of a traversal without a crash. -/
theorem traverse_recorded_of_not_crashed
    (h : ∀ crash, .crashed crash ∉ v.answers s₁
      (visits project (v.shown project (accepted tests project project.rows.zipIdx) s₁))) :
    ∃ calls events, v.recorded.traverse tests project (s, []) =
        ((v.after s calls, calls), events, Ending.ofExcept (v.finish (v.after s₁ (visits project
          (v.shown project (accepted tests project project.rows.zipIdx) s₁))) project).2.2) ∧
      calls = .start project :: visits project
        (v.shown project (accepted tests project project.rows.zipIdx) s₁) ++ [.finish project] := by
  have hs₁ : (v.step s (.start project)).1 = s₁ := by rw [step_start_fst, hstart]
  obtain ⟨events, htraverse⟩ := traverse_of_not_crashed (start_recorded hstart) htests (by
    rw [shown_recorded, answers_recorded]
    exact h)
  refine ⟨_, events, ?_, rfl⟩
  rw [htraverse, shown_recorded, after_recorded, after_concat, step_finish_fst, after_cons, hs₁]
  rfl

/-- The calls of a traversal that a visit ends by a crash. -/
theorem traverse_recorded_of_crashed {crash : Crash}
    (h : .crashed crash ∈ v.answers s₁
      (visits project (v.shown project (accepted tests project project.rows.zipIdx) s₁))) :
    ∃ calls events, v.recorded.traverse tests project (s, []) =
        ((v.after s calls, calls), events, .crashed crash) ∧
      calls = .start project :: visits project
        (v.shown project (accepted tests project project.rows.zipIdx) s₁) := by
  have hs₁ : (v.step s (.start project)).1 = s₁ := by rw [step_start_fst, hstart]
  obtain ⟨events, htraverse⟩ := traverse_of_crashed (start_recorded hstart) htests (by
    rw [shown_recorded, answers_recorded]
    exact h)
  refine ⟨_, events, ?_, rfl⟩
  rw [htraverse, shown_recorded, after_recorded, after_cons, hs₁]
  rfl

end Started

/-- The calls of a traversal whose start fails. -/
theorem traverse_recorded_of_failed {s₁ : σ} {started : List Event} {fault : Fault}
    (tests : List RowTest) (hstart : v.start s project = (s₁, started, .error fault)) :
    v.recorded.traverse tests project (s, []) =
      ((v.after s [.start project], [.start project]), started, .failed fault) := by
  have hs₁ : (v.step s (.start project)).1 = s₁ := by rw [step_start_fst, hstart]
  rw [traverse, start_recorded hstart, after_cons, hs₁]
  rfl

/-- **The calls of a traversal.** Where the tests answer, a traversal makes
these calls of a visitor, whatever the visitor is, and it does the same
whether or not they are written down. First the visitor is started, and if
that fails, with this fault, nothing else is called. Else it is shown
accepted rows, each with its own index and in ascending order: an accepted
row is shown just when the visitor wanted to go on after each accepted row
before it. Last it is finished, and the traversal ends as the finish does. A
visitor that crashes is not finished. -/
theorem traversal_calls (v : Visitor σ) (s : σ) (project : Project) (tests : List RowTest)
    (htests : ∀ i row, project.rows[i]? = some row → ∀ test ∈ tests,
      ∃ answer, (test project i row).2 = .ok answer) :
    ∃ calls events ending,
      v.recorded.traverse tests project (s, []) = ((v.after s calls, calls), events, ending) ∧
      v.traverse tests project s = (v.after s calls, events, ending) ∧
      (∀ s₁ started fault, v.start s project = (s₁, started, .error fault) →
        calls = [.start project] ∧ ending = .failed fault) ∧
      ∀ s₁ started, v.start s project = (s₁, started, .ok ()) →
        ∃ shown : List (Row × Nat),
          (shown.map Prod.snd).Pairwise (· < ·) ∧
          (∀ row i, (row, i) ∈ shown →
            project.rows[i]? = some row ∧ passes tests project i row = true) ∧
          (∀ (n : Nat) r, shown[n]? = some r ↔
            (accepted tests project project.rows.zipIdx)[n]? = some r ∧
              ∀ a ∈ v.answers s₁
                  (visits project ((accepted tests project project.rows.zipIdx).take n)),
                a = .visited .proceed) ∧
          ((∀ crash, .crashed crash ∉ v.answers s₁ (visits project shown)) ∧
              calls = .start project :: visits project shown ++ [.finish project] ∧
              ending = .ofExcept (v.finish (v.after s₁ (visits project shown)) project).2.2 ∨
            ∃ crash, .crashed crash ∈ v.answers s₁ (visits project shown) ∧
              calls = .start project :: visits project shown ∧ ending = .crashed crash) := by
  have hanswers : ∀ r ∈ project.rows.zipIdx, ∀ test ∈ tests,
      ∃ answer, (test project r.2 r.1).2 = .ok answer :=
    fun r hr => htests r.2 r.1 (List.mem_zipIdx_iff_getElem?.mp hr)
  -- What is written down tells the calls, and is not noticed by the visitor.
  have hsame := traverse_recorded v tests project s []
  cases hstart : v.start s project with
  | mk s₁ o =>
    obtain ⟨started, fault | _⟩ := o
    · have htraverse := traverse_recorded_of_failed tests hstart
      rw [htraverse] at hsame
      refine ⟨_, _, _, htraverse, hsame, ?_, nofun⟩
      rintro _ _ _ ⟨⟩
      exact ⟨rfl, rfl⟩
    · -- What is shown is a prefix of the accepted rows, so in their order.
      have hinitial := shown_prefix v project (accepted tests project project.rows.zipIdx) s₁
      have hordered := List.pairwise_lt_range.sublist ((hinitial.sublist.map Prod.snd).trans
        (RowTest.indices_accepted_sublist tests project))
      have hmem := fun row i h => RowTest.mem_accepted.mp (hinitial.subset (a := (row, i)) h)
      by_cases hcrash : ∃ crash, .crashed crash ∈ v.answers s₁
          (visits project (v.shown project (accepted tests project project.rows.zipIdx) s₁))
      · obtain ⟨crash, hcrash⟩ := hcrash
        obtain ⟨calls, events, htraverse, hcalls⟩ :=
          traverse_recorded_of_crashed hstart hanswers hcrash
        rw [htraverse] at hsame
        refine ⟨calls, events, _, htraverse, hsame, nofun, ?_⟩
        rintro _ _ ⟨⟩
        exact ⟨_, hordered, hmem, fun n r => getElem?_shown, .inr ⟨crash, hcrash, hcalls, rfl⟩⟩
      · have hcrash := not_exists.mp hcrash
        obtain ⟨calls, events, htraverse, hcalls⟩ :=
          traverse_recorded_of_not_crashed hstart hanswers hcrash
        rw [htraverse] at hsame
        refine ⟨calls, events, _, htraverse, hsame, nofun, ?_⟩
        rintro _ _ ⟨⟩
        exact ⟨_, hordered, hmem, fun n r => getElem?_shown, .inl ⟨hcrash, hcalls, rfl⟩⟩

end Visitor

namespace Recorder

/-- Five rows, each one place longer than the row before. -/
def staircase : Project where
  name := "staircase"
  columns := ⟨[]⟩
  rows := [0, 1, 2, 3, 4].map fun n => ⟨List.replicate n none⟩

/-- All rows but the first one. -/
def notFirst : RowTest := fun _ index _ => ([], .ok (decide (0 < index)))

/-- A recorder that wants two rows and fails when it is finished. -/
def impatient : Recorder := ⟨false, true, some 2, [], 0⟩

/-- It is started, shown the second and the third row and finished, and the
traversal fails as the finish did. -/
theorem calls_of_impatient : ∃ calls events,
    visitor.recorded.traverse [notFirst] staircase (impatient, []) =
        ((visitor.after impatient calls, calls), events, .failed (.internal "end failed")) ∧
      calls = [.start staircase, .visit staircase 1 ⟨[none]⟩, .visit staircase 2 ⟨[none, none]⟩,
        .finish staircase] := by
  have htests : ∀ i row, staircase.rows[i]? = some row → ∀ test ∈ [notFirst],
      ∃ answer, (test staircase i row).2 = .ok answer := by
    intro i row _ test htest
    rw [List.mem_singleton.mp htest]
    exact ⟨_, rfl⟩
  obtain ⟨calls, events, ending, htraverse, -⟩ :=
    Visitor.traversal_calls visitor impatient staircase [notFirst] htests
  have hcalls : calls = (visitor.recorded.traverse [notFirst] staircase (impatient, [])).1.2 := by
    rw [htraverse]
  have hending : ending = (visitor.recorded.traverse [notFirst] staircase (impatient, [])).2.2 := by
    rw [htraverse]
  refine ⟨calls, events, ?_, hcalls⟩
  rw [htraverse, hending]
  rfl

end Recorder

end DataQuality
