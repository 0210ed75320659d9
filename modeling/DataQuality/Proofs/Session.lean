import DataQuality.Rows
/-!
# Sessions — calls on a visitor, one after another

A session is a list of calls on one visitor, in any order: nothing says
that a start comes first or that a finish comes last. A traversal is the
session that starts, shows the accepted rows and finishes.
-/

namespace DataQuality

namespace Visitor

/-- A call on a visitor. -/
inductive Call where
  | start (project : Project)
  | visit (project : Project) (index : Nat) (row : Row)
  | finish (project : Project)

/-- How a call ends. -/
inductive Answer where
  | started
  | visited (control : Control)
  | finished
  | failed (fault : Fault)
  | crashed (crash : Crash)
  deriving DecidableEq

/-- Whether a call shows a row. -/
def Call.isVisit : Call → Bool
  | .visit _ _ _ => true
  | _ => false

/-- Whether a call starts a pass. -/
def Call.isStart : Call → Bool
  | .start _ => true
  | _ => false

variable {σ : Type}

/-- The visitor after one call, and the answer of the call. -/
def step (v : Visitor σ) (s : σ) : Call → σ × Answer
  | .start project =>
    match v.start s project with
    | (s, _, .ok ()) => (s, .started)
    | (s, _, .error fault) => (s, .failed fault)
  | .visit project index row =>
    match v.visit s project index row with
    | (s, _, .ok control) => (s, .visited control)
    | (s, _, .error crash) => (s, .crashed crash)
  | .finish project =>
    match v.finish s project with
    | (s, _, .ok ()) => (s, .finished)
    | (s, _, .error fault) => (s, .failed fault)

/-- The visitor after some calls. A call that crashes is over, and the next
one is made all the same. -/
def after (v : Visitor σ) (s : σ) (calls : List Call) : σ :=
  calls.foldl (fun s call => (v.step s call).1) s

/-- The answers of some calls in order. -/
def answers (v : Visitor σ) : σ → List Call → List Answer
  | _, [] => []
  | s, call :: rest => (v.step s call).2 :: v.answers (v.step s call).1 rest

variable {v : Visitor σ} {s s' : σ} {call : Call} {calls more : List Call}
variable {project : Project} {index : Nat} {row : Row}

@[simp] theorem after_cons : v.after s (call :: calls) = v.after (v.step s call).1 calls := rfl

theorem after_append : v.after s (calls ++ more) = v.after (v.after s calls) more :=
  List.foldl_append

theorem after_concat : v.after s (calls ++ [call]) = (v.step (v.after s calls) call).1 :=
  after_append

theorem answers_append :
    v.answers s (calls ++ more) = v.answers s calls ++ v.answers (v.after s calls) more := by
  induction calls generalizing s with
  | nil => rfl
  | cons call rest ih => rw [List.cons_append, answers, ih, answers, List.cons_append, after_cons]

/-! ## Visits -/

/-- The visitor after a call that shows a row is the one the visit leaves. -/
theorem step_visit_fst :
    (v.step s (.visit project index row)).1 = (v.visit s project index row).1 := by
  rw [step]
  split <;> rename_i hv <;> rw [hv]

theorem visit_of_step {control : Control}
    (h : v.step s (.visit project index row) = (s', .visited control)) :
    ∃ events, v.visit s project index row = (s', events, .ok control) := by
  rw [step] at h
  split at h
  · rename_i events control' hv
    obtain ⟨rfl, hc⟩ := Prod.mk.inj h
    exact ⟨events, by rw [hv, Answer.visited.inj hc]⟩
  · cases (Prod.mk.inj h).2

theorem visit_of_step_crashed {crash : Crash}
    (h : v.step s (.visit project index row) = (s', .crashed crash)) :
    ∃ events, v.visit s project index row = (s', events, .error crash) := by
  rw [step] at h
  split at h
  · cases (Prod.mk.inj h).2
  · rename_i events crash' hv
    obtain ⟨rfl, hc⟩ := Prod.mk.inj h
    exact ⟨events, by rw [hv, Answer.crashed.inj hc]⟩

/-- The index of the row that a call shows. -/
def Call.index? : Call → Option Nat
  | .visit _ index _ => some index
  | _ => none

/-- The calls that show rows of a project, each with its index. -/
def visits (project : Project) (rows : List (Row × Nat)) : List Call :=
  rows.map fun r => .visit project r.2 r.1

theorem visits_cons (project : Project) (r : Row × Nat) (rows : List (Row × Nat)) :
    visits project (r :: rows) = .visit project r.2 r.1 :: visits project rows := rfl

theorem filterMap_index?_visits (rows : List (Row × Nat)) :
    (visits project rows).filterMap Call.index? = rows.map Prod.snd := by
  rw [visits, List.filterMap_map]
  exact congrFun (List.filterMap_eq_map (f := Prod.snd)) rows

end Visitor

/-! ## Accepted rows -/

namespace RowTest

variable {tests : List RowTest} {project : Project} {index : Nat} {row : Row}

/-- Whether a row passes all tests, each asked by itself. -/
def passes (tests : List RowTest) (project : Project) (index : Nat) (row : Row) : Bool :=
  tests.all fun test =>
    match (test project index row).2 with
    | .ok answer => answer
    | .error _ => false

/-- The rows that pass all tests, each with its index. -/
def accepted (tests : List RowTest) (project : Project) (rows : List (Row × Nat)) :
    List (Row × Nat) :=
  rows.filter fun r => passes tests project r.2 r.1

/-- An accepted row is a row of the project at its index that passes all
tests. -/
theorem mem_accepted : (row, index) ∈ accepted tests project project.rows.zipIdx ↔
    project.rows[index]? = some row ∧ passes tests project index row = true := by
  rw [accepted, List.mem_filter, List.mem_zipIdx_iff_getElem?]

/-- The accepted rows are in the order of the rows, each once. -/
theorem indices_accepted_sublist (tests : List RowTest) (project : Project) :
    ((accepted tests project project.rows.zipIdx).map Prod.snd).Sublist
      (List.range project.rows.length) := by
  have h := (List.filter_sublist (p := fun r : Row × Nat => passes tests project r.2 r.1)
    (l := project.rows.zipIdx)).map Prod.snd
  rw [List.zipIdx_map_snd, ← List.range_eq_range'] at h
  exact h

theorem indices_accepted_nodup (tests : List RowTest) (project : Project) :
    ((accepted tests project project.rows.zipIdx).map Prod.snd).Nodup :=
  (indices_accepted_sublist tests project).nodup List.nodup_range

theorem length_accepted_le (tests : List RowTest) (project : Project) :
    (accepted tests project project.rows.zipIdx).length ≤ project.rows.length := by
  have h := List.length_filter_le (fun r : Row × Nat => passes tests project r.2 r.1)
    project.rows.zipIdx
  rw [List.length_zipIdx] at h
  exact h

theorem passes_singleton {test : RowTest} :
    passes [test] project index row = true ↔ (test project index row).2 = .ok true := by
  rw [passes, List.all_cons, List.all_nil, Bool.and_true]
  cases (test project index row).2 <;> simp

/-- Of the tests it matters which they are, not how they are listed. -/
theorem accepted_congr {others : List RowTest} (h : ∀ test, test ∈ others ↔ test ∈ tests)
    (rows : List (Row × Nat)) : accepted others project rows = accepted tests project rows := by
  refine List.filter_congr fun r _ => ?_
  rw [Bool.eq_iff_iff, passes, passes, List.all_eq_true, List.all_eq_true]
  exact forall_congr' fun test => imp_congr_left (h test)

/-- One test more keeps those of the accepted rows that pass it. -/
theorem accepted_added {added : RowTest} {others : List RowTest}
    (h : ∀ test, test ∈ others ↔ test = added ∨ test ∈ tests) (rows : List (Row × Nat)) :
    accepted others project rows =
      (accepted tests project rows).filter fun r => passes [added] project r.2 r.1 := by
  rw [accepted, accepted, List.filter_filter]
  refine List.filter_congr fun r _ => ?_
  rw [Bool.eq_iff_iff, Bool.and_eq_true, passes, passes, passes, List.all_eq_true,
    List.all_eq_true, List.all_eq_true, List.forall_mem_singleton]
  simp only [h, forall_eq_or_imp]

/-- **The tests together answer what each of them answers.** -/
theorem all_answer {answer : Bool} (h : (all project index row tests).2 = .ok answer) :
    passes tests project index row = answer := by
  induction tests generalizing answer with
  | nil => exact Except.ok.inj h
  | cons test rest ih =>
    rw [passes, List.all_cons]
    rw [all] at h
    split at h
    · cases h
    · rename_i events htest
      rw [htest]
      exact Except.ok.inj h
    · rename_i events htest
      rw [htest]
      exact ih h

/-- A crash of the tests is the crash of one of them. -/
theorem exists_test_of_all {crash : Crash} (h : (all project index row tests).2 = .error crash) :
    ∃ test ∈ tests, (test project index row).2 = .error crash := by
  induction tests with
  | nil => cases h
  | cons test rest ih =>
    rw [all] at h
    split at h
    · rename_i events crash' htest
      refine ⟨test, List.mem_cons_self, ?_⟩
      rw [htest]
      exact h
    · cases h
    · obtain ⟨test', hmem, hcrash⟩ := ih h
      exact ⟨test', List.mem_cons_of_mem _ hmem, hcrash⟩

end RowTest

end DataQuality
