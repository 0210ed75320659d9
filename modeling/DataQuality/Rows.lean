import DataQuality.Event
import DataQuality.Project.Basic
import DataQuality.Expression
/-!
# Traversal — a visitor and the rows it is shown

A visitor is started, shown rows and finished. It is shown the rows that
pass every test, in order, until it wants no more; it is finished however
the rows end. A visitor that cannot be started is shown nothing and is not
finished. A crash of a test or of the visitor ends everything.
-/

namespace DataQuality

/-- Whether a visitor wants to be shown more rows. -/
inductive Control where
  | proceed
  | stop
  deriving DecidableEq

/-- How an activity ends: with a result, with a fault or with a crash. -/
inductive Ending (α : Type) where
  | returned (result : α)
  | failed (fault : Fault)
  | crashed (crash : Crash)

/-- The ending of a result. -/
def Ending.ofExcept {α : Type} : Except Fault α → Ending α
  | .ok a => .returned a
  | .error fault => .failed fault

/-- What a visitor does when it is started, shown a row and finished. -/
structure Visitor (σ : Type) where
  start : σ → Project → σ × List Event × Except Fault Unit
  visit : σ → Project → Nat → Row → σ × List Event × Except Crash Control
  finish : σ → Project → σ × List Event × Except Fault Unit

/-- A test of rows. It may report events and it may crash. -/
abbrev RowTest := Project → Nat → Row → List Event × Except Crash Bool

namespace RowTest

/-- Whether a row passes all tests. The first one it fails is the last one
that is asked. -/
def all (project : Project) (index : Nat) (row : Row) :
    List RowTest → List Event × Except Crash Bool
  | [] => ([], .ok true)
  | test :: rest =>
    match test project index row with
    | (events, .error crash) => (events, .error crash)
    | (events, .ok false) => (events, .ok false)
    | (events, .ok true) =>
      let (more, answer) := all project index row rest
      (events ++ more, answer)

end RowTest

/-- What became of the rows of a traversal. -/
structure RowsOutcome (σ : Type) where
  state : σ
  events : List Event
  /-- How many rows passed the tests. -/
  accepted : Nat
  crash : Option Crash

namespace Visitor

variable {σ : Type}

/-- Shows the rows that pass the tests; the first one has the index `index`. -/
def showRows (v : Visitor σ) (tests : List RowTest) (project : Project) :
    Nat → List Row → σ → RowsOutcome σ
  | _, [], s => ⟨s, [], 0, none⟩
  | index, row :: rest, s =>
    match RowTest.all project index row tests with
    | (events, .error crash) => ⟨s, events, 0, some crash⟩
    | (events, .ok false) =>
      let o := v.showRows tests project (index + 1) rest s
      { o with events := events ++ o.events }
    | (events, .ok true) =>
      match v.visit s project index row with
      | (s, more, .error crash) => ⟨s, events ++ more, 1, some crash⟩
      | (s, more, .ok .stop) => ⟨s, events ++ more ++ [.visitorStopped index], 1, none⟩
      | (s, more, .ok .proceed) =>
        let o := v.showRows tests project (index + 1) rest s
        { o with events := events ++ more ++ o.events, accepted := o.accepted + 1 }

/-- Takes a visitor through the rows of a project that pass the tests. -/
def traverse (v : Visitor σ) (tests : List RowTest) (project : Project) (s : σ) :
    σ × List Event × Ending Unit :=
  match v.start s project with
  | (s, events, .error fault) => (s, events, .failed fault)
  | (s, events, .ok ()) =>
    let o := v.showRows tests project 0 project.rows s
    match o.crash with
    | some crash => (o.state, events ++ o.events, .crashed crash)
    | none =>
      let (s, more, ending) := v.finish o.state project
      let finished := Event.traversalFinished project.name o.accepted tests.length
      (s, events ++ o.events ++ finished :: more, Ending.ofExcept ending)

end Visitor

end DataQuality
