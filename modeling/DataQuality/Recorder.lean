import DataQuality.Rows
/-!
# The recorder — a visitor that writes down what it is shown

It can be told to fail when it is started or finished, and to want no more
rows once it has seen enough.
-/

namespace DataQuality

/-- One thing that happened to a recorder. -/
inductive Record where
  | started (project : String)
  | visited (index : Nat) (row : Row)
  | finished (project : String)

/-- What a recorder is told, and what it wrote down, last first. -/
structure Recorder where
  failsStart : Bool
  failsFinish : Bool
  /-- After how many rows it wants no more. -/
  stopAfter : Option Nat
  records : List Record
  seen : Nat

namespace Recorder

/-- The result of a step that may be told to fail. -/
def result (fails : Bool) (reason : String) : Except Fault Unit :=
  if fails then .error (.internal reason) else .ok ()

/-- Whether a recorder wants more rows. -/
def control (r : Recorder) : Control :=
  match r.stopAfter with
  | some limit => if limit ≤ r.seen then .stop else .proceed
  | none => .proceed

/-- The recorder with one more record. -/
def write (r : Recorder) (record : Record) : Recorder := { r with records := record :: r.records }

/-- The recorder as a visitor of rows. -/
def visitor : Visitor Recorder where
  start r project := (r.write (.started project.name), [], result r.failsStart "start failed")
  visit r _ index row :=
    let r := { r.write (.visited index row) with seen := r.seen + 1 }
    (r, [], .ok r.control)
  finish r project := (r.write (.finished project.name), [], result r.failsFinish "end failed")

end Recorder

end DataQuality
