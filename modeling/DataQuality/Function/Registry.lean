import DataQuality.Function.Basic
import DataQuality.Interval
/-!
# The function registry — functions by name

A name can be registered once, so what a name means never changes. The
registry starts out empty or with the functions that are built in.
-/

namespace DataQuality

/-- `dateInterval(start, end, [comparison, threshold, unit])`. -/
def Interval.function : SpanningFunction where
  name := "dateInterval"
  description := "Determine if an interval is negative"
  params := "start column, end column, [gteq (greater than or equal) | eq (equal) | " ++
    "lteq (less than or equal) | gt (greater than) | lt (lesser than)] (optional), " ++
    "number value (optional), string timeunit (optional)"
  defaultParams := ["lteq", "0", "seconds"]
  call b arguments := .ok (Interval.evaluate b arguments)

/-- Spanning functions by name. -/
structure Registry where
  functions : OrderedMap String SpanningFunction
  /-- A function stands under its own name. -/
  named : ∀ {name f}, functions.get? name = some f → f.name = name

namespace Registry

/-- The registry without functions. -/
def empty : Registry := ⟨OrderedMap.empty, nofun⟩

/-- The registry with a function under its name. -/
def insert (r : Registry) (f : SpanningFunction) : Registry where
  functions := r.functions.insert f.name f
  named {name g} h := by
    rw [OrderedMap.get?_insert] at h
    split at h
    · rename_i hname
      rw [← Option.some.inj h, hname]
    · exact r.named h

/-- The registry of the functions that are built in. -/
def builtins : Registry := empty.insert Interval.function

/-- The function registered under a name. -/
def get? (r : Registry) (name : String) : Option SpanningFunction := r.functions.get? name

/-- The function that must be registered under a name. -/
def require (r : Registry) (name : String) : Except Fault SpanningFunction :=
  match r.get? name with
  | some f => .ok f
  | none => .error (.unknownFunction name)

/-- Registers a function under its name, which must be free. -/
def register (r : Registry) (f : SpanningFunction) : Except Fault Registry :=
  if r.functions.contains f.name then
    .error (.configuration ("Function '" ++ f.name ++ "' is already registered"))
  else .ok (r.insert f)

/-- What the functions say about themselves, in the order of their names. -/
def descriptors (r : Registry) : OrderedMap String Descriptor :=
  r.functions.map fun _ f => f.descriptor

end Registry

end DataQuality
