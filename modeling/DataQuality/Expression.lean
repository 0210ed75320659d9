import DataQuality.Bindings
/-!
# Expressions — compiled texts

An expression is a source text and what it evaluates to under bindings. An
evaluation that goes wrong yields an error value; one that crashes yields
nothing, and what was thrown travels instead.
-/

namespace DataQuality

/-- What a crashed evaluation throws: a text or something that is none. -/
inductive Crash where
  | text (message : String)
  | unknown
  deriving DecidableEq

/-- The text of a crash, if it has one. -/
def Crash.message? : Crash → Option String
  | text message => some message
  | unknown => none

/-- The text that stands for a crash where one is needed. -/
def Crash.report (crash : Crash) : String := crash.message?.getD "evaluation panicked"

/-- The meaning of an expression. -/
abbrev Evaluable := Bindings → Except Crash Value

/-- A compiled text. -/
structure Expression where
  source : String
  evaluate : Evaluable

/-- What turns source texts into meanings. -/
abbrev Compiler := String → Except Fault Evaluable

/-- The expression of a source text. -/
def Expression.compile (compiler : Compiler) (source : String) : Except Fault Expression :=
  match compiler source with
  | .ok evaluate => .ok ⟨source, evaluate⟩
  | .error fault => .error fault

/-- The value of an evaluation whose crash is caught: an error with the
text of the crash. -/
def caught : Except Crash Value → Value
  | .ok value => value
  | .error crash => .error crash.report

end DataQuality
