import DataQuality.Function.Arguments
import DataQuality.Function.Registry
/-!
# Calls — expressions that call one spanning function

A call is an identifier and, in parentheses, its arguments, with blanks
around and between. The text between the parentheses holds no line feed.
Three faults can be found, in this order: the text does not look like a
call, no function has the name, the arguments cannot be read.
-/

namespace DataQuality

/-- A call of a spanning function. -/
structure Call where
  function : SpanningFunction
  arguments : List Value

namespace Call

/-! ## Shape -/

/-- Whether a character can start an identifier. -/
def startsName (c : Char) : Bool := c.isAlpha || c == '_'

/-- Whether a character can stand in an identifier. -/
def continuesName (c : Char) : Bool := c.isAlphanum || c == '_'

/-- What stands before a closing parenthesis at the end of a text, blanks
after it apart. -/
def beforeClosing? (s : List Char) : Option (List Char) :=
  match Text.dropBlanks s.reverse with
  | ')' :: body => some body.reverse
  | _ => none

/-- The identifier of a call and the text between its parentheses. -/
def shape? (s : List Char) : Option (List Char × List Char) :=
  match Text.dropBlanks s with
  | [] => none
  | c :: rest =>
    if startsName c then
      match Text.dropBlanks (rest.dropWhile continuesName) with
      | '(' :: inside =>
        match beforeClosing? inside with
        | some body =>
          if body.contains '\n' then none else some (c :: rest.takeWhile continuesName, body)
        | none => none
      | _ => none
    else none

/-! ## Reading and meaning -/

/-- The call that a text stands for. -/
def parse (registry : Registry) (source : String) : Except Fault Call :=
  match shape? source.toList with
  | none => .error (.expression source "expected a single function call")
  | some (name, body) =>
    match registry.require (String.ofList name) with
    | .error fault => .error fault
    | .ok function =>
      match Argument.parse body with
      | .error problem => .error (.expression source problem.message)
      | .ok arguments => .ok ⟨function, arguments⟩

/-- The value of a call. -/
def evaluate (call : Call) : Evaluable := fun b => call.function.call b call.arguments

end Call

/-- Compiles the texts of calls. -/
def Registry.compiler (registry : Registry) : Compiler := fun source =>
  match Call.parse registry source with
  | .ok call => .ok call.evaluate
  | .error fault => .error fault

end DataQuality
