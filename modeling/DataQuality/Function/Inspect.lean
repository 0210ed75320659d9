import DataQuality.Function.Call
import DataQuality.Text.Visible
import DataQuality.Value.Text
/-!
# Inspection — calls and expressions as their authors see them

For looking into a program rather than at its data: the parts of a call
or of an expression, each with its name, and every text in quotes.
-/

namespace DataQuality

/-- An argument with its kind. -/
def Argument.inspect : Value → List Char
  | .string s => "String(".toList ++ Text.inspect s ++ [')']
  | v => v.kind.toList ++ '(' :: v.chars ++ [')']

/-- Arguments with a comma and a space between neighbours. -/
def Argument.inspectAll : List Value → List Char
  | [] => []
  | [v] => inspect v
  | v :: w :: rest => inspect v ++ ',' :: ' ' :: inspectAll (w :: rest)

/-- A call with its parts. -/
def Call.inspect (call : Call) : String :=
  String.ofList ("FunctionCall \x7b function: ".toList ++ Text.inspect call.function.name ++
    ", args: [".toList ++ Argument.inspectAll call.arguments ++ "] \x7d".toList)

/-- An expression with its source; its meaning cannot be shown. -/
def Expression.inspect (e : Expression) : String :=
  String.ofList ("Expression \x7b source: ".toList ++ Text.inspect e.source ++ ", .. \x7d".toList)

/-- A meaning that was given directly has no parts to show. -/
def Evaluable.inspection : String := "FnEvaluable"

end DataQuality
