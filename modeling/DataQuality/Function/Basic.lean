import DataQuality.Expression
import DataQuality.Json.Decode
/-!
# Spanning functions — named functions over several columns

A spanning function is called with the names of columns and then with
parameters, all of them texts. It describes itself, so that authors of
rules can be offered it, and it knows the text of its own call: every
argument in quotes, so that reading the text gives the arguments back.
-/

namespace DataQuality

open Json (Tree)

/-- A named function of the columns of a row. -/
structure SpanningFunction where
  name : String
  /-- What the function checks. -/
  description : String
  /-- What parameters it takes, for readers. -/
  params : String
  /-- What it results in, for readers. -/
  returns : String := "boolean"
  /-- The parameters of a call that is given none. -/
  defaultParams : List String
  /-- The meaning of a call, by its arguments. -/
  call : Bindings → List Value → Except Crash Value

/-- What a function says about itself. -/
structure Descriptor where
  description : String
  params : String
  returns : String
  defaultParams : List String
  deriving DecidableEq

/-- The tree of a descriptor. -/
def Descriptor.toTree (d : Descriptor) : Tree :=
  .object (Tree.field "description" (Tree.ofString d.description) ++
    Tree.field "params" (Tree.ofString d.params) ++
    Tree.field "returns" (Tree.ofString d.returns) ++
    Tree.field "defaultParams" (.array (d.defaultParams.map Tree.ofString)))

/-- A compiled call of a spanning function. -/
structure SpanningCall where
  function : String
  params : List String
  expression : Expression

/-- The tree of a compiled call. -/
def SpanningCall.toTree (c : SpanningCall) : Tree :=
  .object (Tree.field "function" (Tree.ofString c.function) ++
    Tree.field "params" (.array (c.params.map Tree.ofString)) ++
    Tree.field "evaluable" (Tree.ofString c.expression.source))

/-! ## The text of a call -/

namespace Argument

/-- A quotation mark and a backslash get a backslash in front. -/
def escape : List Char → List Char
  | [] => []
  | c :: rest => if c = '"' ∨ c = '\\' then '\\' :: c :: escape rest else c :: escape rest

/-- A text as an argument of a call. -/
def quote (s : String) : List Char := '"' :: escape s.toList ++ ['"']

/-- Quoted texts with a comma and a space between neighbours. -/
def quoteAll : List String → List Char
  | [] => []
  | [s] => quote s
  | s :: t :: rest => quote s ++ ',' :: ' ' :: quoteAll (t :: rest)

end Argument

namespace SpanningFunction

/-- The parameters of a call: those it is given, else the default ones. -/
def effectiveParams (f : SpanningFunction) (params : Option (List String)) : List String :=
  params.getD f.defaultParams

/-- The text of a call on columns: the columns and then the parameters. -/
def invocation (f : SpanningFunction) (columns : List String) (params : Option (List String)) :
    String :=
  String.ofList (f.name.toList ++ '(' ::
    Argument.quoteAll (columns ++ f.effectiveParams params) ++ [')'])

/-- A call on columns, compiled from its text. -/
def compileCall (f : SpanningFunction) (columns : List String) (params : Option (List String))
    (compiler : Compiler) : Except Fault SpanningCall :=
  match Expression.compile compiler (f.invocation columns params) with
  | .ok expression => .ok ⟨f.name, f.effectiveParams params, expression⟩
  | .error fault => .error fault

/-- What the function says about itself. -/
def descriptor (f : SpanningFunction) : Descriptor :=
  ⟨f.description, f.params, f.returns, f.defaultParams⟩

theorem descriptor_eq_iff {f : SpanningFunction} {d : Descriptor} :
    f.descriptor = d ↔ f.description = d.description ∧ f.params = d.params ∧
      f.returns = d.returns ∧ f.defaultParams = d.defaultParams := by
  obtain ⟨description, params, returns, defaultParams⟩ := d
  rw [descriptor, Descriptor.mk.injEq]

end SpanningFunction

end DataQuality
