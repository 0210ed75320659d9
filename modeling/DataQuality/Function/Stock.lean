import DataQuality.Function.Basic
/-!
# Stock functions — small spanning functions to register

Four functions that rules are tried out with, by kind. A function of any
other kind crashes when it is called, with its name in the message.
-/

namespace DataQuality

namespace SpanningFunction

/-- The values of the arguments that name columns. -/
def knownValues (b : Bindings) (arguments : List Value) : List Value :=
  arguments.filterMap fun a => a.toText?.bind b.cellValue?

/-- Whether neighbours are equal. -/
def allAgree : List Value → Bool
  | v :: w :: rest => v == w && allAgree (w :: rest)
  | _ => true

/-- The meaning of a stock function. -/
def stockCall (kind name : String) (b : Bindings) (arguments : List Value) : Except Crash Value :=
  match kind with
  | "echo" => .ok (.array arguments)
  | "nonEmpty" => .ok (.bool (arguments.all fun a =>
      ((a.toText?.bind b.cellValue?).map Value.isData).getD false))
  | "allEqual" => .ok (.bool (allAgree (knownValues b arguments)))
  | "cells" => .ok (.array (arguments.map fun a => (a.toText?.bind b.cellValue?).getD .null))
  | _ => .error (.text (name ++ " called"))

/-- The stock function of a kind, under a name of its own. -/
def stock (kind name : String) (defaultParams : List String) : SpanningFunction where
  name
  description := kind
  params := "columns..."
  defaultParams
  call := stockCall kind name

end SpanningFunction

end DataQuality
