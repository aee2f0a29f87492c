import Guest.Builtin.Math
import Guest.Builtin.Numeric
import Guest.Builtin.Text
import Guest.Context

/-!
# The table of built-ins

All constants and functions that a context starts with, by their full names.
-/

namespace Guest

namespace Builtin

/-- The truth value of the first argument as a text. -/
def truthText : Builtin := fun args =>
  .ok (.string (if (Arguments.value args 0).isTruthy then "true" else "false"))

/-- The truth value of the first argument. -/
def truth : Builtin := fun args => .ok (.boolean (Arguments.value args 0).isTruthy)

/-- The functions on truth values by name. -/
def truthFunctions : List (String × Builtin) := [
  ("boolean_toString", truthText),
  ("boolean_valueOf", truth)]

/-- The names of the namespace of mathematics. -/
def mathNames : List String := ["Math_", "math_"]

/-- The members of the namespace of mathematics under both of its names. -/
def underMathNames (members : List (String × α)) : List (String × α) :=
  mathNames.flatMap fun space => members.map fun (name, member) => (space ++ name, member)

/-- All built-in functions by name. -/
def functions : List (String × Builtin) :=
  underMathNames mathFunctions ++ numberFunctions ++ textFunctions ++ truthFunctions

/-- All built-in constants by name. -/
def constants : List (String × Number) := underMathNames mathConstants ++ numberConstants

/-- A built-in function as a function of the host; its answer does not depend on the past. -/
def host (f : Builtin) : HostFunction := fun _ args => (f args).mapError BuiltinError.message

end Builtin

namespace Context

/-- A context with the built-in constants and functions and without bindings. -/
def initial : Context :=
  { bare with
    constants := Builtin.constants.map fun (name, x) => (name, .number x)
    functions := Builtin.functions.map fun (name, f) => (name, f.host) }

end Context

end Guest
