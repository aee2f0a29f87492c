import Guest.Value.Basic

/-!
# Built-in functions

A built-in function gets a list of arguments of any length and any types.  A missing number is not
a number, a missing text is empty, and an optional argument is absent when it is missing or null.
Positions and counts are numbers taken toward zero, and what is not a number counts as zero.
-/

namespace Guest

/-- Why a built-in function fails. -/
inductive BuiltinError where
  /-- A count of digits is not between 0 and 100; the name is that of the operation. -/
  | digits (name : String)
  | places
  | precision
  | radix
  | codePoint (text : String)
  | pattern (source : String)
  | count (count : Number)
  | length
  deriving DecidableEq

namespace BuiltinError

/-- The error in words. -/
def message : BuiltinError → String
  | digits name => s!"{name}() argument must be between 0 and 100"
  | places => "toFixed() digits argument must be between 0 and 100"
  | precision => "toPrecision() argument must be between 1 and 100"
  | radix => "toString() radix must be between 2 and 36"
  | codePoint text => s!"invalid code point {text}"
  | pattern source => s!"invalid pattern '{source}'"
  | count n => s!"invalid repeat count {String.ofList n.text}"
  | length => "invalid string length"

end BuiltinError

/-- A built-in function. -/
abbrev Builtin := List Value → Except BuiltinError Value

/-- The arguments of a call. -/
abbrev Arguments := List Value

namespace Arguments

/-- The argument at an index as a number. -/
def number (args : Arguments) (i : Nat) : Number :=
  match args[i]? with
  | some v => v.toNumber
  | none => .nan

/-- The characters of the argument at an index. -/
def chars (args : Arguments) (i : Nat) : List Char :=
  match args[i]? with
  | some v => v.chars
  | none => []

/-- The argument at an index, null if it is missing. -/
def value (args : Arguments) (i : Nat) : Value := args[i]?.getD .null

/-- The argument at an index, unless it is missing or null. -/
def optional? (args : Arguments) (i : Nat) : Option Value :=
  args[i]?.filter fun v => !v.isNull

/-- The argument at an index as a number, unless it is missing or null. -/
def number? (args : Arguments) (i : Nat) : Option Number :=
  (args.optional? i).map Value.toNumber

end Arguments

namespace Number

/-- The whole number toward zero; what is not a number counts as zero. -/
def toWhole (x : Number) : Number := if x.isNaN then zero else x.trunc

/-- The greatest radix, count of digits or precision that is told apart from larger ones. -/
def mostCount : Nat := 2 ^ 32 - 1

/-- The count that a number stands for, clamped to a range from zero. -/
def toCount (x : Number) : Nat := x.toNatClamped mostCount

end Number

end Guest
