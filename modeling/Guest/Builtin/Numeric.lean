import Guest.Builtin.Basic
import Guest.Number.Fixed

/-!
# Built-in functions on numbers

The functions and constants of the namespace `Number`, which classify and read numbers, and the
functions of the namespace `number`, which write them.
-/

namespace Guest

namespace Number

/-- The greatest whole number up to which every whole number is representable. -/
def mostSafe : Number := ofNat (2 ^ 53 - 1)

/-- The greatest finite number. -/
def greatest : Number := ofNat ((2 ^ 53 - 1) * 2 ^ 971)

/-- The least positive number. -/
def leastPositive : Number := ofUnits false 1

/-- The distance from one to the next number. -/
def epsilon : Number := ofRatio false unit (2 ^ 52)

/-- Tells the whole numbers up to `mostSafe`. -/
def isSafeWhole (x : Number) : Bool := x.isWhole && x.abs.atMost mostSafe

end Number

namespace Value

/-- The number, if the value is one. -/
def number? : Value → Option Number
  | number x => some x
  | _ => none

end Value

namespace Builtin

/-- Tells whether the first argument is a number with a property. -/
def testNumber (p : Number → Bool) : Builtin := fun args =>
  .ok (.boolean ((Arguments.value args 0).number?.any p))

/-- Reads the front of a text as a decimal number. -/
def parseFloat : Builtin := fun args => .ok (.number (Number.ofFront (Arguments.chars args 0)))

/-- Reads the front of a text as a whole number in a radix. -/
def parseInt : Builtin := fun args =>
  let radix? := (Arguments.number? args 1).map Number.toCount
  .ok (.number (Number.wholeOfFront (Arguments.chars args 0) radix?))

/-- The count of digits in the second argument. -/
def digitCount? (args : Arguments) (name : String) : Except BuiltinError (Option Nat) :=
  match args.number? 1 with
  | none => .ok none
  | some x =>
    let count := x.toWhole
    if Number.zero.atMost count && count.atMost (Number.ofNat 100) then .ok (some count.toCount)
    else .error (.digits name)

/-- A text, or an error where there is none. -/
def textOr (error : BuiltinError) : Option (List Char) → Except BuiltinError Value
  | some s => .ok (.ofChars s)
  | none => .error error

/-- The first argument with one digit before the point and an exponent. -/
def toExponential : Builtin := fun args => do
  let places? ← digitCount? args "toExponential"
  textOr (.digits "toExponential") ((Arguments.number args 0).exponential? places?)

/-- The first argument with a fixed count of digits after the point. -/
def toFixed : Builtin := fun args => do
  let places? ← digitCount? args "toFixed"
  textOr .places ((Arguments.number args 0).fixed? (places?.getD 0))

/-- The first argument with a count of significant digits. -/
def toPrecision : Builtin := fun args =>
  let precision? := (Arguments.number? args 1).map Number.toCount
  textOr .precision ((Arguments.number args 0).precision? precision?)

/-- The first argument in a radix, ten if none is given. -/
def toText : Builtin := fun args =>
  let radix := ((Arguments.number? args 1).map Number.toCount).getD 10
  textOr .radix ((Arguments.number args 0).textInRadix? radix)

/-- The functions on numbers by name. -/
def numberFunctions : List (String × Builtin) := [
  ("Number_isFinite", testNumber Number.isFinite),
  ("Number_isInteger", testNumber Number.isWhole),
  ("Number_isNaN", testNumber Number.isNaN),
  ("Number_isSafeInteger", testNumber Number.isSafeWhole),
  ("Number_parseFloat", parseFloat),
  ("Number_parseInt", parseInt),
  ("number_toExponential", toExponential),
  ("number_toFixed", toFixed),
  ("number_toPrecision", toPrecision),
  ("number_toString", toText)]

/-- The constants of the namespace `Number`. -/
def numberConstants : List (String × Number) := [
  ("Number_EPSILON", Number.epsilon),
  ("Number_MAX_SAFE_INTEGER", Number.mostSafe),
  ("Number_MAX_VALUE", Number.greatest),
  ("Number_MIN_SAFE_INTEGER", Number.mostSafe.neg),
  ("Number_MIN_VALUE", Number.leastPositive),
  ("Number_NaN", .nan),
  ("Number_NEGATIVE_INFINITY", .infinite true),
  ("Number_POSITIVE_INFINITY", .infinite false)]

end Builtin

end Guest
