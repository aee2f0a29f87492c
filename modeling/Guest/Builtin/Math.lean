import Guest.Builtin.Basic
import Guest.Number.Elementary

/-!
# Built-in mathematics

The functions and constants of the namespaces `Math` and `math`, which are the same under both
names.  Arguments are converted to numbers.
-/

namespace Guest

namespace Builtin

/-- A function of one number. -/
def ofUnary (f : Number → Number) : Builtin := fun args =>
  .ok (.number (f (Arguments.number args 0)))

/-- A function of two numbers. -/
def ofBinary (f : Number → Number → Number) : Builtin := fun args =>
  .ok (.number (f (Arguments.number args 0) (Arguments.number args 1)))

/-- A function of any count of numbers. -/
def ofNumbers (f : List Number → Number) : Builtin := fun args =>
  .ok (.number (f (args.map Value.toNumber)))

end Builtin

namespace Number

/-- The product of two words, as a signed word. -/
def wordProduct (x y : Number) : Number := ofSigned (x.toWord * y.toWord)

/-- The count of the zeros before the first one in a word. -/
def leadingZeros (x : Number) : Number :=
  let word := x.toUnsigned
  ofNat (if word = 0 then 32 else 31 - word.log2)

/-- The length of a vector; infinite with an infinite component. -/
def norm (xs : List Number) : Number :=
  if xs.any isInfinite then infinite false else xs.foldl hypot zero

/-- The greatest of some numbers. -/
def maximum (xs : List Number) : Number := xs.foldl max (infinite true)

/-- The least of some numbers. -/
def minimum (xs : List Number) : Number := xs.foldl min (infinite false)

end Number

namespace Builtin

/-- The mathematical functions by name. -/
def mathFunctions : List (String × Builtin) := [
  ("abs", ofUnary Number.abs),
  ("acos", ofUnary (Number.viaFloat Float.acos)),
  ("acosh", ofUnary Number.arcosh),
  ("asin", ofUnary (Number.viaFloat Float.asin)),
  ("asinh", ofUnary Number.arsinh),
  ("atan", ofUnary (Number.viaFloat Float.atan)),
  ("atanh", ofUnary Number.artanh),
  ("cbrt", ofUnary Number.cbrt),
  ("ceil", ofUnary Number.ceil),
  ("cos", ofUnary (Number.viaFloat Float.cos)),
  ("cosh", ofUnary (Number.viaFloat Float.cosh)),
  ("exp", ofUnary (Number.viaFloat Float.exp)),
  ("expm1", ofUnary Number.expMinusOne),
  ("floor", ofUnary Number.floor),
  ("fround", ofUnary Number.single),
  ("log", ofUnary (Number.viaFloat Float.log)),
  ("log10", ofUnary (Number.viaFloat Float.log10)),
  ("log1p", ofUnary Number.logOnePlus),
  ("log2", ofUnary (Number.viaFloat Float.log2)),
  ("round", ofUnary Number.round),
  ("sign", ofUnary Number.sign),
  ("sin", ofUnary (Number.viaFloat Float.sin)),
  ("sinh", ofUnary (Number.viaFloat Float.sinh)),
  ("sqrt", ofUnary Number.sqrt),
  ("tan", ofUnary (Number.viaFloat Float.tan)),
  ("tanh", ofUnary (Number.viaFloat Float.tanh)),
  ("trunc", ofUnary Number.trunc),
  ("atan2", ofBinary Number.arctan2),
  ("pow", ofBinary Number.pow),
  ("imul", ofBinary Number.wordProduct),
  ("clz32", ofUnary Number.leadingZeros),
  ("hypot", ofNumbers Number.norm),
  ("max", ofNumbers Number.maximum),
  ("min", ofNumbers Number.minimum)]

/-- The mathematical constants by name. -/
def mathConstants : List (String × Number) := [
  ("E", Number.ofDecimal false 2718281828459045 (-15)),
  ("LN10", Number.ofDecimal false 2302585092994046 (-15)),
  ("LN2", Number.ofDecimal false 6931471805599453 (-16)),
  ("LOG10E", Number.ofDecimal false 4342944819032518 (-16)),
  ("LOG2E", Number.ofDecimal false 14426950408889634 (-16)),
  ("PI", Number.ofDecimal false 3141592653589793 (-15)),
  ("SQRT1_2", Number.ofDecimal false 7071067811865476 (-16)),
  ("SQRT2", Number.ofDecimal false 14142135623730951 (-16))]

end Builtin

end Guest
