import Guest.Number.Arithmetic

/-!
# Elementary functions

Exponentials, logarithms, powers and the trigonometric and hyperbolic functions.  They are the
machine's, reached through the interchange encoding; the inverse hyperbolic ones are formed from
logarithms.
-/

namespace Guest

namespace Number

/-- The machine number with the same encoding. -/
def toFloat (x : Number) : Float := Float.ofBits (UInt64.ofNat x.toBits)

/-- The number with the encoding of a machine number. -/
def ofFloat (x : Float) : Number := ofBits x.toBits.toNat

/-- A machine function on numbers. -/
def viaFloat (f : Float → Float) (x : Number) : Number := ofFloat (f x.toFloat)

/-- The first number with the sign of the second. -/
def withSignOf (x y : Number) : Number :=
  match y with
  | infinite true | finite true _ _ => x.abs.neg
  | _ => x.abs

/-- The natural logarithm of one more than the argument, exact to the last digits near zero. -/
def logOnePlus (x : Number) : Number :=
  let sum := one + x
  if sum.equals one then x
  else if sum.isInfinite then viaFloat Float.log sum
  else viaFloat Float.log sum * (x / (sum - one))

/-- One less than the exponential, exact to the last digits near zero. -/
def expMinusOne (x : Number) : Number :=
  let power := viaFloat Float.exp x
  if power.equals one then x
  else if power.isInfinite then power
  else if (power - one).equals one.neg then one.neg
  else (power - one) * (x / viaFloat Float.log power)

/-- The inverse hyperbolic sine. -/
def arsinh (x : Number) : Number :=
  let size := x.abs
  let inverse := one / size
  (logOnePlus (size + size / (hypot one inverse + inverse))).withSignOf x

/-- The inverse hyperbolic cosine; it has no value below one. -/
def arcosh (x : Number) : Number :=
  if x.less one then nan
  else viaFloat Float.log (x + (x - one).sqrt * (x + one).sqrt)

/-- The inverse hyperbolic tangent. -/
def artanh (x : Number) : Number :=
  let size := x.abs
  (half * logOnePlus (ofNat 2 * size / (one - size))).withSignOf x

/-- The angle of the point with the given ordinate and abscissa. -/
def arctan2 (y x : Number) : Number := ofFloat (Float.atan2 y.toFloat x.toFloat)

/-- The power.  A `nan` exponent gives `nan`, whatever the base, and so does an infinite exponent
with base one or minus one. -/
def pow (base exponent : Number) : Number :=
  if exponent.isNaN || (base.abs.equals one && exponent.isInfinite) then nan
  else ofFloat (Float.pow base.toFloat exponent.toFloat)

end Number

end Guest
