import Guest.Number.Basic

/-!
# Arithmetic

Sums, differences, products, quotients, remainders and roots: the exact result on units,
rounded once.  The module also holds the roundings to whole numbers and the conversions to
natural numbers, integers and 32-bit words.
-/

namespace Guest

namespace Number

/-- The number of the opposite sign. -/
def neg : Number → Number
  | nan => nan
  | infinite negative => infinite (!negative)
  | finite negative units h => finite (!negative) units h

/-- The number without its sign. -/
def abs : Number → Number
  | nan => nan
  | infinite _ => infinite false
  | finite _ units h => finite false units h

/-- The nearest number to the sum.  Numbers that cancel give the zero without a sign. -/
def add : Number → Number → Number
  | nan, _ => nan
  | _, nan => nan
  | infinite a, infinite b => if a == b then infinite a else nan
  | infinite a, finite .. => infinite a
  | finite .., infinite b => infinite b
  | x@(finite a _ _), y@(finite b _ _) =>
    if x.scaled + y.scaled = 0 then ofUnits (a && b) 0
    else ofUnits (decide (x.scaled + y.scaled < 0)) (x.scaled + y.scaled).natAbs

/-- The nearest number to the difference. -/
def sub (x y : Number) : Number := x.add y.neg

/-- The nearest number to the product. -/
def mul : Number → Number → Number
  | nan, _ => nan
  | _, nan => nan
  | infinite a, infinite b => infinite (a != b)
  | infinite a, finite b units _ => if units = 0 then nan else infinite (a != b)
  | finite a units _, infinite b => if units = 0 then nan else infinite (a != b)
  | finite a m _, finite b n _ => ofRatio (a != b) (m * n) unit

/-- The nearest number to the quotient. -/
def div : Number → Number → Number
  | nan, _ => nan
  | _, nan => nan
  | infinite _, infinite _ => nan
  | infinite a, finite b _ _ => infinite (a != b)
  | finite a _ _, infinite b => ofUnits (a != b) 0
  | finite a m _, finite b n _ =>
    if n = 0 then (if m = 0 then nan else infinite (a != b))
    else ofRatio (a != b) (m * unit) n

/-- The remainder of the division toward zero; it has the sign of the dividend. -/
def rem : Number → Number → Number
  | nan, _ => nan
  | _, nan => nan
  | infinite _, _ => nan
  | x, infinite _ => x
  | finite a m _, finite _ n _ => if n = 0 then nan else ofUnits a (m % n)

instance : Neg Number := ⟨neg⟩
instance : Add Number := ⟨add⟩
instance : Sub Number := ⟨sub⟩
instance : Mul Number := ⟨mul⟩
instance : Div Number := ⟨div⟩
instance : Mod Number := ⟨rem⟩

/-- The greatest natural number whose power of some degree is at most `n`, found bit by bit from
the top. -/
def wholeRoot (degree n : Nat) : Nat :=
  go (n.log2 / degree + 1) 0
where
  go : Nat → Nat → Nat
  | 0, root => root
  | k + 1, root =>
    let next := root + 2 ^ k
    go k (if next ^ degree ≤ n then next else root)

/-- The number nearest to the root of `n`, which counts units to the power of the degree.  The root
is taken to half a unit; where it is not exact, a quarter is added, which lies on the same side of
every midpoint. -/
def ofRoot (negative : Bool) (degree n : Nat) : Number :=
  let root := wholeRoot degree (2 ^ degree * n)
  if root ^ degree = 2 ^ degree * n then ofRatio negative root 2
  else ofRatio negative (2 * root + 1) 4

/-- The nearest number to the square root. -/
def sqrt : Number → Number
  | nan => nan
  | infinite negative => if negative then nan else infinite false
  | x@(finite negative units _) =>
    if units = 0 then x else if negative then nan else ofRoot false 2 (units * unit)

/-- The nearest number to the cube root. -/
def cbrt : Number → Number
  | nan => nan
  | infinite negative => infinite negative
  | x@(finite negative units _) =>
    if units = 0 then x else ofRoot negative 3 (units * unit ^ 2)

/-- The nearest number to the length of the hypotenuse. -/
def hypot : Number → Number → Number
  | infinite _, _ => infinite false
  | _, infinite _ => infinite false
  | nan, _ => nan
  | _, nan => nan
  | finite _ m _, finite _ n _ => ofRoot false 2 (m * m + n * n)

/-- The whole number of `units`, toward zero. -/
def wholePart (units : Nat) : Nat := units / unit

/-- The whole number of `units`, away from zero. -/
def wholeCeiling (units : Nat) : Nat := (units + (unit - 1)) / unit

/-- The nearest whole number toward zero. -/
def trunc : Number → Number
  | finite negative units _ => ofUnits negative (wholePart units * unit)
  | x => x

/-- The greatest whole number that is not greater. -/
def floor : Number → Number
  | finite false units _ => ofUnits false (wholePart units * unit)
  | finite true units _ => ofUnits true (wholeCeiling units * unit)
  | x => x

/-- The least whole number that is not less. -/
def ceil : Number → Number
  | finite false units _ => ofUnits false (wholeCeiling units * unit)
  | finite true units _ => ofUnits true (wholePart units * unit)
  | x => x

/-- One half. -/
def half : Number := ofRatio false unit 2

/-- The nearest whole number; a half goes up. -/
def round (x : Number) : Number :=
  if x.isFinite then
    if half.atMost (x - x.floor) then x.floor + one else x.floor
  else x

/-- Minus one, zero with its sign, or one. -/
def sign : Number → Number
  | nan => nan
  | infinite negative => if negative then one.neg else one
  | x@(finite negative units _) => if units = 0 then x else if negative then one.neg else one

/-- The nearest number of single precision: 24 significant bits, least positive number
`2 ^ (-149)`, range below `2 ^ 128`. -/
def single : Number → Number
  | finite negative units _ =>
    let step := 2 ^ max 925 (units.log2 - 23)
    let rounded := nearest units step * step
    if rounded < 2 ^ 1202 then ofUnits negative rounded else infinite negative
  | x => x

/-- The lesser of two numbers; what is not a number wins. -/
def min (x y : Number) : Number :=
  if x.isNaN || y.isNaN then nan else if y.less x then y else x

/-- The greater of two numbers; what is not a number wins. -/
def max (x y : Number) : Number :=
  if x.isNaN || y.isNaN then nan else if x.less y then y else x

/-- Tells whole numbers. -/
def isWhole : Number → Bool
  | finite _ units _ => units % unit == 0
  | _ => false

/-- The whole number toward zero; `0` where there is none. -/
def toInt : Number → Int
  | finite false units _ => wholePart units
  | finite true units _ => -(wholePart units : Int)
  | _ => 0

/-- The whole number toward zero, clamped to `0 … most`. -/
def toNatClamped (most : Nat) : Number → Nat
  | finite false units _ => Nat.min (wholePart units) most
  | infinite false => most
  | _ => 0

/-- The whole number toward zero, clamped to `least … most`; `0` where a value is not a number. -/
def toIntClamped (least most : Int) : Number → Int
  | nan => 0
  | infinite negative => if negative then least else most
  | x@(finite ..) =>
    if x.toInt < least then least else if most < x.toInt then most else x.toInt

/-- The remainder that is not negative: the one toward zero, brought up by the size of the divisor
where it is negative. -/
def remEuclid (x y : Number) : Number :=
  let remainder := x % y
  if remainder.less zero then remainder + y.abs else remainder

/-- The number of the words of 32 bits. -/
def wordCount : Number := ofNat (2 ^ 32)

/-- The number of the words without a sign. -/
def halfWordCount : Number := ofNat (2 ^ 31)

/-- The remainder modulo `2 ^ 32` of the whole number toward zero, zero where there is none. -/
def wordRemainder (x : Number) : Number :=
  if x.isFinite then x.trunc.remEuclid wordCount else zero

/-- The least whole number of 32 bits with a sign. -/
def leastSigned : Int := -(2 ^ 31 : Nat)

/-- The greatest whole number of 32 bits with a sign. -/
def mostSigned : Int := (2 ^ 31 - 1 : Nat)

/-- The whole number of 32 bits with a sign to which a number is wrapped. -/
def toSigned (x : Number) : Int :=
  let remainder := x.wordRemainder
  if halfWordCount.atMost remainder then
    (remainder - wordCount).toIntClamped leastSigned mostSigned
  else remainder.toIntClamped leastSigned mostSigned

/-- The whole number of 32 bits without a sign to which a number is wrapped. -/
def toUnsigned (x : Number) : Nat := x.wordRemainder.toNatClamped (2 ^ 32 - 1)

/-- The word of a number with a sign. -/
def toWord (x : Number) : BitVec 32 := BitVec.ofInt 32 x.toSigned

/-- The number of a signed word. -/
def ofSigned (word : BitVec 32) : Number := ofInt word.toInt

/-- The number of an unsigned word. -/
def ofUnsigned (word : BitVec 32) : Number := ofNat word.toNat

end Number

end Guest
