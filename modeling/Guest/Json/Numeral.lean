import Guest.Number.Arithmetic
import Guest.Number.Decimal

/-!
# Numerals of JSON

The parts of a numeral and the number that it denotes.  The digits are collected into a significand
of 64 bits; what does not fit is dropped.  The significand is then multiplied or divided by powers
of ten, each step rounded, so that the number is not always the nearest one.
-/

namespace Guest

/-- The parts of a JSON numeral. -/
structure JsonNumeral where
  negative : Bool
  whole : List Char
  fraction : List Char
  exponentNegative : Bool
  /-- The digits of the exponent; none for an exponent of zero. -/
  exponent : List Char
  deriving DecidableEq

namespace JsonNumeral

/-- The end of the range of significands. -/
def significandEnd : Nat := 2 ^ 64

/-- The greatest exponent that is told apart from larger ones. -/
def mostExponent : Nat := 2 ^ 31 - 1

/-- The greatest exponent of a power of ten that is a number. -/
def mostPower : Nat := 308

/-- Appends digits to a significand as long as it stays in its range; also gives the digits that
are left. -/
def collect (significand : Nat) : List Char → Nat × List Char
  | [] => (significand, [])
  | c :: rest =>
    let next := significand * 10 + (c.toNat - '0'.toNat)
    if next < significandEnd then collect next rest else (significand, c :: rest)

/-- The number nearest to a power of ten. -/
def power (exponent : Nat) : Number := Number.ofDecimal false 1 exponent

/-- A number divided by a power of ten, the greatest power at a time. -/
def divided (x : Number) (exponent : Nat) : Number :=
  if x.isZero then x
  else if _h : exponent ≤ mostPower then x / power exponent
  else divided (x / power mostPower) (exponent - mostPower)
termination_by exponent
decreasing_by simp only [mostPower] at *; omega

/-- A significand times a power of ten; it may be out of range. -/
def scaled? (significand : Nat) (exponent : Int) : Option Number :=
  let x := Number.ofNat significand
  if exponent < 0 then some (divided x exponent.natAbs)
  else if x.isZero then some x
  else if exponent ≤ mostPower then
    let product := x * power exponent.toNat
    if product.isInfinite then none else some product
  else none

/-- The number of the numeral without its sign; it may be out of range. -/
def magnitude? (n : JsonNumeral) : Option Number :=
  let (whole, wholeLeft) := collect 0 n.whole
  let (significand, fractionLeft) := collect whole n.fraction
  let shift : Int := wholeLeft.length - (n.fraction.length - fractionLeft.length : Nat)
  let exponent := Numeral.value 10 n.exponent
  if mostExponent < exponent then
    if significand != 0 && !n.exponentNegative then none else some Number.zero
  else scaled? significand (if n.exponentNegative then shift - exponent else shift + exponent)

/-- The number of the numeral; it may be out of range. -/
def value? (n : JsonNumeral) : Option Number :=
  n.magnitude?.map fun x => if n.negative then x.neg else x

end JsonNumeral

end Guest
