import Guest.Number.Arithmetic
import Guest.Number.Numeral

/-!
# Decimal and binary

Both directions between decimal numbers `significand * 10 ^ exponent` and numbers are exact up to
one rounding.  `ofDecimal` reads; `shortest` finds the fewest digits that read back, and of two
such decimals the nearer one, a tie going up.  `decimalNear` rounds to a given place, a half going
to the even neighbour.
-/

namespace Guest

/-- The positive decimal number `significand * 10 ^ exponent`. -/
structure Decimal where
  significand : Nat
  /-- The place of the last digit. -/
  exponent : Int
  deriving DecidableEq, Repr

namespace Decimal

/-- Moves zeros at the end of the significand into the exponent; `fuel` bounds their number. -/
def stripZeros : Nat → Decimal → Decimal
  | 0, d => d
  | fuel + 1, d =>
    if d.significand % 10 = 0 ∧ d.significand ≠ 0 then
      stripZeros fuel ⟨d.significand / 10, d.exponent + 1⟩
    else d

/-- The same decimal without zeros at the end of its significand. -/
def normalize (d : Decimal) : Decimal := stripZeros d.significand.log2 d

/-- The digits of the significand. -/
def digits (d : Decimal) : List Char := Numeral.decimal d.significand

/-- The exponent `n` of the form `0.digits * 10 ^ n`. -/
def pointPlace (d : Decimal) : Int := d.digits.length + d.exponent

end Decimal

namespace Number

/-- The number nearest to `± significand * 10 ^ exponent`.  Beyond `10 ^ 400` everything is
infinite, and below `10 ^ (-400)` everything is zero, whatever the exponent. -/
def ofDecimal (negative : Bool) (significand : Nat) (exponent : Int) : Number :=
  if significand = 0 then ofUnits negative 0
  else if 400 < exponent then infinite negative
  else if exponent + significand.log2 + 1 < -400 then ofUnits negative 0
  else if 0 ≤ exponent then ofUnits negative (significand * 10 ^ exponent.toNat * unit)
  else ofRatio negative (significand * unit) (10 ^ (-exponent).toNat)

/-- The whole number of times that `10 ^ place` goes into `units`, and what is left over, as a
fraction `num / den`: the pair stands for `units / 10 ^ place` before rounding. -/
def atPlace (units : Nat) (place : Int) : Nat × Nat :=
  if 0 ≤ place then (units, unit * 10 ^ place.toNat)
  else (units * 10 ^ (-place).toNat, unit)

/-- The greatest place at most `start` whose power of ten is not above `units`; `fuel` bounds the
search. -/
def leadingPlaceFrom (units : Nat) : Nat → Int → Int
  | 0, start => start
  | fuel + 1, start =>
    if (atPlace units start).2 ≤ (atPlace units start).1 then start
    else leadingPlaceFrom units fuel (start - 1)

/-- The place of the leading decimal digit of a positive number of units.  The search starts just
above the value, at a bound from its binary length. -/
def leadingPlace (units : Nat) : Int :=
  leadingPlaceFrom units 640 (((units.log2 : Int) - 1074) * 30103 / 100000 + 1)

/-- The decimal nearest to `units` whose last digit stands at `place`; a half goes to the even
neighbour. -/
def decimalNear (units : Nat) (place : Int) : Decimal :=
  ⟨nearest (atPlace units place).1 (atPlace units place).2, place⟩

/-- Tells whether a decimal reads back as `units`. -/
def readsBack (units : Nat) (d : Decimal) : Bool :=
  match ofDecimal false d.significand d.exponent with
  | finite _ back _ => back == units
  | _ => false

/-- The neighbours of `units` on the grid of `place` that read back as `units`: none, one, or the
nearer of both, a tie going up. -/
def readingBackAt (units : Nat) (place : Int) : Option Decimal :=
  let (num, den) := atPlace units place
  let below : Decimal := ⟨num / den, place⟩
  let above : Decimal := ⟨num / den + 1, place⟩
  if readsBack units below then
    if readsBack units above && den ≤ 2 * (num % den) then some above else some below
  else if readsBack units above then some above
  else none

/-- The first decimal that reads back when the place moves down from `place`; after `fuel` places
the exact expansion, which always reads back. -/
def shortestFrom (units : Nat) : Nat → Int → Decimal
  | 0, _ => ⟨units * 5 ^ 1074, -1074⟩
  | fuel + 1, place =>
    match readingBackAt units place with
    | some d => d
    | none => shortestFrom units fuel (place - 1)

/-- The decimal with the fewest digits that reads back as a positive number of units; of two such
decimals the nearer one. -/
def shortest (units : Nat) : Decimal :=
  (shortestFrom units 17 (leadingPlace units)).normalize

/-- The decimal nearest to a positive number of units with `count` digits, a carry into a new
leading digit included. -/
def rounded (units count : Nat) : Decimal :=
  let place := leadingPlace units - ((count : Int) - 1)
  let near := decimalNear units place
  if near.significand < 10 ^ count then near
  else ⟨10 ^ (count - 1), place + 1⟩

end Number

end Guest
