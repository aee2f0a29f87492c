import Guest.Number.Decimal

/-!
# The text of numbers

The canonical text of a number has the fewest digits that read back; it is positional from
`10 ^ (-6)` up to `10 ^ 21` and exponential elsewhere, and zero has no sign.  The module also
writes numbers in another radix, with a given count of significant digits, and in exponential
form.
-/

namespace Guest

namespace Number

/-- `count` zeros. -/
def zeros (count : Nat) : List Char := List.replicate count '0'

/-- A minus sign for negative numbers. -/
def signText (negative : Bool) (text : List Char) : List Char :=
  if negative then '-' :: text else text

/-- The text of the values that are not finite. -/
def textNaN : List Char := ['N', 'a', 'N']

/-- The text of infinity without its sign. -/
def textInfinity : List Char := ['I', 'n', 'f', 'i', 'n', 'i', 't', 'y']

/-- The exponent part of the exponential form; the sign is always written. -/
def exponentText (exponent : Int) : List Char :=
  if 0 ≤ exponent then 'e' :: '+' :: Numeral.decimal exponent.toNat
  else 'e' :: '-' :: Numeral.decimal (-exponent).toNat

/-- Digits with a point after the first one, if others follow. -/
def mantissaText : List Char → List Char
  | first :: second :: rest => first :: '.' :: second :: rest
  | digits => digits

/-- The exponential form of a decimal. -/
def exponentialText (d : Decimal) : List Char :=
  mantissaText d.digits ++ exponentText (d.pointPlace - 1)

/-- A natural number of units of the last of `places` decimal places. -/
def positionalText (significand places : Nat) : List Char :=
  let digits := Numeral.decimal significand
  let padded := zeros (places + 1 - digits.length) ++ digits
  let whole := padded.take (padded.length - places)
  let fraction := padded.drop (padded.length - places)
  if fraction.isEmpty then whole else whole ++ '.' :: fraction

/-- The canonical form of a positive decimal without zeros at its end. -/
def decimalText (d : Decimal) : List Char :=
  let digits := d.digits
  let point := d.pointPlace
  if digits.length ≤ point ∧ point ≤ 21 then digits ++ zeros (point - digits.length).toNat
  else if 0 < point ∧ point ≤ 21 then
    digits.take point.toNat ++ '.' :: digits.drop point.toNat
  else if -6 < point ∧ point ≤ 0 then '0' :: '.' :: zeros (-point).toNat ++ digits
  else exponentialText d

/-- The canonical text of a number. -/
def text : Number → List Char
  | nan => textNaN
  | infinite negative => signText negative textInfinity
  | finite negative units _ =>
    if units = 0 then ['0'] else signText negative (decimalText (shortest units))

/-- The digits of a fraction in a radix, at most `count` of them. -/
def fractionDigits (radix : Number) : Nat → Number → List Char
  | 0, _ => []
  | count + 1, fraction =>
    if zero.less fraction then
      let scaled := fraction * radix
      Numeral.digit scaled.toInt.toNat :: fractionDigits radix count (scaled - scaled.trunc)
    else []

/-- Puts the digits of a whole number before `tail`; `count` bounds their number. -/
def wholeDigitsOnto (radix : Number) : Nat → Number → List Char → List Char
  | 0, _, tail => tail
  | count + 1, whole, tail =>
    let digits := Numeral.digit (whole % radix).toInt.toNat :: tail
    let rest := (whole / radix).trunc
    if rest.less one then digits else wholeDigitsOnto radix count rest digits

/-- The text of a number in a radix from 2 to 36; other radices have none.  A fraction is cut
after 52 digits. -/
def textInRadix? (x : Number) (radix : Nat) : Option (List Char) :=
  if radix < 2 ∨ 36 < radix then none
  else if radix = 10 || !x.isFinite then some x.text
  else
    let base := ofNat radix
    let whole := x.abs.trunc
    let fraction := x.abs - whole
    let text := wholeDigitsOnto base 1100 whole []
    let text :=
      if zero.less fraction then text ++ '.' :: fractionDigits base 52 fraction else text
    some (signText (x.less zero) text)

/-- The exponential form of zero with `places` decimal places. -/
def exponentialZero (places : Nat) : List Char := positionalText 0 places ++ exponentText 0

/-- The exponential form: the fewest digits that read back, or one digit and `places?` decimal
places, of which there are at most a hundred. -/
def exponential? (x : Number) (places? : Option Nat) : Option (List Char) :=
  match x with
  | finite negative units _ =>
    match places? with
    | none =>
      some (signText negative
        (if units = 0 then exponentialZero 0 else exponentialText (shortest units)))
    | some places =>
      if 100 < places then none
      else some (signText negative
        (if units = 0 then exponentialZero places
         else exponentialText (rounded units (places + 1))))
  | _ => some x.text

/-- The text with `precision` significant digits, from 1 to 100: exponential where the exponent is
below `-6` or not below the precision.  The positional text is rounded anew, at the place that the
exponent leaves for its last digit. -/
def precision? (x : Number) (count? : Option Nat) : Option (List Char) :=
  match count?, x with
  | some precision, finite negative units _ =>
    if precision = 0 ∨ 100 < precision then none
    else if units = 0 then some (signText negative (positionalText 0 (precision - 1)))
    else
      let d := rounded units precision
      let exponent := d.pointPlace - 1
      let places := (precision - 1 - exponent).toNat
      some (signText negative
        (if exponent < -6 ∨ (precision : Int) ≤ exponent then exponentialText d
         else positionalText (decimalNear units (-(places : Int))).significand places))
  | _, _ => some x.text

end Number

end Guest
