import Guest.Number.Text

/-!
# Fixed-point text

Up to 28 decimal places a number is first carried over to a decimal coefficient of at most 96 bits
with at most 28 places, and that decimal is rounded, a half going away from zero; a coefficient
that only this rounding makes zero loses its sign.  More places are written from the exact value,
a half going to the even neighbour.
-/

namespace Guest

/-- A coefficient and the count of its decimal places. -/
structure Coefficient where
  value : Nat
  /-- How many of them stand after the point. -/
  places : Nat
  deriving DecidableEq, Repr

namespace Coefficient

/-- The end of the coefficients' range. -/
def bound : Nat := 2 ^ 96

/-- The greatest count of decimal places. -/
def mostPlaces : Nat := 28

/-- Divides by `2 ^ steps` in decimal: an even value is halved, an odd one takes a factor of five
and one more place, and where that leaves the range the last bit is lost. -/
def halve : Nat → Coefficient → Coefficient
  | 0, c => c
  | steps + 1, c =>
    if c.value % 2 = 0 then halve steps ⟨c.value / 2, c.places⟩
    else if c.value * 5 < bound then halve steps ⟨c.value * 5, c.places + 1⟩
    else halve steps ⟨c.value / 2, c.places⟩

/-- Drops places beyond the greatest count; each dropped digit rounds the one before it. -/
def dropPlaces : Nat → Coefficient → Coefficient
  | 0, c => c
  | steps + 1, c =>
    if c.places ≤ mostPlaces then c
    else if c.value / 10 = 0 then ⟨0, 0⟩
    else
      let kept := if 5 ≤ c.value % 10 then c.value / 10 + 1 else c.value / 10
      dropPlaces steps ⟨kept, c.places - 1⟩

/-- The coefficient of a positive number of units below `10 ^ 21`.  The significand and its binary
exponent are those of the number's interchange encoding. -/
def ofUnits (units : Nat) : Coefficient :=
  let step := Number.spacing units
  let significand := units / step
  if Number.unit ≤ step then ⟨significand * (step / Number.unit), 0⟩
  else
    let halvings := 1074 - step.log2
    dropPlaces halvings (halve halvings ⟨significand, 0⟩)

/-- The coefficient with at most `places` places, a half going away from zero. -/
def roundTo (places : Nat) (c : Coefficient) : Coefficient :=
  if c.places ≤ places then c
  else
    let scale := 10 ^ (c.places - places)
    let kept := c.value / scale
    ⟨if scale ≤ 2 * (c.value % scale) then kept + 1 else kept, places⟩

/-- The text with exactly `places` decimal places, none of which is lost. -/
def text (places : Nat) (c : Coefficient) : List Char :=
  Number.positionalText (c.value * 10 ^ (places - c.places)) places

end Coefficient

namespace Number

/-- The text with `places` decimal places, at most a hundred; numbers from `10 ^ 21` on have their
canonical text instead. -/
def fixed? (x : Number) (places : Nat) : Option (List Char) :=
  if 100 < places then none
  else
    match x with
    | finite negative units _ =>
      if 10 ^ 21 * unit ≤ units then some x.text
      else if units = 0 then some (positionalText 0 places)
      else if places ≤ Coefficient.mostPlaces then
        let exact := Coefficient.ofUnits units
        let rounded := exact.roundTo places
        some (signText (negative && (rounded.value != 0 || exact.value == 0))
          (rounded.text places))
      else
        some (signText negative
          (positionalText (decimalNear units (-(places : Int))).significand places))
    | _ => some x.text

end Number

end Guest
