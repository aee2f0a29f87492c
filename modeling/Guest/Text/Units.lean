/-!
# Code units

Characters from 16-bit code units: two units of a surrogate pair make one character, and a unit
that is left alone makes the replacement character.
-/

namespace Guest

namespace Text

/-- Tells the first unit of a surrogate pair. -/
def isHighSurrogate (unit : Nat) : Bool := 0xD800 ≤ unit && unit < 0xDC00

/-- Tells the second unit of a surrogate pair. -/
def isLowSurrogate (unit : Nat) : Bool := 0xDC00 ≤ unit && unit < 0xE000

/-- The code point of a surrogate pair. -/
def pairCode (high low : Nat) : Nat := 0x10000 + (high - 0xD800) * 0x400 + (low - 0xDC00)

/-- The character that stands for what is none. -/
def replacement : Char := Char.ofNat 0xFFFD

/-- The character of a unit that belongs to no pair. -/
def ofLoneUnit (unit : Nat) : Char :=
  if isHighSurrogate unit || isLowSurrogate unit then replacement else Char.ofNat unit

/-- The characters of code units. -/
def ofUnits : List Nat → List Char
  | [] => []
  | [unit] => [ofLoneUnit unit]
  | unit :: next :: rest =>
    if isHighSurrogate unit && isLowSurrogate next then
      Char.ofNat (pairCode unit next) :: ofUnits rest
    else ofLoneUnit unit :: ofUnits (next :: rest)

end Text

end Guest
