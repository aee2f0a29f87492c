/-!
# Numerals

Natural numbers written in a radix between 2 and 36, and read back.  Digits above nine are the
letters from `a` on; both cases are read.
-/

namespace Guest

namespace Numeral

/-- The digit with a value below 36. -/
def digit (value : Nat) : Char :=
  if value < 10 then Char.ofNat (48 + value) else Char.ofNat (87 + value)

/-- The value of a digit in a radix. -/
def digitValue? (radix : Nat) (c : Char) : Option Nat :=
  let value :=
    if '0' ≤ c ∧ c ≤ '9' then c.toNat - 48
    else if 'a' ≤ c ∧ c ≤ 'z' then c.toNat - 87
    else if 'A' ≤ c ∧ c ≤ 'Z' then c.toNat - 55
    else radix
  if value < radix then some value else none

/-- Puts the digits of `n` before `tail`; `fuel` bounds their number. -/
def digitsOnto (radix : Nat) : Nat → Nat → List Char → List Char
  | 0, _, tail => tail
  | fuel + 1, n, tail =>
    if n < radix then digit n :: tail
    else digitsOnto radix fuel (n / radix) (digit (n % radix) :: tail)

/-- The numeral of `n`, without leading zeros. -/
def ofNat (radix n : Nat) : List Char := digitsOnto radix (n.log2 + 1) n []

/-- The decimal numeral of `n`. -/
def decimal (n : Nat) : List Char := ofNat 10 n

/-- The number that a list of digits denotes; characters that are no digits count as zero. -/
def value (radix : Nat) (digits : List Char) : Nat :=
  digits.foldl (fun n c => n * radix + (digitValue? radix c).getD 0) 0

/-- Tells the decimal digits. -/
def isDecimalDigit (c : Char) : Bool := '0' ≤ c && c ≤ '9'

end Numeral

end Guest
