/-!
# Numbers

The numbers of the language are the binary64 numbers: 53 significant bits, signed zeros, two
infinities and one value that is not a number.  Every finite one is a whole multiple of the least
positive one, `2 ^ (-1074)`, so a finite number is stored as its sign and that multiple, its
*units*.  Sums, products and comparisons are then statements about natural numbers, and every
operation is its exact result followed by one rounding, `Number.ofRatio`.
-/

namespace Guest

-- Keeps the powers below the core library's where a richer library offers its own.
@[default_instance 20000]
instance (priority := 20000) natPow : Pow Nat Nat := instPowNat

/-- The end of the finite range, as a multiple of the least positive number. -/
def rangeEnd : Nat := 2 ^ 2098

theorem rangeEnd_pos : 0 < rangeEnd := by
  unfold rangeEnd
  apply Nat.pow_pos
  decide

/-- Multiples of the least positive number that binary64 holds: they lie below the range's end and
have at most 53 significant bits. -/
def Representable (units : Nat) : Prop :=
  units < rangeEnd ∧ units % 2 ^ (units.log2 - 52) = 0

instance (units : Nat) : Decidable (Representable units) :=
  inferInstanceAs (Decidable (_ ∧ _))

/-- A binary64 number. -/
inductive Number where
  | nan
  | infinite (negative : Bool)
  /-- `± units * 2 ^ (-1074)`; zero has both signs. -/
  | finite (negative : Bool) (units : Nat) (representable : Representable units)
  deriving DecidableEq

/-- The natural number nearest to `num / den`; of two equally near ones, the even one. -/
def nearest (num den : Nat) : Nat :=
  if 2 * (num % den) < den then num / den
  else if den < 2 * (num % den) then num / den + 1
  else if num / den % 2 = 0 then num / den
  else num / den + 1

theorem div_le_nearest (num den : Nat) : num / den ≤ nearest num den := by
  unfold nearest
  split
  · exact Nat.le_refl _
  split
  · exact Nat.le_succ _
  split
  · exact Nat.le_refl _
  · exact Nat.le_succ _

theorem nearest_le_div_succ (num den : Nat) : nearest num den ≤ num / den + 1 := by
  unfold nearest
  split
  · exact Nat.le_succ _
  split
  · exact Nat.le_refl _
  split
  · exact Nat.le_succ _
  · exact Nat.le_refl _

theorem representable_zero : Representable 0 :=
  ⟨rangeEnd_pos, Nat.zero_mod _⟩

/-- A significand of 53 bits, shifted, has no significant bit below the places of its number. -/
theorem two_pow_dvd_mul_two_pow {m k : Nat} (hm : m ≤ 2 ^ 53) :
    2 ^ ((m * 2 ^ k).log2 - 52) ∣ m * 2 ^ k := by
  rcases Nat.eq_zero_or_pos m with rfl | hpos
  · simp
  have hne : m * 2 ^ k ≠ 0 := Nat.ne_of_gt (Nat.mul_pos hpos (Nat.two_pow_pos k))
  rcases Nat.lt_or_eq_of_le hm with hlt | rfl
  · have hbound : m * 2 ^ k < 2 ^ (53 + k) := by
      rw [Nat.pow_add]
      exact Nat.mul_lt_mul_of_pos_right hlt (Nat.two_pow_pos k)
    have hlog : (m * 2 ^ k).log2 < 53 + k := (Nat.log2_lt hne).2 hbound
    exact Nat.dvd_trans (Nat.pow_dvd_pow 2 (by omega)) (Nat.dvd_mul_left _ _)
  · have hlog : (2 ^ 53 * 2 ^ k : Nat).log2 = 53 + k := by
      rw [← Nat.pow_add, Nat.log2_two_pow]
    rw [hlog, ← Nat.pow_add]
    exact Nat.pow_dvd_pow 2 (by omega)

/-- A significand of 53 bits, shifted, is representable as long as it stays in range. -/
theorem representable_mul_two_pow {m k : Nat} (hm : m ≤ 2 ^ 53) (h : m * 2 ^ k < rangeEnd) :
    Representable (m * 2 ^ k) :=
  ⟨h, Nat.mod_eq_zero_of_dvd (two_pow_dvd_mul_two_pow hm)⟩

namespace Number

/-- The units in one. -/
def unit : Nat := 2 ^ 1074

/-- The distance between neighbouring numbers around `units`, in units. -/
def spacing (units : Nat) : Nat := 2 ^ (units.log2 - 52)

theorem nearest_spacing_le (num den : Nat) :
    nearest num (den * spacing (num / den)) ≤ 2 ^ 53 := by
  refine Nat.le_trans (nearest_le_div_succ _ _) (Nat.succ_le_of_lt ?_)
  rw [← Nat.div_div_eq_div_mul, spacing]
  rw [Nat.div_lt_iff_lt_mul (Nat.two_pow_pos _), ← Nat.pow_add]
  rcases Nat.eq_zero_or_pos (num / den) with h | h
  · rw [h]; exact Nat.two_pow_pos _
  exact Nat.lt_of_lt_of_le Nat.lt_log2_self (Nat.pow_le_pow_right (by decide) (by omega))

/-- The number nearest to `± num / den` units; of two equally near ones, the one whose last
significant bit is zero.  Past the end of the range the result is infinite. -/
def ofRatio (negative : Bool) (num den : Nat) : Number :=
  let step := spacing (num / den)
  let units := nearest num (den * step) * step
  if h : units < rangeEnd then
    .finite negative units (representable_mul_two_pow (nearest_spacing_le num den) h)
  else
    .infinite negative

/-- The number nearest to `± units` units. -/
def ofUnits (negative : Bool) (units : Nat) : Number := ofRatio negative units 1

/-- Zero. -/
def zero : Number := .finite false 0 representable_zero

/-- The zero with a minus sign. -/
def negZero : Number := .finite true 0 representable_zero

/-- The number nearest to a natural number. -/
def ofNat (n : Nat) : Number := ofUnits false (n * unit)

/-- The number nearest to an integer. -/
def ofInt (n : Int) : Number := ofUnits (decide (n < 0)) (n.natAbs * unit)

/-- One. -/
def one : Number := ofNat 1

instance : Inhabited Number := ⟨zero⟩

/-- Tells the value that is not a number. -/
def isNaN : Number → Bool
  | nan => true
  | _ => false

/-- Tells finite numbers. -/
def isFinite : Number → Bool
  | finite .. => true
  | _ => false

/-- Tells the two infinities. -/
def isInfinite : Number → Bool
  | infinite _ => true
  | _ => false

/-- Tells the two zeros. -/
def isZero : Number → Bool
  | finite _ units _ => units == 0
  | _ => false

/-- The value of a finite number in units, with its sign. -/
def scaled : Number → Int
  | finite false units _ => units
  | finite true units _ => -(units : Int)
  | _ => 0

/-- The order of numbers; there is none where a value is not a number.  The zeros are equal. -/
def compare : Number → Number → Option Ordering
  | nan, _ => none
  | _, nan => none
  | infinite a, infinite b =>
    some (if a == b then .eq else if a then .lt else .gt)
  | infinite a, finite .. => some (if a then .lt else .gt)
  | finite .., infinite b => some (if b then .gt else .lt)
  | x@(finite ..), y@(finite ..) => some (Ord.compare x.scaled y.scaled)

/-- Numeric equality: the zeros are equal, and what is not a number equals nothing. -/
def equals (x y : Number) : Bool := x.compare y == some .eq

/-- Numeric order. -/
def less (x y : Number) : Bool := x.compare y == some .lt

/-- Numeric order or equality. -/
def atMost (x y : Number) : Bool := x.less y || x.equals y

/-- The interchange encoding of the units of a finite number, without the sign. -/
def magnitudeBits (units : Nat) : Nat :=
  if units < 2 ^ 52 then units
  else (units.log2 - 52) * 2 ^ 52 + units / spacing units

/-- The 64 bits of the interchange encoding, as a natural number. -/
def toBits : Number → Nat
  | nan => 0x7FF8000000000000
  | infinite negative => (if negative then 2 ^ 63 else 0) + 2047 * 2 ^ 52
  | finite negative units _ => (if negative then 2 ^ 63 else 0) + magnitudeBits units

/-- The number with an interchange encoding. -/
def ofBits (bits : Nat) : Number :=
  let negative := bits / 2 ^ 63 % 2 == 1
  let exponent := bits / 2 ^ 52 % 2048
  let fraction := bits % 2 ^ 52
  if exponent = 2047 then
    if fraction = 0 then .infinite negative else .nan
  else if exponent = 0 then ofUnits negative fraction
  else ofUnits negative ((2 ^ 52 + fraction) * 2 ^ (exponent - 1))

end Number

end Guest
