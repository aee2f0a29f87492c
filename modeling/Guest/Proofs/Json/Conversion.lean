import Guest.Proofs.Json.Writing
import Guest.Proofs.Number.Rounding

/-!
# Where numerals are converted exactly

The reader scales a rounded significand by a rounded power of ten, so it may miss the nearest
number.  It does not where no more than one of the steps rounds: where the significand and the
power are numbers themselves, and where nothing is scaled.
-/

namespace Guest

namespace JsonNumeral

open Number
open Numeral (AllDigits)

variable {digits : List Char} {c : Char} {start : Nat} {exponent : Int} {n : JsonNumeral}

/-! ## Scaling -/

theorem power_eq (k : Nat) : power k = ofUnits false (10 ^ k * unit) := by
  rw [power, ofDecimal_natCast, Nat.one_mul]

theorem isZero_ofNat (hpos : 0 < start) (hstart : start ≤ 2 ^ 53) :
    (Number.ofNat start).isZero = false := by
  have hne : start * unit ≠ 0 := Nat.ne_of_gt (Nat.mul_pos hpos unit_pos)
  rw [Number.ofNat, ofUnits_exact (representable_mul_unit hstart)]
  exact beq_eq_false_iff_ne.mpr hne

theorem ofDecimal_zero : ofDecimal false 0 exponent = .zero := by
  rw [ofDecimal, if_pos rfl]
  exact ofUnits_exact representable_zero

/-- A significand and a power that are numbers themselves. -/
theorem scaled?_of_le (hstart : start ≤ 2 ^ 53) (hexponent : exponent.natAbs ≤ 22) :
    scaled? start exponent = some (ofDecimal false start exponent) := by
  rcases Nat.eq_zero_or_pos start with rfl | hpos
  · rw [scaled?, Number.ofNat_zero, ofDecimal_zero, divided]
    simp [Number.zero, Number.isZero]
  have hzero := isZero_ofNat hpos hstart
  have hunits := representable_mul_unit hstart
  have hten := representable_ten_pow hexponent
  rw [scaled?]
  dsimp only
  split
  · next hneg =>
      have hk : exponent = -(exponent.natAbs : Int) := by omega
      have hmost : exponent.natAbs ≤ mostPower := Nat.le_trans hexponent (by decide)
      rw [divided, hzero, dif_pos hmost, power_eq]
      conv =>
        rhs
        rw [hk, ofDecimal_neg]
      rw [if_neg (by decide), Number.ofNat,
        div_ofUnits hunits hten (Nat.pow_pos (by decide))]
  · next hnonneg =>
      have hk : exponent = (exponent.natAbs : Int) := by omega
      have hnat : exponent.toNat = exponent.natAbs := by omega
      have hmost : exponent ≤ mostPower := by
        have hpower : (22 : Int) ≤ mostPower := by decide
        omega
      have hsmall : 4 * (start * 10 ^ exponent.natAbs) < 2 ^ 1024 := by
        calc 4 * (start * 10 ^ exponent.natAbs)
            ≤ 4 * (2 ^ 53 * 10 ^ 22) := Nat.mul_le_mul_left _
              (Nat.mul_le_mul hstart (Nat.pow_le_pow_right (by decide) hexponent))
          _ < 2 ^ 200 := by decide
          _ ≤ 2 ^ 1024 := Nat.pow_le_pow_right (by decide) (by decide)
      obtain ⟨units, hrange, hfinite⟩ := @exists_ofRatio_eq_finite _ _ false (lt_rangeEnd hsmall)
      rw [hzero, if_neg (by decide), if_pos hmost, hnat, power_eq, Number.ofNat,
        mul_ofUnits hunits hten]
      conv =>
        rhs
        rw [hk, ofDecimal_natCast]
      rw [ofUnits, hfinite]
      rfl

/-- A significand of 64 bits that is not scaled. -/
theorem scaled?_zero (hstart : start < significandEnd) :
    scaled? start 0 = some (ofDecimal false start 0) := by
  have hsmall : 4 * start < 2 ^ 1024 := by
    calc 4 * start
        < 4 * significandEnd := Nat.mul_lt_mul_of_pos_left hstart (by decide)
      _ = 2 ^ 66 := by decide
      _ ≤ 2 ^ 1024 := Nat.pow_le_pow_right (by decide) (by decide)
  obtain ⟨units, hrange, hfinite⟩ := @exists_ofRatio_eq_finite _ _ false (lt_rangeEnd hsmall)
  have hofNat : Number.ofNat start = finite false units hrange := hfinite
  have hdecimal : ofDecimal false start 0 = finite false units hrange := by
    have h := @ofDecimal_natCast false start 0
    rw [Nat.pow_zero, Nat.mul_one] at h
    exact h.trans hfinite
  have hpower : power (0 : Int).toNat = ofUnits false (1 * unit) := by
    rw [Int.toNat_zero, power_eq, Nat.pow_zero]
  rw [scaled?, hofNat, hdecimal, hpower, mul_one_ofUnits]
  simp [Number.isInfinite, mostPower]

/-! ## Collecting digits -/

theorem collect_digits (hdigits : AllDigits digits)
    (h : start * 10 ^ digits.length + Numeral.value 10 digits < significandEnd) :
    collect start digits = (start * 10 ^ digits.length + Numeral.value 10 digits, []) := by
  induction digits generalizing start with
  | nil => simp [collect, Numeral.value]
  | cons c digits ih =>
      obtain ⟨hc, hmore⟩ := List.forall_mem_cons.mp hdigits
      have hnext : start * 10 ^ (c :: digits).length + Numeral.value 10 (c :: digits) =
          (start * 10 + (c.toNat - '0'.toNat)) * 10 ^ digits.length +
            Numeral.value 10 digits := by
        rw [Numeral.value_cons, Numeral.digitValue?_of_isDecimalDigit hc, Option.getD_some,
          List.length_cons, Nat.pow_succ]
        ring
      rw [hnext] at h ⊢
      have hfits : start * 10 + (c.toNat - '0'.toNat) < significandEnd := by
        have hpow : 0 < 10 ^ digits.length := Nat.pow_pos (by decide)
        have hle := Nat.le_mul_of_pos_right (start * 10 + (c.toNat - '0'.toNat)) hpow
        omega
      rw [collect, if_pos hfits, ih hmore h]

/-! ## Conversion -/

/-- The digits of the numeral as one number. -/
def significand (n : JsonNumeral) : Nat := Numeral.value 10 (n.whole ++ n.fraction)

/-- The power of ten that the last digit stands for. -/
def scale (n : JsonNumeral) : Int :=
  (if n.exponentNegative then -(Numeral.value 10 n.exponent : Int)
    else Numeral.value 10 n.exponent) - n.fraction.length

/-- A numeral whose conversion rounds at most once: its digits and its power of ten are numbers,
or it has no power of ten and its digits fit into 64 bits. -/
structure Simple (n : JsonNumeral) : Prop where
  exponent : Numeral.value 10 n.exponent ≤ mostExponent
  digits : n.significand ≤ 2 ^ 53 ∧ n.scale.natAbs ≤ 22 ∨
    n.significand < significandEnd ∧ n.scale = 0

instance (n : JsonNumeral) : Decidable n.Simple :=
  decidable_of_iff (Numeral.value 10 n.exponent ≤ mostExponent ∧
    (n.significand ≤ 2 ^ 53 ∧ n.scale.natAbs ≤ 22 ∨
      n.significand < significandEnd ∧ n.scale = 0))
    ⟨fun h => ⟨h.1, h.2⟩, fun h => ⟨h.exponent, h.digits⟩⟩

theorem Simple.significand_lt (h : n.Simple) : n.significand < significandEnd := by
  have hend : 2 ^ 53 < significandEnd := by decide
  rcases h.digits with ⟨hdigits, -⟩ | ⟨hdigits, -⟩
  · omega
  · exact hdigits

theorem Simple.scaled?_eq (h : n.Simple) :
    scaled? n.significand n.scale = some n.literal.value := by
  rcases h.digits with ⟨hdigits, hscale⟩ | ⟨hdigits, hscale⟩
  · exact scaled?_of_le hdigits hscale
  · have hzero := scaled?_zero hdigits
    rw [← hscale] at hzero
    exact hzero

/-- The reader converts a simple numeral to the number nearest to it. -/
theorem value?_of_simple {w : List Char} (hw : JsonText.NumeralText w n) (h : n.Simple) :
    n.value? = some n.nearest := by
  obtain ⟨hwhole, hfraction⟩ : AllDigits n.whole ∧ AllDigits n.fraction := by
    cases hw with
    | parts hwhole _ _ hpoint =>
        refine ⟨hwhole, ?_⟩
        cases hpoint with
        | none => exact Numeral.allDigits_nil
        | point hdigits => exact hdigits
  have hsignificand : Numeral.value 10 n.whole * 10 ^ n.fraction.length +
      Numeral.value 10 n.fraction = n.significand := Numeral.value_append.symm
  have hend := h.significand_lt
  have hcollectWhole : collect 0 n.whole = (Numeral.value 10 n.whole, []) := by
    have hpow : 0 < 10 ^ n.fraction.length := Nat.pow_pos (by decide)
    have hle := Nat.le_mul_of_pos_right (Numeral.value 10 n.whole) hpow
    have hcollect := @collect_digits n.whole 0 hwhole (by omega)
    rwa [Nat.zero_mul, Nat.zero_add] at hcollect
  have hcollect := @collect_digits n.fraction (Numeral.value 10 n.whole) hfraction (by omega)
  rw [hsignificand] at hcollect
  have hshift : (if n.exponentNegative then
        ((0 : Nat) : Int) - (n.fraction.length - 0 : Nat) - Numeral.value 10 n.exponent
      else ((0 : Nat) : Int) - (n.fraction.length - 0 : Nat) + Numeral.value 10 n.exponent) =
      n.scale := by
    rw [scale]
    split <;> omega
  have hmagnitude : n.magnitude? = some n.literal.value := by
    rw [magnitude?, hcollectWhole]
    dsimp only
    rw [hcollect]
    dsimp only
    rw [if_neg (Nat.not_lt.mpr h.exponent), List.length_nil, hshift]
    exact h.scaled?_eq
  rw [value?, hmagnitude]
  rfl

end JsonNumeral

end Guest
