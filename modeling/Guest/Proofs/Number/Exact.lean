import Guest.Proofs.Number.Numerals
import Guest.Proofs.Number.Reading
import Mathlib.Algebra.Order.Field.Power
import Mathlib.Algebra.Order.Field.Rat
import Mathlib.Tactic.NormNum

/-!
# The exact values of decimals

A decimal is read as the number nearest to its exact value, and rounding keeps the order.  So two
decimals of one exact value are read alike, and of two numbers the greater one has the greater
shortest decimal.  The place of the point tells between which powers of ten a decimal lies.
-/

namespace Guest

/-! ## Rounding keeps the order -/

theorem nearest_mono {num num' den : Nat} (h : num ≤ num') :
    nearest num den ≤ nearest num' den := by
  have hdiv : num / den ≤ num' / den := Nat.div_le_div_right h
  rcases Nat.lt_or_eq_of_le hdiv with hlt | heq
  · calc nearest num den
        ≤ num / den + 1 := nearest_le_div_succ _ _
      _ ≤ num' / den := hlt
      _ ≤ nearest num' den := div_le_nearest _ _
  · have hmod : num % den ≤ num' % den := by
      have hnum := Nat.div_add_mod num den
      have hnum' := Nat.div_add_mod num' den
      rw [heq] at hnum
      omega
    -- With equal quotients the greater remainder is carried wherever the smaller one is.
    unfold nearest
    rw [heq]
    split_ifs <;> omega

namespace Number

variable {negative other other' : Bool} {num num' den den' units m n : Nat}

/-- The units of the number nearest to a ratio, wherever the range ends. -/
def roundedUnits (num den : Nat) : Nat :=
  nearest num (den * spacing (num / den)) * spacing (num / den)

theorem roundedUnits_of_ofRatio {h : Representable units}
    (hfinite : ofRatio negative num den = finite other units h) : roundedUnits num den = units := by
  unfold ofRatio at hfinite
  dsimp only at hfinite
  split at hfinite
  · exact (finite.inj hfinite).2
  · cases hfinite

theorem roundedUnits_le :
    roundedUnits num den ≤ 2 ^ (53 + ((num / den).log2 - 52)) := by
  rw [Nat.pow_add]
  exact Nat.mul_le_mul_right _ (nearest_spacing_le num den)

theorem log2_mono (h : m ≤ n) : m.log2 ≤ n.log2 := by
  rcases Nat.eq_zero_or_pos m with rfl | hpos
  · exact Nat.zero_le _
  · rw [Nat.le_log2 (by omega)]
    exact Nat.le_trans (Nat.log2_self_le (by omega)) h

/-- Where the leading bits of two ratios differ, the rounded ones are on both sides of the greater
leading bit; where they agree, both are rounded to the same places. -/
theorem roundedUnits_mono (h : num ≤ num') : roundedUnits num den ≤ roundedUnits num' den := by
  have hdiv : num / den ≤ num' / den := Nat.div_le_div_right h
  have hlog : (num / den).log2 ≤ (num' / den).log2 := log2_mono hdiv
  by_cases hsame : (num / den).log2 - 52 = (num' / den).log2 - 52
  · have hspacing : spacing (num / den) = spacing (num' / den) := congrArg (2 ^ ·) hsame
    unfold roundedUnits
    rw [hspacing]
    exact Nat.mul_le_mul_right _ (nearest_mono h)
  · have hpos : 0 < num' / den := by
      rcases Nat.eq_zero_or_pos (num' / den) with hzero | hpos
      · rw [hzero, Nat.log2_zero] at hlog hsame
        omega
      · exact hpos
    calc roundedUnits num den
        ≤ 2 ^ (53 + ((num / den).log2 - 52)) := roundedUnits_le
      _ ≤ 2 ^ (num' / den).log2 := Nat.pow_le_pow_right (by decide) (by omega)
      _ ≤ roundedUnits num' den := two_pow_log2_le hpos

theorem ofRatio_le {hm : Representable m} {hn : Representable n} (hden : 0 < den) (hden' : 0 < den')
    (hle : num * den' ≤ num' * den) (hfinite : ofRatio negative num den = finite other m hm)
    (hfinite' : ofRatio negative num' den' = finite other' n hn) : m ≤ n := by
  rw [← ofRatio_mul_left hden'] at hfinite
  rw [← ofRatio_mul_left hden, Nat.mul_comm den den'] at hfinite'
  rw [← roundedUnits_of_ofRatio hfinite, ← roundedUnits_of_ofRatio hfinite', Nat.mul_comm den' num,
    Nat.mul_comm den num']
  exact roundedUnits_mono hle

end Number

/-! ## Exact values -/

namespace Decimal

variable {d e : Decimal}

/-- The value of a decimal. -/
def exact (d : Decimal) : ℚ := d.significand * 10 ^ d.exponent

theorem exact_eq_div (d : Decimal) :
    d.exact =
      ((d.significand * 10 ^ d.exponent.toNat : ℕ) : ℚ) / (10 ^ (-d.exponent).toNat : ℕ) := by
  rw [exact]
  rcases Int.le_total 0 d.exponent with hsign | hsign
  · obtain ⟨k, hk⟩ := Int.eq_ofNat_of_zero_le hsign
    rw [hk]
    simp
  · obtain ⟨k, hk⟩ := Int.exists_eq_neg_ofNat hsign
    rw [hk]
    simp [div_eq_mul_inv]

theorem exact_le_iff :
    d.exact ≤ e.exact ↔
      d.significand * 10 ^ d.exponent.toNat * 10 ^ (-e.exponent).toNat ≤
        e.significand * 10 ^ e.exponent.toNat * 10 ^ (-d.exponent).toNat := by
  have hpos (k : ℕ) : (0 : ℚ) < (10 ^ k : ℕ) := Nat.cast_pos.mpr (Nat.pow_pos (by decide))
  rw [exact_eq_div, exact_eq_div, div_le_div_iff₀ (hpos _) (hpos _)]
  exact_mod_cast Iff.rfl

/-- Zeros at the end of the significand may be moved into the exponent. -/
theorem exact_mul_ten_pow {significand k : ℕ} {exponent : ℤ} :
    exact ⟨significand * 10 ^ k, exponent⟩ = exact ⟨significand, exponent + k⟩ := by
  have hten : (10 : ℚ) ≠ 0 := by norm_num
  simp only [exact, Nat.cast_mul, Nat.cast_pow, Nat.cast_ofNat]
  rw [zpow_add₀ hten, zpow_natCast]
  ring

end Decimal

/-! ## Reading exact values -/

namespace Number

variable {negative other other' : Bool} {d e : Decimal} {m n units : Nat}

/-- Decimals of one exact value are read alike. -/
theorem ofDecimal_congr (h : d.exact = e.exact) :
    ofDecimal negative d.significand d.exponent = ofDecimal negative e.significand e.exponent := by
  have hle := Decimal.exact_le_iff.mp h.le
  have hge := Decimal.exact_le_iff.mp h.ge
  rw [ofDecimal_eq_ofRatio, ofDecimal_eq_ofRatio]
  apply ofRatio_congr (Nat.pow_pos (by decide)) (Nat.pow_pos (by decide))
  rw [Nat.mul_right_comm, Nat.mul_right_comm _ unit]
  exact congrArg (· * unit) (Nat.le_antisymm hle hge)

/-- Reading decimals keeps their order. -/
theorem units_le_of_exact_le {hm : Representable m} {hn : Representable n}
    (hle : d.exact ≤ e.exact)
    (hd : ofDecimal negative d.significand d.exponent = finite other m hm)
    (he : ofDecimal negative e.significand e.exponent = finite other' n hn) : m ≤ n := by
  rw [ofDecimal_eq_ofRatio] at hd he
  refine ofRatio_le (Nat.pow_pos (by decide)) (Nat.pow_pos (by decide)) ?_ hd he
  rw [Nat.mul_right_comm, Nat.mul_right_comm _ unit]
  exact Nat.mul_le_mul_right _ (Decimal.exact_le_iff.mp hle)

/-- The order of the shortest decimals is that of the numbers. -/
theorem exact_shortest_le_iff (hm : Representable m) (hn : Representable n) :
    (shortest m).exact ≤ (shortest n).exact ↔ m ≤ n := by
  have hback {m n : Nat} (hm : Representable m) (hn : Representable n)
      (h : (shortest m).exact ≤ (shortest n).exact) : m ≤ n :=
    units_le_of_exact_le h (ofDecimal_shortest hm) (ofDecimal_shortest hn)
  refine ⟨hback hm hn, fun hle => ?_⟩
  by_contra hless
  have hge : n ≤ m := hback hn hm (le_of_not_ge hless)
  rw [Nat.le_antisymm hle hge] at hless
  exact hless le_rfl

/-! ## The significand of the shortest decimal -/

theorem significand_pos_of_ofDecimal {significand : Nat} {exponent : Int} {h : Representable units}
    (hne : units ≠ 0) (hfinite : ofDecimal negative significand exponent = finite other units h) :
    0 < significand := by
  rw [Nat.pos_iff_ne_zero]
  rintro rfl
  rw [ofDecimal, if_pos rfl, ofUnits, ofRatio_zero (by decide)] at hfinite
  exact hne (finite.inj hfinite).2.symm

theorem significand_shortest_pos (hunits : Representable units) (hne : units ≠ 0) :
    0 < (shortest units).significand :=
  significand_pos_of_ofDecimal hne (ofDecimal_shortest hunits)

/-- Each zero that is moved takes a binary digit at least, so no zero is left. -/
theorem stripZeros_mod_ten {fuel : Nat} (hpos : 0 < d.significand)
    (hfuel : d.significand < 2 ^ (fuel + 1)) : (d.stripZeros fuel).significand % 10 ≠ 0 := by
  induction fuel generalizing d with
  | zero =>
      rw [Decimal.stripZeros]
      omega
  | succ fuel ih =>
      rw [Decimal.stripZeros]
      split
      · rw [Nat.pow_succ] at hfuel
        exact ih (by dsimp only; omega) (by dsimp only; omega)
      · next hzero => omega

/-- The shortest decimal has no superfluous zeros. -/
theorem shortest_mod_ten (hunits : Representable units) (hne : units ≠ 0) :
    (shortest units).significand % 10 ≠ 0 :=
  stripZeros_mod_ten
    (significand_pos_of_ofDecimal hne (ofDecimal_shortestFrom hunits)) Nat.lt_log2_self

end Number

/-! ## The place of the point -/

namespace Decimal

variable {d : Decimal}

theorem ten_pow_mul_zpow (k : ℕ) (exponent : ℤ) :
    ((10 ^ k : ℕ) : ℚ) * 10 ^ exponent = 10 ^ (k + exponent) := by
  rw [zpow_add₀ (by norm_num), zpow_natCast, Nat.cast_pow, Nat.cast_ofNat]

theorem zpow_le_exact (hd : 0 < d.significand) : (10 : ℚ) ^ (d.pointPlace - 1) ≤ d.exact := by
  have hlength : 0 < d.digits.length := List.length_pos_iff.mpr Numeral.decimal_ne_nil
  have hplace : d.pointPlace - 1 = ((d.digits.length - 1 : ℕ) : ℤ) + d.exponent := by
    rw [pointPlace]
    omega
  rw [hplace, ← ten_pow_mul_zpow, exact]
  exact mul_le_mul_of_nonneg_right (Nat.cast_le.mpr (Numeral.pow_length_decimal_le hd))
    (zpow_nonneg (by norm_num) _)

theorem exact_lt_zpow (d : Decimal) : d.exact < (10 : ℚ) ^ d.pointPlace := by
  rw [pointPlace, ← ten_pow_mul_zpow, exact]
  exact mul_lt_mul_of_pos_right (Nat.cast_lt.mpr Numeral.lt_pow_length_decimal)
    (zpow_pos (by norm_num) _)

/-- The point stands behind the place of a power of ten exactly if the decimal reaches the power. -/
theorem lt_pointPlace_iff (hd : 0 < d.significand) (place : ℤ) :
    place < d.pointPlace ↔ (10 : ℚ) ^ place ≤ d.exact := by
  have hten : (1 : ℚ) < 10 := by norm_num
  constructor
  · intro h
    calc (10 : ℚ) ^ place
        ≤ 10 ^ (d.pointPlace - 1) := zpow_le_zpow_right₀ hten.le (by omega)
      _ ≤ d.exact := zpow_le_exact hd
  · intro h
    exact (zpow_lt_zpow_iff_right₀ hten).mp (h.trans_lt (exact_lt_zpow d))

end Decimal
end Guest
