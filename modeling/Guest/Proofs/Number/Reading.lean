import Guest.Number.Decimal
import Mathlib.Tactic.Ring

/-!
# Reading decimals

The number nearest to a decimal depends on its value alone, not on how the value is divided between
the significand and the exponent.  The bounds at which `Number.ofDecimal` cuts off are far outside
of the range, so they are no exception.  Hence the shortest decimal of a number reads back as the
number, with and without the zeros at its end.
-/

namespace Guest

/-! ## Ratios -/

theorem nearest_mul_left {k num den : Nat} (hk : 0 < k) :
    nearest (k * num) (k * den) = nearest num den := by
  have hmod : 2 * (k * (num % den)) = k * (2 * (num % den)) := by ring
  unfold nearest
  rw [Nat.mul_div_mul_left _ _ hk, Nat.mul_mod_mul_left, hmod]
  simp only [Nat.mul_lt_mul_left hk]

theorem nearest_mul_self {q den : Nat} (hden : 0 < den) : nearest (q * den) den = q := by
  unfold nearest
  simp [hden]

theorem nearest_eq_zero {num den : Nat} (h : 2 * num < den) : nearest num den = 0 := by
  have hlt : num < den := by omega
  unfold nearest
  simp [Nat.mod_eq_of_lt hlt, Nat.div_eq_of_lt hlt, h]

namespace Number

variable {negative : Bool} {num den units : Nat}

theorem finite_congr {units' : Nat} {h : Representable units} {h' : Representable units'}
    (heq : units = units') : finite negative units h = finite negative units' h' := by
  subst heq
  rfl

theorem spacing_pos : 0 < spacing units := Nat.two_pow_pos _

theorem ofRatio_mul_left {k : Nat} (hk : 0 < k) :
    ofRatio negative (k * num) (k * den) = ofRatio negative num den := by
  unfold ofRatio
  simp only [Nat.mul_div_mul_left _ _ hk, Nat.mul_assoc, nearest_mul_left hk]

/-- Equal ratios are read as the same number. -/
theorem ofRatio_congr {num' den' : Nat} (hden : 0 < den) (hden' : 0 < den')
    (h : num * den' = num' * den) : ofRatio negative num den = ofRatio negative num' den' := by
  calc ofRatio negative num den
      = ofRatio negative (den' * num) (den' * den) := (ofRatio_mul_left hden').symm
    _ = ofRatio negative (den * num') (den * den') := by
        rw [Nat.mul_comm den' num, h, Nat.mul_comm num' den, Nat.mul_comm den' den]
    _ = ofRatio negative num' den' := ofRatio_mul_left hden

/-- A representable number of units is read exactly. -/
theorem ofRatio_exact (hden : 0 < den) (h : Representable units) :
    ofRatio negative (units * den) den = finite negative units h := by
  have hratio : units * den / den = units := Nat.mul_div_cancel _ hden
  have hdvd : spacing units ∣ units := Nat.dvd_of_mod_eq_zero h.2
  obtain ⟨q, hq⟩ := hdvd
  have hunits : nearest (units * den) (den * spacing units) * spacing units = units := by
    have hproduct : units * den = q * (den * spacing units) := by
      conv =>
        lhs
        rw [hq]
      ring
    rw [hproduct, nearest_mul_self (Nat.mul_pos hden spacing_pos), Nat.mul_comm, ← hq]
  unfold ofRatio
  simp only [hratio, hunits]
  rw [dif_pos h.1]

theorem ofRatio_zero (h : 2 * num < den) :
    ofRatio negative num den = finite negative 0 representable_zero := by
  have hratio : num / den = 0 := Nat.div_eq_of_lt (by omega)
  have hspacing : spacing 0 = 1 := rfl
  unfold ofRatio
  simp only [hratio, hspacing, Nat.mul_one, nearest_eq_zero h]
  rw [dif_pos rangeEnd_pos]

/-- Rounding does not go below the leading bit. -/
theorem two_pow_log2_le (hpos : 0 < num / den) :
    2 ^ (num / den).log2 ≤ nearest num (den * spacing (num / den)) * spacing (num / den) := by
  have hlow : num / den / spacing (num / den) ≤ nearest num (den * spacing (num / den)) := by
    rw [Nat.div_div_eq_div_mul]
    exact div_le_nearest _ _
  have hself : 2 ^ (num / den).log2 ≤ num / den := Nat.log2_self_le (Nat.ne_of_gt hpos)
  have hdvd : spacing (num / den) ∣ 2 ^ (num / den).log2 := Nat.pow_dvd_pow 2 (Nat.sub_le _ _)
  calc 2 ^ (num / den).log2
      = 2 ^ (num / den).log2 / spacing (num / den) * spacing (num / den) :=
        (Nat.div_mul_cancel hdvd).symm
    _ ≤ num / den / spacing (num / den) * spacing (num / den) :=
        Nat.mul_le_mul_right _ (Nat.div_le_div_right hself)
    _ ≤ _ := Nat.mul_le_mul_right _ hlow

theorem two_pow_le_two_pow_log2 {n k : Nat} (hpos : 0 < n) (h : 2 ^ k ≤ n) :
    2 ^ k ≤ 2 ^ n.log2 :=
  Nat.pow_le_pow_right (by decide) ((Nat.le_log2 (Nat.ne_of_gt hpos)).mpr h)

theorem ofRatio_infinite (h : rangeEnd ≤ num / den) :
    ofRatio negative num den = infinite negative := by
  have hpos : 0 < num / den := Nat.lt_of_lt_of_le rangeEnd_pos h
  have hend : rangeEnd ≤ 2 ^ (num / den).log2 := by
    rw [rangeEnd] at h ⊢
    exact two_pow_le_two_pow_log2 hpos h
  have hunits := Nat.le_trans hend (two_pow_log2_le hpos)
  unfold ofRatio
  dsimp only
  rw [dif_neg (Nat.not_lt.mpr hunits)]

/-! ## Decimals -/

variable {significand : Nat} {exponent : Int}

theorem eq_of_ofRatio {other : Bool} {h : Representable units}
    (hfinite : ofRatio negative num den = finite other units h) : other = negative := by
  unfold ofRatio at hfinite
  dsimp only at hfinite
  split at hfinite
  · cases hfinite
    rfl
  · cases hfinite

theorem two_pow_le_ten_pow {a k : Nat} (h : 28 * a ≤ 93 * k) : 2 ^ a ≤ 10 ^ k := by
  refine (Nat.pow_le_pow_iff_left (by decide : 93 ≠ 0)).mp ?_
  calc (2 ^ a) ^ 93
      = (2 ^ 93) ^ a := Nat.pow_right_comm 2 a 93
    _ ≤ (10 ^ 28) ^ a := Nat.pow_le_pow_left (by decide) a
    _ = 10 ^ (28 * a) := (Nat.pow_mul 10 28 a).symm
    _ ≤ 10 ^ (93 * k) := Nat.pow_le_pow_right (by decide) h
    _ = (10 ^ k) ^ 93 := by rw [Nat.mul_comm, Nat.pow_mul]

theorem rangeEnd_eq : rangeEnd = 2 ^ 1024 * unit := by
  rw [rangeEnd, unit, ← Nat.pow_add]

/-- Beyond the upper bound there is no number. -/
theorem rangeEnd_le_of_large {k : Nat} (hpos : 0 < significand) (hk : 400 < k) :
    rangeEnd ≤ significand * 10 ^ k * unit := by
  have hpow : 2 ^ 1024 ≤ 10 ^ k := two_pow_le_ten_pow (by omega)
  rw [rangeEnd_eq]
  exact Nat.mul_le_mul_right _ (Nat.le_trans hpow (Nat.le_mul_of_pos_left _ hpos))

theorem two_mul_lt_ten_pow {a k : Nat} (h : significand.log2 + 1 + a + 1 ≤ 3 * k) :
    2 * (significand * 2 ^ a) < 10 ^ k := by
  have hlog : significand < 2 ^ (significand.log2 + 1) := Nat.lt_log2_self
  calc 2 * (significand * 2 ^ a)
      < 2 * (2 ^ (significand.log2 + 1) * 2 ^ a) :=
        Nat.mul_lt_mul_of_pos_left
          (Nat.mul_lt_mul_of_pos_right hlog (Nat.two_pow_pos _)) (by decide)
    _ = 2 ^ (significand.log2 + 1 + a + 1) := by
        rw [← Nat.pow_add, Nat.pow_succ 2 (significand.log2 + 1 + a), Nat.mul_comm]
    _ ≤ 10 ^ k := two_pow_le_ten_pow (by omega)

/-- Below the lower bound everything is nearer to zero than to the least positive number. -/
theorem lt_ten_pow_of_small {k : Nat} (hk : significand.log2 + 1 + 400 < k) :
    2 * (significand * unit) < 10 ^ k :=
  two_mul_lt_ten_pow (by omega)

/-- A decimal is read as the number nearest to its value. -/
theorem ofDecimal_eq_ofRatio :
    ofDecimal negative significand exponent =
      ofRatio negative (significand * 10 ^ exponent.toNat * unit) (10 ^ (-exponent).toNat) := by
  unfold ofDecimal
  split
  · next hzero =>
      subst hzero
      rw [ofUnits, ofRatio_zero (by decide), ofRatio_zero]
      simp only [Nat.zero_mul, Nat.mul_zero]
      exact Nat.pow_pos (by decide)
  · next hne =>
      have hpos : 0 < significand := Nat.pos_of_ne_zero hne
      split
      · next hlarge =>
          have hden : (-exponent).toNat = 0 := by omega
          rw [hden, ofRatio_infinite]
          rw [Nat.pow_zero, Nat.div_one]
          exact rangeEnd_le_of_large hpos (by omega)
      split
      · next hsmall =>
          have hnum : exponent.toNat = 0 := by omega
          rw [ofUnits, ofRatio_zero (by decide), ofRatio_zero]
          rw [hnum, Nat.pow_zero, Nat.mul_one]
          exact lt_ten_pow_of_small (by omega)
      split
      · next hnonneg =>
          have hden : (-exponent).toNat = 0 := by omega
          rw [hden, Nat.pow_zero, ofUnits]
      · next hneg =>
          have hnum : exponent.toNat = 0 := by omega
          rw [hnum, Nat.pow_zero, Nat.mul_one]

/-- Zeros at the end of the significand may be moved into the exponent. -/
theorem ofDecimal_mul_ten_pow (k : Nat) :
    ofDecimal negative (significand * 10 ^ k) exponent =
      ofDecimal negative significand (exponent + k) := by
  rw [ofDecimal_eq_ofRatio, ofDecimal_eq_ofRatio]
  apply ofRatio_congr (Nat.pow_pos (by decide)) (Nat.pow_pos (by decide))
  have hsum : k + exponent.toNat + (-(exponent + k)).toNat =
      (exponent + k).toNat + (-exponent).toNat := by omega
  calc significand * 10 ^ k * 10 ^ exponent.toNat * unit * 10 ^ (-(exponent + k)).toNat
      = significand * unit * 10 ^ (k + exponent.toNat + (-(exponent + k)).toNat) := by
        rw [Nat.pow_add, Nat.pow_add]
        ring
    _ = significand * 10 ^ (exponent + k).toNat * unit * 10 ^ (-exponent).toNat := by
        rw [hsum, Nat.pow_add]
        ring

theorem ofDecimal_stripZeros {fuel : Nat} {d : Decimal} :
    ofDecimal negative (d.stripZeros fuel).significand (d.stripZeros fuel).exponent =
      ofDecimal negative d.significand d.exponent := by
  induction fuel generalizing d with
  | zero => rfl
  | succ fuel ih =>
      rw [Decimal.stripZeros]
      split
      · next hzero =>
          have hten : d.significand = d.significand / 10 * 10 ^ 1 := by omega
          rw [ih]
          conv =>
            rhs
            rw [hten, ofDecimal_mul_ten_pow]
          rfl
      · rfl

/-! ## The shortest decimal -/

theorem eq_of_ofDecimal {other : Bool} {h : Representable units}
    (hfinite : ofDecimal negative significand exponent = finite other units h) :
    other = negative := by
  rw [ofDecimal_eq_ofRatio] at hfinite
  exact eq_of_ofRatio hfinite

theorem ofDecimal_of_readsBack {d : Decimal} (h : readsBack units d = true)
    (hunits : Representable units) :
    ofDecimal false d.significand d.exponent = finite false units hunits := by
  unfold readsBack at h
  split at h
  · next other back hback hfinite =>
      obtain rfl := eq_of_ofDecimal hfinite
      rw [hfinite]
      exact finite_congr (eq_of_beq h)
  · cases h

theorem readsBack_of_readingBackAt {place : Int} {d : Decimal}
    (h : readingBackAt units place = some d) : readsBack units d = true := by
  unfold readingBackAt at h
  dsimp only at h
  split at h
  · next hbelow =>
      split at h
      · next habove =>
          cases h
          exact (Bool.and_eq_true_iff.mp habove).1
      · cases h
        exact hbelow
  · split at h
    · next habove =>
        cases h
        exact habove
    · cases h

theorem ofDecimal_mul_five_pow {k : Nat} (hk : unit = 2 ^ k) (hunits : Representable units) :
    ofDecimal false (units * 5 ^ k) (-(k : Int)) = finite false units hunits := by
  have hpos : 0 < 10 ^ k := Nat.pow_pos (by decide)
  have hnum : (-(k : Int)).toNat = 0 := by omega
  have hten : 5 ^ k * 2 ^ k = 10 ^ k := (Nat.mul_pow 5 2 k).symm
  rw [ofDecimal_eq_ofRatio, ← ofRatio_exact hpos hunits, hnum, hk, Nat.pow_zero, Nat.mul_one,
    Int.neg_neg, Int.toNat_natCast, Nat.mul_assoc, hten]

/-- The exact expansion of a number of units. -/
theorem ofDecimal_expansion (hunits : Representable units) :
    ofDecimal false (units * 5 ^ 1074) (-1074) = finite false units hunits :=
  ofDecimal_mul_five_pow rfl hunits

theorem ofDecimal_shortestFrom {fuel : Nat} {place : Int} (hunits : Representable units) :
    ofDecimal false (shortestFrom units fuel place).significand
      (shortestFrom units fuel place).exponent = finite false units hunits := by
  induction fuel generalizing place with
  | zero => exact ofDecimal_expansion hunits
  | succ fuel ih =>
      rw [shortestFrom]
      split
      · next d hd => exact ofDecimal_of_readsBack (readsBack_of_readingBackAt hd) hunits
      · exact ih

/-- The shortest decimal reads back. -/
theorem ofDecimal_shortest (hunits : Representable units) :
    ofDecimal false (shortest units).significand (shortest units).exponent =
      finite false units hunits := by
  rw [shortest, Decimal.normalize, ofDecimal_stripZeros]
  exact ofDecimal_shortestFrom hunits

end Number
end Guest
