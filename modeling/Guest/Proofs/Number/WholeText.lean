import Guest.Proofs.Number.Whole

/-!
# The text of whole numbers

A whole number below `2 ^ 53` has its decimal numeral for its text.  The search for the shortest
decimal starts at a place that is not below the ones, and at the ones every whole number reads back.
So the shortest decimal is a whole one, and of the whole numbers only one reads back.
-/

namespace Guest

namespace Numeral

variable {n fuel : Nat} {more : List Char}

theorem digit_eq_digitChar (hn : n < 10) : digit n = n.digitChar := by
  have hall : ∀ k < 10, digit k = k.digitChar := by decide
  exact hall n hn

theorem digitsOnto_eq_toDigits (hn : n < 10 ^ fuel) (hpos : 0 < fuel) :
    digitsOnto 10 fuel n more = Nat.toDigits 10 n ++ more := by
  induction fuel generalizing n more with
  | zero => cases hpos
  | succ fuel ih =>
      rw [digitsOnto, Nat.toDigits_eq_if (by decide)]
      split
      · next hless => rw [digit_eq_digitChar hless, List.singleton_append]
      · have hdiv : n / 10 < 10 ^ fuel := by
          rw [Nat.pow_succ] at hn
          exact Nat.div_lt_of_lt_mul (by rwa [Nat.mul_comm])
        have hfuel : 0 < fuel := by
          rcases Nat.eq_zero_or_pos fuel with rfl | hfuel
          · omega
          · exact hfuel
        rw [ih hdiv hfuel, digit_eq_digitChar (Nat.mod_lt _ (by decide)), List.append_assoc,
          List.singleton_append]

theorem decimal_eq_toDigits (n : Nat) : decimal n = Nat.toDigits 10 n := by
  rw [decimal, ofNat, digitsOnto_eq_toDigits lt_ten_pow (Nat.succ_pos _), List.append_nil]

theorem decimal_eq_toString (n : Nat) : decimal n = (toString n).toList := by
  rw [decimal_eq_toDigits, Nat.toString_eq_repr, Nat.toList_repr]

/-- Each factor of ten puts a zero at the end. -/
theorem decimal_mul_ten_pow (hpos : 0 < n) (k : Nat) :
    decimal (n * 10 ^ k) = decimal n ++ Number.zeros k := by
  induction k with
  | zero => rw [Nat.pow_zero, Nat.mul_one, Number.zeros, List.replicate_zero, List.append_nil]
  | succ k ih =>
      have hpower : 0 < n * 10 ^ k := Nat.mul_pos hpos (Nat.pow_pos (by decide))
      have hdigit : Nat.toDigits 10 0 = ['0'] := rfl
      have happend := @Nat.toDigits_append_toDigits 10 (n * 10 ^ k) 0 (by decide) hpower (by decide)
      have hproduct : 10 * (n * 10 ^ k) + 0 = n * 10 ^ (k + 1) := by ring
      rw [hdigit, hproduct] at happend
      rw [decimal_eq_toDigits, ← happend, ← decimal_eq_toDigits, ih, Number.zeros, Number.zeros,
        List.replicate_succ', List.append_assoc]

end Numeral

namespace Number

variable {x : Number} {m n k fuel : Nat}

/-! ## The place of the shortest decimal -/

theorem exponent_of_readingBackAt {units : Nat} {place : Int} {d : Decimal}
    (h : readingBackAt units place = some d) : d.exponent = place := by
  unfold readingBackAt at h
  dsimp only at h
  split at h
  · split at h <;> cases h <;> rfl
  · split at h
    · cases h
      rfl
    · cases h

theorem readsBack_of_ofDecimal {units : Nat} {d : Decimal} {negative : Bool}
    {h : Representable units}
    (hd : ofDecimal false d.significand d.exponent = finite negative units h) :
    readsBack units d = true := by
  rw [readsBack, hd]
  exact beq_self_eq_true units

theorem atPlace_ones (units : Nat) : atPlace units 0 = (units, unit) := by
  rw [atPlace, if_pos (Int.le_refl 0), Int.toNat_zero, Nat.pow_zero, Nat.mul_one]

/-- At the place of the ones a whole number reads back. -/
theorem readingBackAt_ones_ne_none (hn : n ≤ 2 ^ 53) : readingBackAt (n * unit) 0 ≠ none := by
  have hdecimal : ofDecimal false n (0 : Nat) = ofNat n := by
    rw [ofDecimal_natCast, Nat.pow_zero, Nat.mul_one, ofNat]
  have hread : readsBack (n * unit) ⟨n, 0⟩ = true :=
    readsBack_of_ofDecimal (hdecimal.trans (ofUnits_exact (representable_mul_unit hn)))
  rw [readingBackAt, atPlace_ones]
  dsimp only
  rw [Nat.mul_div_cancel _ unit_pos, if_pos hread]
  split <;> exact Option.some_ne_none _

/-- From a place that is not below the ones the search does not go below them. -/
theorem exponent_shortestFrom_nonneg {place : Nat} (hn : n ≤ 2 ^ 53) (hplace : place < fuel) :
    0 ≤ (shortestFrom (n * unit) fuel place).exponent := by
  induction fuel generalizing place with
  | zero => cases hplace
  | succ fuel ih =>
      rw [shortestFrom]
      split
      · next d hd =>
          rw [exponent_of_readingBackAt hd]
          exact Int.natCast_nonneg place
      · next hnone =>
          cases place with
          | zero => exact absurd hnone (readingBackAt_ones_ne_none hn)
          | succ place =>
              rw [Int.natCast_succ, Int.add_sub_cancel]
              exact ih (Nat.lt_of_succ_lt_succ hplace)

theorem exists_leadingPlaceFrom {start : Nat} (hpos : 0 < n) :
    ∃ place : Nat, place ≤ start ∧ leadingPlaceFrom (n * unit) fuel start = place := by
  induction fuel generalizing start with
  | zero => exact ⟨start, Nat.le_refl _, rfl⟩
  | succ fuel ih =>
      rw [leadingPlaceFrom]
      split
      · exact ⟨start, Nat.le_refl _, rfl⟩
      · next habove =>
          cases start with
          | zero =>
              rw [Int.natCast_zero, atPlace_ones] at habove
              exact absurd (Nat.le_mul_of_pos_left unit hpos) habove
          | succ start =>
              rw [Int.natCast_succ, Int.add_sub_cancel]
              obtain ⟨place, hle, hplace⟩ := @ih start
              exact ⟨place, Nat.le_succ_of_le hle, hplace⟩

theorem exists_leadingPlace (hpos : 0 < n) (hn : n < 2 ^ 53) :
    ∃ place : Nat, place ≤ 16 ∧ leadingPlace (n * unit) = place := by
  have hne : n ≠ 0 := Nat.ne_of_gt hpos
  have hlog : (n * unit).log2 = n.log2 + 1074 := log2_mul_two_pow hne 1074
  have hbits : n.log2 < 53 := (Nat.log2_lt hne).mpr hn
  obtain ⟨start, hstart, heq⟩ : ∃ start : Nat, start ≤ 16 ∧
      (((n * unit).log2 : Int) - 1074) * 30103 / 100000 + 1 = start :=
    ⟨((n.log2 * 30103 / 100000 + 1 : Nat)), by omega, by rw [hlog]; omega⟩
  obtain ⟨place, hle, hplace⟩ := @exists_leadingPlaceFrom n 640 start hpos
  exact ⟨place, Nat.le_trans hle hstart, by rw [leadingPlace, heq, hplace]⟩

theorem exponent_le_stripZeros (d : Decimal) : d.exponent ≤ (d.stripZeros fuel).exponent := by
  induction fuel generalizing d with
  | zero => exact Int.le_refl _
  | succ fuel ih =>
      rw [Decimal.stripZeros]
      split
      · exact Int.le_trans (Int.le_add_one (Int.le_refl _)) (ih _)
      · exact Int.le_refl _

/-! ## The whole number that reads back -/

theorem eq_of_ofNat_eq (h : ofNat m = ofNat n) (hn : n < 2 ^ 53) : m = n := by
  have hwhole : nearestWhole n = n := nearestWhole_of_le (Nat.le_of_lt hn)
  have hlarge : n < 2 ^ 1024 :=
    Nat.lt_trans hn (Nat.pow_lt_pow_right (by decide) (by decide))
  rcases ofNat_eq_ofNat_iff.mp h with hnearest | ⟨-, hge⟩
  · rw [hwhole] at hnearest
    have hm : m < 2 ^ 53 := Nat.lt_of_not_le fun hge => by
      have hgreat := two_pow_le_nearestWhole hge
      omega
    rw [← hnearest, nearestWhole_of_le (Nat.le_of_lt hm)]
  · rw [hwhole] at hge
    exact absurd hlarge (Nat.not_lt.mpr hge)

theorem exponent_shortest_nonneg (hpos : 0 < n) (hn : n < 2 ^ 53) :
    0 ≤ (shortest (n * unit)).exponent := by
  obtain ⟨place, hplace, hleading⟩ := exists_leadingPlace hpos hn
  rw [shortest, hleading]
  exact Int.le_trans
    (exponent_shortestFrom_nonneg (Nat.le_of_lt hn) (Nat.lt_succ_of_le hplace))
    (exponent_le_stripZeros _)

theorem ofNat_ne_negZero (hn : n < 2 ^ 53) : ofNat n ≠ negZero := by
  rw [ofNat, ofUnits_exact (representable_mul_unit (Nat.le_of_lt hn)), negZero]
  exact fun h => Bool.noConfusion (finite.inj h).1

/-- The shortest decimal of a whole number is the number without the zeros at its end. -/
theorem exists_shortest_eq (hpos : 0 < n) (hn : n < 2 ^ 53) :
    ∃ significand k : Nat, shortest (n * unit) = ⟨significand, k⟩ ∧ significand * 10 ^ k = n := by
  have hunits := representable_mul_unit (Nat.le_of_lt hn)
  have hread := ofDecimal_shortest hunits
  have hnonneg := exponent_shortest_nonneg hpos hn
  rcases hd : shortest (n * unit) with ⟨significand, exponent⟩
  rw [hd] at hread hnonneg
  obtain ⟨k, rfl⟩ := Int.eq_ofNat_of_zero_le hnonneg
  rw [ofDecimal_natCast, ← ofUnits_exact hunits, ← ofNat, ← ofNat] at hread
  exact ⟨significand, k, rfl, eq_of_ofNat_eq hread hn⟩

/-! ## The text -/

theorem length_decimal_le (hn : n < 10 ^ k) (hpos : 0 < k) : (Numeral.decimal n).length ≤ k := by
  rcases Nat.eq_zero_or_pos n with rfl | hn'
  · exact hpos
  · have hpow : 10 ^ ((Numeral.decimal n).length - 1) < 10 ^ k :=
      Nat.lt_of_le_of_lt (Numeral.pow_length_decimal_le hn') hn
    have hlength := (Nat.pow_lt_pow_iff_right (by decide)).mp hpow
    omega

theorem decimalText_shortest (hpos : 0 < n) (hn : n < 2 ^ 53) :
    decimalText (shortest (n * unit)) = Numeral.decimal n := by
  obtain ⟨significand, k, hshortest, hvalue⟩ := exists_shortest_eq hpos hn
  have hsignificand : 0 < significand := Nat.pos_of_ne_zero fun hzero => by
    rw [hzero, Nat.zero_mul] at hvalue
    omega
  have hdigits : Numeral.decimal significand ++ zeros k = Numeral.decimal n := by
    rw [← Numeral.decimal_mul_ten_pow hsignificand, hvalue]
  have hlength : (Numeral.decimal significand).length + k ≤ 16 := by
    have hle : (Numeral.decimal n).length ≤ 16 :=
      length_decimal_le (Nat.lt_trans hn (by decide)) (by decide)
    rwa [← hdigits, List.length_append, zeros, List.length_replicate] at hle
  have hzeros : ((Numeral.decimal significand).length + (k : Int) -
      (Numeral.decimal significand).length).toNat = k := by omega
  rw [hshortest, decimalText, Decimal.pointPlace, Decimal.digits]
  dsimp only
  rw [if_pos (by omega), hzeros, hdigits]

/-- The text of a whole number is its numeral. -/
theorem IsExactly.text_eq (h : x.IsExactly n) (hn : n < 2 ^ 53) : x.text = Numeral.decimal n := by
  obtain ⟨negative, hunits, rfl, hsign⟩ := h.exists_eq
  rw [text, Int.natAbs_natCast]
  rcases Nat.eq_zero_or_pos n with rfl | hpos
  · rw [if_pos (Nat.zero_mul unit)]
    rfl
  · have hplain : negative = false := by
      cases negative with
      | false => rfl
      | true =>
          rw [if_pos rfl, Int.natAbs_natCast] at hsign
          omega
    rw [if_neg (Nat.ne_of_gt (Nat.mul_pos hpos unit_pos)), decimalText_shortest hpos hn, hplain]
    rfl

end Number

end Guest
