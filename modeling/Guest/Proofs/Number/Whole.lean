import Guest.Proofs.Number.RoundTrip
import Guest.Proofs.Number.Rounding

/-!
# Arithmetic on whole numbers

Sums, differences and remainders of numbers whose exact values are whole are exact as long as they
stay within 53 bits, and so are the comparisons and the conversions of such numbers.  Taken toward
zero, every finite number is whole.
-/

namespace Guest

namespace Number

variable {x y : Number} {i j : Int} {k m n : Nat} {negative : Bool}

/-- The exact value of the number is a whole one; that of either zero is `0`. -/
structure IsExactly (x : Number) (i : Int) : Prop where
  isFinite : x.isFinite = true
  scaled : x.scaled = i * unit

/-- The exact value of the number, taken toward zero to a whole one; `0` for what is not finite. -/
def truncated (x : Number) : Int := x.scaled.tdiv unit

theorem unit_ne_zero : (unit : Int) ≠ 0 := Int.natCast_ne_zero.mpr (Nat.ne_of_gt unit_pos)

theorem scaled_finite {h : Representable m} :
    (finite negative m h).scaled = if negative then -(m : Int) else m := by
  cases negative <;> rfl

theorem natAbs_scaled {h : Representable m} : (finite negative m h).scaled.natAbs = m := by
  rw [scaled_finite]
  cases negative with
  | false => exact Int.natAbs_natCast m
  | true => exact (Int.natAbs_neg _).trans (Int.natAbs_natCast m)

theorem scaled_of_not_isFinite (h : x.isFinite = false) : x.scaled = 0 := by
  cases x with
  | finite => cases h
  | _ => rfl

theorem truncated_of_not_isFinite (h : x.isFinite = false) : x.truncated = 0 := by
  rw [truncated, scaled_of_not_isFinite h, Int.zero_tdiv]

theorem IsExactly.truncated_eq (h : x.IsExactly i) : x.truncated = i := by
  rw [truncated, h.scaled, Int.mul_tdiv_cancel _ unit_ne_zero]

theorem isExactly_zero : zero.IsExactly 0 := ⟨rfl, (Int.zero_mul _).symm⟩

/-- A number with a whole value consists of a sign and the units of its size. -/
theorem IsExactly.exists_eq (h : x.IsExactly i) :
    ∃ negative hunits, x = finite negative (i.natAbs * unit) hunits ∧
      i = if negative then -(i.natAbs : Int) else i.natAbs := by
  cases x with
  | nan => cases h.isFinite
  | infinite negative => cases h.isFinite
  | finite negative units hunits =>
      have hscaled := h.scaled
      have habs := congrArg Int.natAbs hscaled.symm
      rw [natAbs_scaled, Int.natAbs_mul, Int.natAbs_natCast] at habs
      subst habs
      refine ⟨negative, hunits, rfl, Int.eq_of_mul_eq_mul_right unit_ne_zero ?_⟩
      rw [← hscaled, scaled_finite, Int.natCast_mul, ite_mul, Int.neg_mul]

theorem isExactly_ofUnits (hn : n ≤ 2 ^ 53) :
    (ofUnits negative (n * unit)).IsExactly (if negative then -(n : Int) else n) := by
  rw [ofUnits_exact (representable_mul_unit hn)]
  refine ⟨rfl, ?_⟩
  rw [scaled_finite, Int.natCast_mul, ite_mul, Int.neg_mul]

theorem isExactly_ofNat (hn : n ≤ 2 ^ 53) : (ofNat n).IsExactly n :=
  isExactly_ofUnits hn

theorem ofInt_natCast (n : Nat) : ofInt n = ofNat n := by
  rw [ofInt, Int.natAbs_natCast, decide_eq_false (Int.not_lt.mpr (Int.natCast_nonneg n))]
  rfl

theorem isExactly_ofInt (hi : i.natAbs ≤ 2 ^ 53) : (ofInt i).IsExactly i := by
  have h := @isExactly_ofUnits i.natAbs (decide (i < 0)) hi
  have hsign : (if decide (i < 0) then -(i.natAbs : Int) else i.natAbs) = i := by
    by_cases hneg : i < 0
    · rw [if_pos (decide_eq_true hneg)]
      omega
    · rw [if_neg (by simpa using hneg)]
      omega
  rwa [hsign] at h

/-! ## Sums and remainders -/

theorem scaled_neg (x : Number) : x.neg.scaled = -x.scaled := by
  cases x with
  | nan => rfl
  | infinite negative => rfl
  | finite negative units h =>
      cases negative with
      | false => rfl
      | true => exact (Int.neg_neg _).symm

theorem IsExactly.neg (h : x.IsExactly i) : x.neg.IsExactly (-i) := by
  refine ⟨?_, ?_⟩
  · obtain ⟨negative, hunits, rfl, -⟩ := h.exists_eq
    rfl
  · rw [scaled_neg, h.scaled, Int.neg_mul]

theorem IsExactly.abs (h : x.IsExactly i) : x.abs.IsExactly i.natAbs := by
  obtain ⟨negative, hunits, rfl, -⟩ := h.exists_eq
  exact ⟨rfl, Int.natCast_mul _ _⟩

theorem IsExactly.add (h : x.IsExactly i) (h' : y.IsExactly j) (hle : (i + j).natAbs ≤ 2 ^ 53) :
    (x + y).IsExactly (i + j) := by
  have hsum : x.scaled + y.scaled = (i + j) * unit := by
    rw [h.scaled, h'.scaled, Int.add_mul]
  obtain ⟨a, hm, rfl, -⟩ := h.exists_eq
  obtain ⟨b, hn, rfl, -⟩ := h'.exists_eq
  change (Number.add _ _).IsExactly _
  rw [Number.add]
  split
  · next hzero =>
      rw [hsum, Int.mul_eq_zero] at hzero
      have hij : i + j = 0 := hzero.resolve_right unit_ne_zero
      have hexact := @isExactly_ofUnits 0 (a && b) (Nat.zero_le _)
      rw [Nat.zero_mul] at hexact
      rw [hij]
      cases ha : (a && b) <;> simpa [ha] using hexact
  · have hsign : (i + j) * unit < 0 ↔ i + j < 0 := by
      conv_lhs => rw [← Int.zero_mul (unit : Int)]
      exact Int.mul_lt_mul_right (Int.natCast_pos.mpr unit_pos)
    rw [hsum, decide_eq_decide.mpr hsign, Int.natAbs_mul, Int.natAbs_natCast]
    exact isExactly_ofInt hle

theorem IsExactly.sub (h : x.IsExactly i) (h' : y.IsExactly j) (hle : (i - j).natAbs ≤ 2 ^ 53) :
    (x - y).IsExactly (i - j) := by
  rw [Int.sub_eq_add_neg] at hle ⊢
  exact h.add h'.neg hle

/-- The remainder by a positive whole number has the sign of the dividend. -/
theorem IsExactly.rem (h : x.IsExactly i) (h' : y.IsExactly n) (hpos : 0 < n) (hn : n ≤ 2 ^ 53) :
    (x % y).IsExactly (i.tmod n) := by
  obtain ⟨a, hi, rfl, hsign⟩ := h.exists_eq
  obtain ⟨b, hj, rfl, -⟩ := h'.exists_eq
  change (Number.rem _ _).IsExactly _
  have hne : n * unit ≠ 0 := Nat.ne_of_gt (Nat.mul_pos hpos unit_pos)
  have hless : i.natAbs % n ≤ 2 ^ 53 :=
    Nat.le_trans (Nat.le_of_lt (Nat.mod_lt _ hpos)) hn
  rw [Number.rem, Int.natAbs_natCast, if_neg hne, Nat.mul_mod_mul_right]
  have hexact := @isExactly_ofUnits (i.natAbs % n) a hless
  have hrem : (if a then -((i.natAbs % n : Nat) : Int) else (i.natAbs % n : Nat)) = i.tmod n := by
    rw [hsign, Int.ofNat_tmod]
    cases a <;> simp [Int.neg_tmod]
  rwa [hrem] at hexact

/-! ## The whole number toward zero -/

theorem representable_wholePart (h : Representable m) : Representable (wholePart m * unit) := by
  rcases Nat.lt_or_ge m.log2 (53 + 1074) with hlog | hlog
  · have hless : m < 2 ^ 53 * unit := by
      rw [unit, ← Nat.pow_add]
      exact Nat.lt_of_lt_of_le Nat.lt_log2_self (Nat.pow_le_pow_right (by decide) hlog)
    exact representable_mul_unit (Nat.le_of_lt ((Nat.div_lt_iff_lt_mul unit_pos).mpr hless))
  · have hdvd : unit ∣ m :=
      Nat.dvd_trans (Nat.pow_dvd_pow 2 (by omega)) (Nat.dvd_of_mod_eq_zero h.2)
    rwa [wholePart, Nat.div_mul_cancel hdvd]

theorem truncated_finite {h : Representable m} :
    (finite negative m h).truncated = if negative then -(wholePart m : Int) else wholePart m := by
  have htoward : (m : Int).tdiv unit = wholePart m := (Int.ofNat_tdiv m unit).symm
  rw [truncated, scaled_finite]
  cases negative with
  | false => exact htoward
  | true => exact (Int.neg_tdiv _ _).trans (congrArg Neg.neg htoward)

theorem toInt_eq_truncated (x : Number) : x.toInt = x.truncated := by
  cases x with
  | nan => exact (truncated_of_not_isFinite rfl).symm
  | infinite negative => exact (truncated_of_not_isFinite rfl).symm
  | finite negative units h =>
      rw [truncated_finite]
      cases negative <;> rfl

/-- Whether and which whole number a number is shows in its part toward zero. -/
theorem isExactly_trunc (h : x.isFinite = true) : x.trunc.IsExactly x.truncated := by
  cases x with
  | nan => cases h
  | infinite negative => cases h
  | finite negative units hunits =>
      rw [truncated_finite, trunc, ofUnits_exact (representable_wholePart hunits)]
      refine ⟨rfl, ?_⟩
      rw [scaled_finite, Int.natCast_mul, ite_mul, Int.neg_mul]

/-! ## Comparisons and conversions -/

theorem IsExactly.less_iff (h : x.IsExactly i) (h' : y.IsExactly j) :
    x.less y = true ↔ i < j := by
  have hx := h.scaled
  have hy := h'.scaled
  obtain ⟨a, hm, rfl, -⟩ := h.exists_eq
  obtain ⟨b, hn, rfl, -⟩ := h'.exists_eq
  rw [less_finite_iff, hx, hy, Int.mul_lt_mul_right (Int.natCast_pos.mpr unit_pos)]

theorem IsExactly.atMost_iff (h : x.IsExactly i) (h' : y.IsExactly j) :
    x.atMost y = true ↔ i ≤ j := by
  have hx := h.scaled
  have hy := h'.scaled
  obtain ⟨a, hm, rfl, -⟩ := h.exists_eq
  obtain ⟨b, hn, rfl, -⟩ := h'.exists_eq
  rw [atMost_finite_iff, hx, hy, Int.mul_le_mul_right (Int.natCast_pos.mpr unit_pos)]

theorem equals_finite_iff (hx : x.isFinite = true) (hy : y.isFinite = true) :
    x.equals y = true ↔ x.scaled = y.scaled := by
  cases x with
  | nan => cases hx
  | infinite => cases hx
  | finite =>
      cases y with
      | nan => cases hy
      | infinite => cases hy
      | finite => exact equals_iff.trans compare_finite_iff

/-- Of the finite numbers, the whole ones equal their part toward zero. -/
theorem trunc_equals_iff (h : x.isFinite = true) :
    x.trunc.equals x = true ↔ x.IsExactly x.truncated := by
  have htrunc := isExactly_trunc h
  rw [equals_finite_iff htrunc.isFinite h, htrunc.scaled]
  exact ⟨fun hscaled => ⟨h, hscaled.symm⟩, fun hexact => hexact.scaled.symm⟩

theorem IsExactly.toIntClamped_eq {least most : Int} (h : x.IsExactly i) (hleast : least ≤ i)
    (hmost : i ≤ most) : x.toIntClamped least most = i := by
  have hi : x.toInt = i := (toInt_eq_truncated x).trans h.truncated_eq
  obtain ⟨a, hm, rfl, -⟩ := h.exists_eq
  rw [toIntClamped, hi, if_neg (Int.not_lt.mpr hleast), if_neg (Int.not_lt.mpr hmost)]

theorem toNatClamped_finite {most : Nat} {h : Representable m} :
    (finite negative m h).toNatClamped most =
      if negative then 0 else Nat.min (wholePart m) most := by
  cases negative <;> rfl

theorem IsExactly.toNatClamped_eq {most : Nat} (h : x.IsExactly n) :
    x.toNatClamped most = Nat.min n most := by
  obtain ⟨a, hm, rfl, hsign⟩ := h.exists_eq
  rw [toNatClamped_finite, wholePart, Int.natAbs_natCast, Nat.mul_div_cancel _ unit_pos]
  cases a with
  | false => rfl
  | true =>
      rw [if_pos rfl, Int.natAbs_natCast] at hsign
      obtain rfl : n = 0 := by omega
      exact (Nat.zero_min most).symm

end Number

end Guest
