import Guest.Proofs.Number.Exact

/-!
# Where nothing is rounded

The result of an operation is rounded once, and not at all where it is representable.  Whole numbers
are rounded like any others: zeros at their end do not matter, and what is below half of the
distance between neighbouring numbers is lost when it is added.
-/

namespace Guest

namespace Number

variable {m n k e units num den significand : Nat} {negative : Bool}

/-! ## Results without rounding -/

theorem ofUnits_exact (h : Representable units) :
    ofUnits negative units = finite negative units h := by
  have hexact := @ofRatio_exact negative 1 units (by decide) h
  rwa [Nat.mul_one] at hexact

theorem spacing_le (units : Nat) : spacing units ≤ units + 1 := by
  rcases Nat.eq_zero_or_pos units with rfl | hpos
  · decide
  have hlog : 2 ^ units.log2 ≤ units := Nat.log2_self_le (Nat.ne_of_gt hpos)
  have hpow : spacing units ≤ 2 ^ units.log2 :=
    Nat.pow_le_pow_right (by decide) (Nat.sub_le _ _)
  omega

/-- Below a quarter of the range the nearest number is finite. -/
theorem exists_ofRatio_eq_finite (h : 4 * (num / den) < rangeEnd) :
    ∃ units hunits, ofRatio negative num den = finite negative units hunits := by
  have hstep := spacing_le (num / den)
  have hnearest : nearest num (den * spacing (num / den)) * spacing (num / den) ≤
      num / den + spacing (num / den) := by
    calc nearest num (den * spacing (num / den)) * spacing (num / den)
        ≤ (num / (den * spacing (num / den)) + 1) * spacing (num / den) :=
          Nat.mul_le_mul_right _ (nearest_le_div_succ _ _)
      _ = num / den / spacing (num / den) * spacing (num / den) + spacing (num / den) := by
          rw [← Nat.div_div_eq_div_mul, Nat.succ_mul]
      _ ≤ num / den + spacing (num / den) :=
          Nat.add_le_add_right (Nat.div_mul_le_self _ _) _
  have hend : 4 ≤ rangeEnd := by
    unfold rangeEnd
    exact Nat.pow_le_pow_right (by decide : 0 < 2) (by decide : 2 ≤ 2098)
  have hunits : nearest num (den * spacing (num / den)) * spacing (num / den) < rangeEnd := by
    omega
  unfold ofRatio
  dsimp only
  rw [dif_pos hunits]
  exact ⟨_, _, rfl⟩

theorem representable_scaled (hm : m ≤ 2 ^ 53) (hk : k ≤ 900) :
    Representable (m * 2 ^ k * unit) := by
  have hsplit : m * 2 ^ k * unit = m * 2 ^ (k + 1074) := by
    rw [unit, Nat.mul_assoc, ← Nat.pow_add]
  have hend : m * 2 ^ (k + 1074) < rangeEnd := by
    calc m * 2 ^ (k + 1074)
        ≤ 2 ^ 53 * 2 ^ (k + 1074) := Nat.mul_le_mul_right _ hm
      _ = 2 ^ (53 + (k + 1074)) := (Nat.pow_add _ _ _).symm
      _ < rangeEnd := by
          unfold rangeEnd
          exact Nat.pow_lt_pow_right (by decide) (by omega)
  rw [hsplit]
  exact representable_mul_two_pow hm hend

theorem representable_mul_unit (hm : m ≤ 2 ^ 53) : Representable (m * unit) := by
  have h := representable_scaled hm (Nat.zero_le 900)
  rwa [Nat.pow_zero, Nat.mul_one] at h

theorem representable_ten_pow (hk : k ≤ 22) : Representable (10 ^ k * unit) := by
  have hfive : 5 ^ k ≤ 2 ^ 53 :=
    Nat.le_trans (Nat.pow_le_pow_right (by decide) hk) (by decide)
  have h := representable_scaled hfive (Nat.le_trans hk (by decide))
  rwa [← Nat.mul_pow 5 2 k] at h

theorem unit_pos : 0 < unit := by
  unfold unit
  exact Nat.two_pow_pos _

theorem lt_rangeEnd (h : 4 * n < 2 ^ 1024) : 4 * (n * unit / 1) < rangeEnd := by
  rw [Nat.div_one, ← Nat.mul_assoc, rangeEnd_eq]
  exact Nat.mul_lt_mul_of_pos_right h unit_pos

theorem ofDecimal_natCast (significand k : Nat) :
    ofDecimal negative significand k = ofUnits negative (significand * 10 ^ k * unit) := by
  have hnum : (k : Int).toNat = k := Int.toNat_natCast k
  have hden : (-(k : Int)).toNat = 0 := by omega
  rw [ofDecimal_eq_ofRatio, hnum, hden, Nat.pow_zero, ofUnits]

theorem ofDecimal_neg (significand k : Nat) :
    ofDecimal negative significand (-(k : Int)) =
      ofRatio negative (significand * unit) (10 ^ k) := by
  have hnum : (-(k : Int)).toNat = 0 := by omega
  have hden : (- -(k : Int)).toNat = k := by omega
  rw [ofDecimal_eq_ofRatio, hnum, hden, Nat.pow_zero, Nat.mul_one]

theorem mul_finite (hm : Representable m) (hn : Representable n) :
    finite false m hm * finite false n hn = ofRatio false (m * n) unit := by
  change mul _ _ = _
  rw [mul, bne_self_eq_false]

theorem div_finite (hm : Representable m) (hn : Representable n) (hne : n ≠ 0) :
    finite false m hm / finite false n hn = ofRatio false (m * unit) n := by
  change div _ _ = _
  rw [div, if_neg hne, bne_self_eq_false]

/-- The product of exact factors is rounded once. -/
theorem mul_ofUnits (hm : Representable (m * unit)) (hn : Representable (n * unit)) :
    ofUnits false (m * unit) * ofUnits false (n * unit) = ofUnits false (m * n * unit) := by
  have hproduct : m * unit * (n * unit) * 1 = m * n * unit * unit := by ring
  rw [ofUnits_exact hm, ofUnits_exact hn, mul_finite, ofRatio_congr unit_pos (by decide) hproduct,
    ofUnits]

/-- The quotient of exact terms is rounded once. -/
theorem div_ofUnits (hm : Representable (m * unit)) (hn : Representable (n * unit)) (hpos : 0 < n) :
    ofUnits false (m * unit) / ofUnits false (n * unit) = ofRatio false (m * unit) n := by
  have hne : n * unit ≠ 0 := Nat.ne_of_gt (Nat.mul_pos hpos unit_pos)
  have hquotient : m * unit * unit * n = m * unit * (n * unit) := by ring
  rw [ofUnits_exact hm, ofUnits_exact hn, div_finite hm hn hne,
    ofRatio_congr (Nat.mul_pos hpos unit_pos) hpos hquotient]

theorem mul_one_ofUnits (hm : Representable m) :
    finite false m hm * ofUnits false (1 * unit) = finite false m hm := by
  have hone : Representable (1 * unit) := representable_mul_unit (by decide)
  rw [ofUnits_exact hone, mul_finite, Nat.one_mul, ofRatio_exact unit_pos hm]


theorem ofNat_zero : ofNat 0 = .zero := by
  rw [ofNat, Nat.zero_mul]
  exact ofUnits_exact representable_zero

/-- The sum of exact terms is rounded once. -/
theorem add_ofUnits (hm : Representable m) (hn : Representable n) :
    ofUnits false m + ofUnits false n = ofUnits false (m + n) := by
  rw [ofUnits_exact hm, ofUnits_exact hn]
  change add _ _ = _
  rw [add, scaled, scaled]
  split
  · next hzero =>
      have hsum : m + n = 0 := by omega
      rw [hsum]
      rfl
  · have hsign : decide ((m : Int) + n < 0) = false := by
      rw [decide_eq_false_iff_not]
      omega
    have habs : ((m : Int) + n).natAbs = m + n := by omega
    rw [hsign, habs]

/-! ## Whole numbers -/

/-- The whole number of 53 significant bits that is nearest to `n`; of two equally near ones, the
one whose last significant bit is zero. -/
def nearestWhole (n : Nat) : Nat := roundedUnits n 1

theorem nearestWhole_eq (n : Nat) : nearestWhole n = nearest n (spacing n) * spacing n := by
  rw [nearestWhole, roundedUnits, Nat.div_one, Nat.one_mul]

theorem nearestWhole_mono (h : m ≤ n) : nearestWhole m ≤ nearestWhole n := roundedUnits_mono h

theorem spacing_dvd_nearestWhole (n : Nat) : spacing (nearestWhole n) ∣ nearestWhole n := by
  have hnearest : nearest n (spacing n) ≤ 2 ^ 53 := by
    have hle := nearest_spacing_le n 1
    rwa [Nat.div_one, Nat.one_mul] at hle
  rw [nearestWhole_eq]
  exact two_pow_dvd_mul_two_pow hnearest

theorem nearestWhole_of_dvd (h : spacing n ∣ n) : nearestWhole n = n := by
  obtain ⟨q, hq⟩ := h
  rw [nearestWhole_eq]
  conv =>
    lhs
    arg 1
    arg 1
    rw [hq, Nat.mul_comm]
  rw [nearest_mul_self spacing_pos, Nat.mul_comm, ← hq]

theorem nearestWhole_nearestWhole (n : Nat) : nearestWhole (nearestWhole n) = nearestWhole n :=
  nearestWhole_of_dvd (spacing_dvd_nearestWhole n)

theorem nearestWhole_mul_two_pow_of_le (hm : m ≤ 2 ^ 53) (k : Nat) :
    nearestWhole (m * 2 ^ k) = m * 2 ^ k :=
  nearestWhole_of_dvd (two_pow_dvd_mul_two_pow hm)

theorem nearestWhole_of_le (hn : n ≤ 2 ^ 53) : nearestWhole n = n := by
  have h := nearestWhole_mul_two_pow_of_le hn 0
  rwa [Nat.pow_zero, Nat.mul_one] at h

theorem nearestWhole_two_pow (k : Nat) : nearestWhole (2 ^ k) = 2 ^ k := by
  have h := nearestWhole_mul_two_pow_of_le (by decide : 1 ≤ 2 ^ 53) k
  rwa [Nat.one_mul] at h

/-- Rounding does not go below a power of two. -/
theorem two_pow_le_nearestWhole (h : 2 ^ k ≤ n) : 2 ^ k ≤ nearestWhole n := by
  rw [← nearestWhole_two_pow k]
  exact nearestWhole_mono h

theorem log2_mul_two_pow (hn : n ≠ 0) (k : Nat) : (n * 2 ^ k).log2 = n.log2 + k := by
  have hne : n * 2 ^ k ≠ 0 := Nat.mul_ne_zero hn (Nat.ne_of_gt (Nat.two_pow_pos k))
  rw [Nat.log2_eq_iff hne, Nat.pow_add, Nat.add_right_comm, Nat.pow_add]
  exact ⟨Nat.mul_le_mul_right _ (Nat.log2_self_le hn),
    Nat.mul_lt_mul_of_pos_right Nat.lt_log2_self (Nat.two_pow_pos k)⟩

theorem spacing_mul_two_pow (hn : 2 ^ 52 ≤ n) (k : Nat) :
    spacing (n * 2 ^ k) = spacing n * 2 ^ k := by
  have hne : n ≠ 0 := Nat.ne_of_gt (Nat.lt_of_lt_of_le (by decide) hn)
  have hlog : 52 ≤ n.log2 := (Nat.le_log2 hne).mpr hn
  have hplace : n.log2 + k - 52 = n.log2 - 52 + k := by omega
  rw [spacing, spacing, log2_mul_two_pow hne, hplace, Nat.pow_add]

/-- Zeros at the end stay at the end. -/
theorem nearestWhole_mul_two_pow (n k : Nat) :
    nearestWhole (n * 2 ^ k) = nearestWhole n * 2 ^ k := by
  rcases Nat.lt_or_ge n (2 ^ 52) with hlt | hge
  · have hle : n ≤ 2 ^ 53 := Nat.le_trans (Nat.le_of_lt hlt) (by decide)
    rw [nearestWhole_mul_two_pow_of_le hle, nearestWhole_of_le hle]
  · rw [nearestWhole_eq, nearestWhole_eq, spacing_mul_two_pow hge, Nat.mul_comm n,
      Nat.mul_comm (spacing n), nearest_mul_left (Nat.two_pow_pos k), Nat.mul_comm (2 ^ k),
      Nat.mul_assoc]

/-- The leading bit stays where it is when something is added below the last significant one. -/
theorem log2_add (hdvd : 2 ^ k ∣ m) (hm : 2 ^ k ≤ m) (he : e < 2 ^ k) :
    (m + e).log2 = m.log2 := by
  have hne : m ≠ 0 := Nat.ne_of_gt (Nat.lt_of_lt_of_le (Nat.two_pow_pos k) hm)
  have hlow : 2 ^ m.log2 ≤ m := Nat.log2_self_le hne
  have hplace : k ≤ m.log2 := (Nat.le_log2 hne).mpr hm
  have hend : 2 ^ k ∣ 2 ^ (m.log2 + 1) := Nat.pow_dvd_pow 2 (by omega)
  have hroom : 2 ^ k ≤ 2 ^ (m.log2 + 1) - m :=
    Nat.le_of_dvd (Nat.sub_pos_of_lt Nat.lt_log2_self) (Nat.dvd_sub hend hdvd)
  rw [Nat.log2_eq_iff (by omega)]
  omega

theorem spacing_add (hdvd : 2 ^ k ∣ m) (hm : 2 ^ k ≤ m) (he : e < 2 ^ k) :
    spacing (m + e) = spacing m := by
  rw [spacing, spacing, log2_add hdvd hm he]

/-- What is below half of the distance between neighbouring numbers is lost. -/
theorem nearestWhole_add (hdvd : spacing m ∣ m) (he : 2 * e < spacing m) :
    nearestWhole (m + e) = m := by
  rcases Nat.eq_zero_or_pos m with rfl | hpos
  · have hzero : e = 0 := by
      have hone : spacing 0 = 1 := rfl
      omega
    rw [hzero]
    exact nearestWhole_of_le (by decide)
  have hless : e < spacing m := by omega
  have hspacing : spacing (m + e) = spacing m :=
    spacing_add hdvd (Nat.le_of_dvd hpos hdvd) hless
  obtain ⟨q, hq⟩ := hdvd
  generalize hstep : spacing m = step at *
  have hmod : (step * q + e) % step = e := by rw [Nat.mul_add_mod, Nat.mod_eq_of_lt hless]
  have hdiv : (step * q + e) / step = q := by
    rw [Nat.mul_add_div (by omega), Nat.div_eq_of_lt hless, Nat.add_zero]
  rw [nearestWhole_eq, hspacing, hq, nearest, hmod, if_pos he, hdiv, Nat.mul_comm]

/-! ## The numbers of whole numbers -/

theorem mul_unit_lt_rangeEnd_iff : n * unit < rangeEnd ↔ n < 2 ^ 1024 := by
  rw [rangeEnd_eq, Nat.mul_lt_mul_right unit_pos]

theorem representable_nearestWhole (h : nearestWhole n < 2 ^ 1024) :
    Representable (nearestWhole n * unit) := by
  refine ⟨mul_unit_lt_rangeEnd_iff.mpr h, Nat.mod_eq_zero_of_dvd ?_⟩
  rw [unit, ← nearestWhole_mul_two_pow]
  exact spacing_dvd_nearestWhole _

theorem ofNat_eq (n : Nat) :
    ofNat n =
      if h : nearestWhole n < 2 ^ 1024 then
        finite false (nearestWhole n * unit) (representable_nearestWhole h)
      else infinite false := by
  have hunits : nearest (n * unit) (1 * spacing (n * unit / 1)) * spacing (n * unit / 1) =
      nearestWhole n * unit :=
    nearestWhole_mul_two_pow n 1074
  rw [ofNat, ofUnits, ofRatio]
  simp only [hunits, mul_unit_lt_rangeEnd_iff]

theorem ofNat_of_lt (h : nearestWhole n < 2 ^ 1024) :
    ofNat n = finite false (nearestWhole n * unit) (representable_nearestWhole h) := by
  rw [ofNat_eq, dif_pos h]

theorem ofNat_of_le (h : 2 ^ 1024 ≤ nearestWhole n) : ofNat n = infinite false := by
  rw [ofNat_eq, dif_neg (Nat.not_lt.mpr h)]

/-- Whole numbers are read alike where they round alike, and beyond the range. -/
theorem ofNat_eq_ofNat_iff :
    ofNat m = ofNat n ↔ nearestWhole m = nearestWhole n ∨
      2 ^ 1024 ≤ nearestWhole m ∧ 2 ^ 1024 ≤ nearestWhole n := by
  rcases Nat.lt_or_ge (nearestWhole m) (2 ^ 1024) with hm | hm
  · rcases Nat.lt_or_ge (nearestWhole n) (2 ^ 1024) with hn | hn
    · rw [ofNat_of_lt hm, ofNat_of_lt hn, finite.injEq, Nat.mul_left_inj (Nat.ne_of_gt unit_pos)]
      simp [Nat.not_le.mpr hm]
    · rw [ofNat_of_lt hm, ofNat_of_le hn]
      simp [Nat.not_le.mpr hm, Nat.ne_of_lt (Nat.lt_of_lt_of_le hm hn)]
  · rcases Nat.lt_or_ge (nearestWhole n) (2 ^ 1024) with hn | hn
    · rw [ofNat_of_le hm, ofNat_of_lt hn]
      simp [Nat.not_le.mpr hn, Nat.ne_of_gt (Nat.lt_of_lt_of_le hn hm)]
    · rw [ofNat_of_le hm, ofNat_of_le hn]
      simp [hm, hn]

/-! ## Sums and products of whole numbers -/

theorem infinite_add_ofUnits (hm : Representable m) :
    infinite false + ofUnits false m = infinite false := by
  rw [ofUnits_exact hm]
  rfl

theorem infinite_mul_ofUnits (hm : Representable m) (hpos : 0 < m) :
    infinite false * ofUnits false m = infinite false := by
  rw [ofUnits_exact hm]
  change mul _ _ = _
  rw [mul, if_neg (Nat.ne_of_gt hpos)]
  rfl

/-- Adding a small whole number to an exact one rounds their sum. -/
theorem ofNat_add_ofNat (hm : nearestWhole m = m) (hn : n ≤ 2 ^ 53) :
    ofNat m + ofNat n = ofNat (m + n) := by
  have hadded : Representable (n * unit) := representable_mul_unit hn
  rcases Nat.lt_or_ge m (2 ^ 1024) with hlt | hge
  · have hunits : Representable (m * unit) := by
      have h := representable_nearestWhole (n := m) (by rwa [hm])
      rwa [hm] at h
    calc ofNat m + ofNat n
        = ofUnits false (m * unit + n * unit) := add_ofUnits hunits hadded
      _ = ofNat (m + n) := by rw [← Nat.add_mul, ofNat]
  · have hsum : 2 ^ 1024 ≤ m + n := hge.trans (Nat.le_add_right m n)
    rw [ofNat_of_le (two_pow_le_nearestWhole hge), ofNat_of_le (two_pow_le_nearestWhole hsum)]
    exact infinite_add_ofUnits hadded

/-- A power of two shifts a number without rounding. -/
theorem ofNat_mul_two_pow (hk : k ≤ 53) :
    ofNat n * ofNat (2 ^ k) = ofNat (nearestWhole n * 2 ^ k) := by
  have hpower : Representable (2 ^ k * unit) :=
    representable_mul_unit (Nat.pow_le_pow_right (by decide) hk)
  rcases Nat.lt_or_ge (nearestWhole n) (2 ^ 1024) with hlt | hge
  · have hunits := representable_nearestWhole hlt
    rw [ofNat_of_lt hlt, ← ofUnits_exact hunits]
    exact mul_ofUnits hunits hpower
  · have hshift : 2 ^ 1024 ≤ nearestWhole n * 2 ^ k :=
      hge.trans (Nat.le_mul_of_pos_right _ (Nat.two_pow_pos k))
    rw [ofNat_of_le hge, ofNat_of_le (two_pow_le_nearestWhole hshift)]
    exact infinite_mul_ofUnits hpower (Nat.mul_pos (Nat.two_pow_pos k) unit_pos)

end Number

end Guest
