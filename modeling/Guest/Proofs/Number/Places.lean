import Guest.Proofs.Number.Nearest
import Mathlib.Tactic.Linarith

/-!
# Decimal places

The magnitude of a number is `units / unit`.  The search for its leading decimal digit starts at a
bound from the binary length, which is never too low and at most a few places too high.  Rounding to
a place is specified apart from its computation: of all multiples of the power of ten, the nearest
one, and of two such multiples the even one.
-/

namespace Guest

namespace Number

variable {q : ℚ} {place start bottom : ℤ} {m n num den units fuel a k : ℕ}

/-! ## Powers of two and of ten -/

theorem ten_zpow_pos (place : ℤ) : (0 : ℚ) < 10 ^ place := zpow_pos (by norm_num) place

theorem ten_zpow_succ (place : ℤ) : (10 : ℚ) ^ (place + 1) = 10 * 10 ^ place := by
  rw [zpow_add_one₀ (by norm_num), mul_comm]

theorem ten_pow_le_two_pow (h : 196 * k ≤ 59 * a) : 10 ^ k ≤ 2 ^ a := by
  refine (Nat.pow_le_pow_iff_left (by decide : 59 ≠ 0)).mp ?_
  calc (10 ^ k) ^ 59
      = (10 ^ 59) ^ k := Nat.pow_right_comm 10 k 59
    _ ≤ (2 ^ 196) ^ k := Nat.pow_le_pow_left (by decide) k
    _ = 2 ^ (196 * k) := (Nat.pow_mul 2 196 k).symm
    _ ≤ 2 ^ (59 * a) := Nat.pow_le_pow_right (by decide) h
    _ = (2 ^ a) ^ 59 := by rw [Nat.mul_comm, Nat.pow_mul]

/-- The logarithm of two to the base of ten lies between `59 / 196` and `28 / 93`. -/
theorem two_zpow_le_ten_zpow {a k : ℤ} (hhigh : 28 * a ≤ 93 * k) (hlow : 59 * a ≤ 196 * k) :
    (2 : ℚ) ^ a ≤ 10 ^ k := by
  rcases Int.le_total 0 a with hsign | hsign
  · obtain ⟨a, rfl⟩ := Int.eq_ofNat_of_zero_le hsign
    obtain ⟨k, rfl⟩ := Int.eq_ofNat_of_zero_le (show 0 ≤ k by omega)
    have hpow : 2 ^ a ≤ 10 ^ k := two_pow_le_ten_pow (by omega)
    rw [zpow_natCast, zpow_natCast]
    exact_mod_cast hpow
  · obtain ⟨a, rfl⟩ := Int.exists_eq_neg_ofNat hsign
    rcases Int.le_total 0 k with hk | hk
    · calc (2 : ℚ) ^ (-(a : ℤ))
          ≤ 1 := zpow_le_one_of_nonpos₀ (by norm_num) hsign
        _ ≤ 10 ^ k := one_le_zpow₀ (by norm_num) hk
    · obtain ⟨k, rfl⟩ := Int.exists_eq_neg_ofNat hk
      have hpow : 10 ^ k ≤ 2 ^ a := ten_pow_le_two_pow (by omega)
      rw [zpow_neg, zpow_neg, zpow_natCast, zpow_natCast]
      exact inv_anti₀ (by positivity) (by exact_mod_cast hpow)

/-! ## The magnitude at a place -/

theorem unit_cast_pos : (0 : ℚ) < unit := Nat.cast_pos.mpr unit_pos

theorem atPlace_den_pos : 0 < (atPlace units place).2 := by
  rw [atPlace]
  split
  · exact Nat.mul_pos unit_pos (Nat.pow_pos (by decide))
  · exact unit_pos

theorem atPlace_ratio :
    ((atPlace units place).1 : ℚ) / (atPlace units place).2 = units / unit / 10 ^ place := by
  rw [atPlace]
  split
  · next hsign =>
      obtain ⟨k, rfl⟩ := Int.eq_ofNat_of_zero_le hsign
      simp only [Int.toNat_natCast, Nat.cast_mul, Nat.cast_pow, Nat.cast_ofNat, zpow_natCast,
        div_div]
  · next hsign =>
      obtain ⟨k, rfl⟩ := Int.exists_eq_neg_ofNat (Int.le_of_not_le hsign)
      simp only [Int.neg_neg, Int.toNat_natCast, Nat.cast_mul, Nat.cast_pow, Nat.cast_ofNat,
        zpow_neg, zpow_natCast, div_inv_eq_mul]
      rw [mul_div_right_comm]

/-- A power of ten goes into the number exactly if it is not above the magnitude. -/
theorem atPlace_le_iff :
    (atPlace units place).2 ≤ (atPlace units place).1 ↔ (10 : ℚ) ^ place ≤ units / unit := by
  have hden : (0 : ℚ) < (atPlace units place).2 := Nat.cast_pos.mpr atPlace_den_pos
  rw [← Nat.cast_le (α := ℚ), ← one_le_div₀ hden, atPlace_ratio, one_le_div₀ (ten_zpow_pos place)]

/-! ## The leading place -/

/-- The search ends at the leading place if it starts above it and has enough fuel. -/
theorem leadingPlaceFrom_spec (hlow : (10 : ℚ) ^ bottom ≤ units / unit)
    (hhigh : (units : ℚ) / unit < 10 ^ (start + 1)) (hfuel : start ≤ bottom + fuel) :
    (10 : ℚ) ^ leadingPlaceFrom units fuel start ≤ units / unit ∧
      (units : ℚ) / unit < 10 ^ (leadingPlaceFrom units fuel start + 1) := by
  induction fuel generalizing start with
  | zero =>
      rw [Nat.cast_zero, add_zero] at hfuel
      exact ⟨(zpow_le_zpow_right₀ (by norm_num) hfuel).trans hlow, hhigh⟩
  | succ fuel ih =>
      rw [leadingPlaceFrom]
      split
      · next hreached => exact ⟨atPlace_le_iff.mp hreached, hhigh⟩
      · next habove =>
          -- The bound above moves down with the place; the fuel still reaches the bottom.
          rw [atPlace_le_iff, not_le] at habove
          refine ih ?_ (by omega)
          rwa [sub_add_cancel]

theorem unit_cast : (unit : ℚ) = 2 ^ (1074 : ℤ) := by
  rw [unit, Nat.cast_pow, Nat.cast_ofNat]
  exact (zpow_ofNat 2 1074).symm

theorem lt_two_zpow_log2 : (units : ℚ) / unit < 2 ^ (((units.log2 + 1 : ℕ) : ℤ) - 1074) := by
  rw [zpow_sub₀ two_ne_zero, zpow_natCast, ← unit_cast]
  exact div_lt_div_of_pos_right (by exact_mod_cast Nat.lt_log2_self) unit_cast_pos

theorem ten_zpow_le_of_ne_zero (hne : units ≠ 0) : (10 : ℚ) ^ (-332 : ℤ) ≤ units / unit := by
  have hone : (1 : ℚ) ≤ units := Nat.one_le_cast.mpr (Nat.pos_of_ne_zero hne)
  have hpow : (2 : ℚ) ^ (1074 : ℤ) ≤ 10 ^ (332 : ℤ) := two_zpow_le_ten_zpow (by decide) (by decide)
  calc (10 : ℚ) ^ (-332 : ℤ)
      = ((10 : ℚ) ^ (332 : ℤ))⁻¹ := zpow_neg 10 332
    _ ≤ (unit : ℚ)⁻¹ := by
        rw [unit_cast]
        exact inv_anti₀ (zpow_pos (by norm_num) _) hpow
    _ = 1 / unit := (one_div _).symm
    _ ≤ units / unit := div_le_div_of_nonneg_right hone unit_cast_pos.le

/-- The leading place of a number is that of the leading digit of its magnitude. -/
theorem leadingPlace_spec (h : Representable units) (hne : units ≠ 0) :
    (10 : ℚ) ^ leadingPlace units ≤ units / unit ∧
      (units : ℚ) / unit < 10 ^ (leadingPlace units + 1) := by
  have hbits : units.log2 < 2098 := (Nat.log2_lt hne).mpr h.1
  refine leadingPlaceFrom_spec (ten_zpow_le_of_ne_zero hne) ?_ (by omega)
  exact lt_two_zpow_log2.trans_le (two_zpow_le_ten_zpow (by omega) (by omega))

/-! ## Rounding to a place -/

/-- No multiple of the power of ten is nearer to `q` than `m` times the power, and if another one is
as near, `m` is even. -/
structure RoundsToPlace (q : ℚ) (place : ℤ) (m : ℕ) : Prop where
  nearest : ∀ n : ℕ, |q - m * 10 ^ place| ≤ |q - n * 10 ^ place|
  even : ∀ n : ℕ, n ≠ m → |q - m * 10 ^ place| = |q - n * 10 ^ place| → m % 2 = 0

/-- No natural number is nearer to a ratio than the chosen one, and if another one is as near, the
chosen one is even. -/
theorem nearest_distance (hden : 0 < den) (n : ℕ) :
    ((num : ℤ) - nearest num den * den).natAbs ≤ ((num : ℤ) - n * den).natAbs ∧
      (n ≠ nearest num den →
        ((num : ℤ) - nearest num den * den).natAbs = ((num : ℤ) - n * den).natAbs →
        nearest num den % 2 = 0) := by
  obtain ⟨count, excess, hnum, -, hexcess, hchoice⟩ := @nearest_cases num den hden
  have hcandidate : n * den ≤ count * den ∨ count * den + den ≤ n * den := by
    rw [← Nat.succ_mul]
    rcases Nat.lt_or_ge count n with hlt | hge
    · exact .inr (Nat.mul_le_mul_right den hlt)
    · exact .inl (Nat.mul_le_mul_right den hge)
  have hchosen :
      nearest num den * den = count * den ∧ 2 * excess ≤ den ∨
        nearest num den * den = count * den + den ∧ den ≤ 2 * excess := by
    rcases hchoice with ⟨hnearest, hclose⟩ | ⟨hnearest, hclose⟩
    · exact .inl ⟨congrArg (· * den) hnearest, by omega⟩
    · rw [hnearest, Nat.succ_mul]
      exact .inr ⟨rfl, by omega⟩
  obtain ⟨hle, htie⟩ := distance_of_choice hexcess hchosen hcandidate
  rw [← hnum, Nat.cast_mul, Nat.cast_mul] at hle htie
  refine ⟨hle, fun hne hsame => ?_⟩
  have hmiddle := htie (fun h => hne (Nat.eq_of_mul_eq_mul_right hden h)) hsame
  omega

theorem abs_sub_mul_zpow (m : ℕ) :
    |(units : ℚ) / unit - m * 10 ^ place| =
      |((atPlace units place).1 : ℚ) / (atPlace units place).2 - m| * 10 ^ place := by
  have hpos := ten_zpow_pos place
  rw [atPlace_ratio, ← abs_of_pos hpos, ← abs_mul, abs_of_pos hpos, sub_mul,
    div_mul_cancel₀ _ hpos.ne']

theorem roundsToPlace_decimalNear (units : ℕ) (place : ℤ) :
    RoundsToPlace (units / unit) place (decimalNear units place).significand := by
  have hden := @atPlace_den_pos place units
  have hpos := ten_zpow_pos place
  have hden' : (0 : ℚ) < (atPlace units place).2 := Nat.cast_pos.mpr hden
  refine ⟨fun n => ?_, fun n hne htie => ?_⟩
  · rw [abs_sub_mul_zpow, abs_sub_mul_zpow, abs_div_sub hden, abs_div_sub hden,
      mul_le_mul_iff_left₀ hpos, div_le_div_iff_of_pos_right hden', Nat.cast_le]
    exact (nearest_distance hden n).1
  · rw [abs_sub_mul_zpow, abs_sub_mul_zpow, abs_div_sub hden, abs_div_sub hden,
      mul_left_inj' hpos.ne', div_left_inj' hden'.ne', Nat.cast_inj] at htie
    exact (nearest_distance hden n).2 hne htie

namespace RoundsToPlace

/-- The distance is at most half of the power of ten. -/
theorem abs_sub_le (h : RoundsToPlace q place m) (hq : 0 ≤ q) :
    |q - m * 10 ^ place| ≤ 10 ^ place / 2 := by
  have hpos := ten_zpow_pos place
  rcases le_total ((m : ℚ) * 10 ^ place) q with hbelow | habove
  · have hnext := h.nearest (m + 1)
    rw [abs_of_nonneg (sub_nonneg.mpr hbelow)] at hnext ⊢
    push_cast at hnext
    rcases le_abs.mp hnext with hnext | hnext <;> linarith
  · cases m with
    | zero =>
        rw [Nat.cast_zero, zero_mul] at habove ⊢
        rw [le_antisymm habove hq, sub_self, abs_zero]
        linarith
    | succ m =>
        have hprevious := h.nearest m
        rw [abs_of_nonpos (sub_nonpos.mpr habove)] at hprevious ⊢
        push_cast at hprevious ⊢
        rcases le_abs.mp hprevious with hprevious | hprevious <;> linarith

/-- A multiple within half of the power of ten is the nearest one. -/
theorem eq_of_abs_sub_lt (h : RoundsToPlace q place m)
    (hn : |q - n * 10 ^ place| < 10 ^ place / 2) : m = n := by
  have hm := (h.nearest n).trans_lt hn
  rw [abs_lt] at hm hn
  have hapart {j k : ℕ} (hless : j < k) : (j : ℚ) * 10 ^ place + 10 ^ place ≤ k * 10 ^ place := by
    rw [← add_one_mul]
    exact mul_le_mul_of_nonneg_right (by exact_mod_cast hless) (ten_zpow_pos place).le
  rcases Nat.lt_trichotomy m n with hless | heq | hless
  · have hgap := hapart hless
    linarith
  · exact heq
  · have hgap := hapart hless
    linarith

theorem le_of_mul_le (h : RoundsToPlace q place m) (hn : n * 10 ^ place ≤ q) : n ≤ m := by
  by_contra hless
  have hstep : (m : ℚ) * 10 ^ place < n * 10 ^ place :=
    mul_lt_mul_of_pos_right (Nat.cast_lt.mpr (Nat.lt_of_not_le hless)) (ten_zpow_pos place)
  have hnearest := h.nearest n
  rw [abs_of_nonneg (by linarith), abs_of_nonneg (by linarith)] at hnearest
  linarith

theorem le_of_le_mul (h : RoundsToPlace q place m) (hn : q ≤ n * 10 ^ place) : m ≤ n := by
  by_contra hless
  have hstep : (n : ℚ) * 10 ^ place < m * 10 ^ place :=
    mul_lt_mul_of_pos_right (Nat.cast_lt.mpr (Nat.lt_of_not_le hless)) (ten_zpow_pos place)
  have hnearest := h.nearest n
  rw [abs_of_nonpos (by linarith), abs_of_nonpos (by linarith)] at hnearest
  linarith

/-- Of two nearest multiples both would be even, and the one between them would be nearer. -/
theorem unique (h : RoundsToPlace q place m) (h' : RoundsToPlace q place n) : m = n := by
  by_contra hne
  have hpos := ten_zpow_pos place
  have htie := le_antisymm (h.nearest n) (h'.nearest m)
  have heven := h.even n (Ne.symm hne) htie
  have heven' := h'.even m hne htie.symm
  rcases abs_eq_abs.mp htie with hsame | hopposite
  · have hproduct : (m : ℚ) * 10 ^ place = n * 10 ^ place := by linarith
    exact hne (Nat.cast_inj.mp (mul_right_cancel₀ hpos.ne' hproduct))
  · obtain ⟨middle, hmiddle⟩ : ∃ middle, m + n = 2 * middle := ⟨(m + n) / 2, by omega⟩
    have hcast : (m : ℚ) + n = 2 * middle := by exact_mod_cast hmiddle
    have hexact : q = middle * 10 ^ place := by
      have hdouble : 2 * q = (m + n) * 10 ^ place := by linarith
      rw [hcast] at hdouble
      linarith
    have hzero : |q - middle * 10 ^ place| < 10 ^ place / 2 := by
      rw [hexact, sub_self, abs_zero]
      linarith
    exact hne ((h.eq_of_abs_sub_lt hzero).trans (h'.eq_of_abs_sub_lt hzero).symm)

end RoundsToPlace

end Number
end Guest
