import Guest.Proofs.Number.Rounding
import Mathlib.Algebra.Order.Field.Basic

/-!
# The nearest number

Rounding is specified apart from its computation: of all numbers with 53 significant bits, the one
at the least distance, and of two such numbers the one whose last significant bit is zero.  The end
of the range plays no part in the choice; a choice beyond it is infinite.  A decimal is read as the
number nearest to its exact value.
-/

namespace Guest

namespace Number

variable {num den m n : Nat} {q : ℚ}

/-- The natural number `n` has at most 53 significant bits, no such number is nearer to `q`, and if
another one is as near, the last significant bit of `n` is zero. -/
structure RoundsTo (q : ℚ) (n : Nat) : Prop where
  significant : spacing n ∣ n
  nearest : ∀ m, spacing m ∣ m → |q - n| ≤ |q - m|
  even : ∀ m, spacing m ∣ m → m ≠ n → |q - n| = |q - m| → 2 * spacing n ∣ n

/-- The number nearest to `q`, which is not negative. -/
inductive Nearest (q : ℚ) : Number → Prop where
  | finite {n : Nat} {h : Representable n} :
      RoundsTo (q * unit) n → Nearest q (.finite false n h)
  | infinite {n : Nat} :
      RoundsTo (q * unit) n → rangeEnd ≤ n → Nearest q (.infinite false)

/-! ## The candidates around a ratio -/

/-- A number of 53 significant bits above the leading bit of another one stands on its grid. -/
theorem spacing_dvd_of_log2_le (hm : spacing m ∣ m) (h : n.log2 ≤ m.log2) : spacing n ∣ m :=
  Nat.dvd_trans (Nat.pow_dvd_pow 2 (Nat.sub_le_sub_right h 52)) hm

theorem two_pow_log2_dvd : spacing n ∣ 2 ^ n.log2 := Nat.pow_dvd_pow 2 (Nat.sub_le _ _)

/-- No number of 53 significant bits lies strictly between the neighbours of `n`. -/
theorem le_or_le_of_spacing_dvd (hm : spacing m ∣ m) :
    m ≤ n / spacing n * spacing n ∨ n / spacing n * spacing n + spacing n ≤ m := by
  have hgrid (h : spacing n ∣ m) :
      m ≤ n / spacing n * spacing n ∨ n / spacing n * spacing n + spacing n ≤ m := by
    obtain ⟨j, rfl⟩ := h
    rw [Nat.mul_comm, ← Nat.succ_mul]
    rcases Nat.lt_or_ge (n / spacing n) j with hlt | hge
    · exact .inr (Nat.mul_le_mul_right _ hlt)
    · exact .inl (Nat.mul_le_mul_right _ hge)
  rcases Nat.lt_or_ge m (2 ^ n.log2) with hlt | hge
  · rcases Nat.eq_zero_or_pos n with rfl | hpos
    · exact hgrid (Nat.one_dvd m)
    · left
      calc m
          ≤ 2 ^ n.log2 := Nat.le_of_lt hlt
        _ = 2 ^ n.log2 / spacing n * spacing n := (Nat.div_mul_cancel two_pow_log2_dvd).symm
        _ ≤ n / spacing n * spacing n :=
            Nat.mul_le_mul_right _ (Nat.div_le_div_right (Nat.log2_self_le (Nat.ne_of_gt hpos)))
  · have hne : m ≠ 0 := Nat.ne_of_gt (Nat.lt_of_lt_of_le (Nat.two_pow_pos _) hge)
    exact hgrid (spacing_dvd_of_log2_le hm ((Nat.le_log2 hne).mpr hge))

/-- The whole part of a ratio, what the ratio is above it, and the choice between the two whole
numbers around the ratio. -/
theorem nearest_cases (hden : 0 < den) :
    ∃ count excess, num = count * den + excess ∧ count = num / den ∧ excess < den ∧
      (nearest num den = count ∧ (2 * excess < den ∨ 2 * excess = den ∧ count % 2 = 0) ∨
        nearest num den = count + 1 ∧
          (den < 2 * excess ∨ 2 * excess = den ∧ (count + 1) % 2 = 0)) := by
  refine ⟨num / den, num % den, (Nat.div_add_mod' num den).symm, rfl, Nat.mod_lt _ hden, ?_⟩
  unfold nearest
  split_ifs with hless hmore heven
  · exact .inl ⟨rfl, .inl hless⟩
  · exact .inr ⟨rfl, .inl hmore⟩
  · exact .inl ⟨rfl, .inr ⟨by omega, heven⟩⟩
  · exact .inr ⟨rfl, .inr ⟨by omega, by omega⟩⟩

/-- The lower neighbour of a ratio, what the ratio is above it, and the choice between the two
neighbours. -/
theorem roundedUnits_cases (hden : 0 < den) :
    ∃ count excess, num = count * spacing (num / den) * den + excess ∧
      count = num / den / spacing (num / den) ∧ excess < den * spacing (num / den) ∧
      (roundedUnits num den = count * spacing (num / den) ∧
          (2 * excess < den * spacing (num / den) ∨
            2 * excess = den * spacing (num / den) ∧ count % 2 = 0) ∨
        roundedUnits num den = (count + 1) * spacing (num / den) ∧
          (den * spacing (num / den) < 2 * excess ∨
            2 * excess = den * spacing (num / den) ∧ (count + 1) % 2 = 0)) := by
  obtain ⟨count, excess, hnum, hcount, hexcess, hchoice⟩ :=
    @nearest_cases num (den * spacing (num / den)) (Nat.mul_pos hden spacing_pos)
  refine ⟨count, excess, ?_, ?_, hexcess, ?_⟩
  · rwa [Nat.mul_assoc, Nat.mul_comm (spacing _) den]
  · rw [hcount, Nat.div_div_eq_div_mul]
  · rcases hchoice with ⟨hnearest, hclose⟩ | ⟨hnearest, hclose⟩
    · exact .inl ⟨congrArg (· * _) hnearest, hclose⟩
    · exact .inr ⟨congrArg (· * _) hnearest, hclose⟩

/-- Of two neighbours the one on the nearer side is chosen.  No candidate that is not strictly
between them is nearer, and another one is as near only in the middle. -/
theorem distance_of_choice {low width excess chosen other : Nat} (hexcess : excess < width)
    (hchosen : chosen = low ∧ 2 * excess ≤ width ∨ chosen = low + width ∧ width ≤ 2 * excess)
    (hother : other ≤ low ∨ low + width ≤ other) :
    (((low + excess : ℕ) : ℤ) - chosen).natAbs ≤ (((low + excess : ℕ) : ℤ) - other).natAbs ∧
      (other ≠ chosen →
        (((low + excess : ℕ) : ℤ) - chosen).natAbs = (((low + excess : ℕ) : ℤ) - other).natAbs →
        2 * excess = width) := by
  rcases hchosen with ⟨rfl, hclose⟩ | ⟨rfl, hclose⟩
  · exact ⟨by omega, fun hne htie => by omega⟩
  · exact ⟨by omega, fun hne htie => by omega⟩

/-- No candidate is nearer than the chosen one, and if another one is as near, the choice is an even
multiple. -/
theorem roundedUnits_nearest (hden : 0 < den) (hm : spacing m ∣ m) :
    ((num : ℤ) - roundedUnits num den * den).natAbs ≤ ((num : ℤ) - m * den).natAbs ∧
      (m ≠ roundedUnits num den →
        ((num : ℤ) - roundedUnits num den * den).natAbs = ((num : ℤ) - m * den).natAbs →
        ∃ count, count % 2 = 0 ∧ roundedUnits num den = count * spacing (num / den)) := by
  obtain ⟨count, excess, hnum, hcount, hexcess, hchoice⟩ := @roundedUnits_cases num den hden
  have hsplit := @le_or_le_of_spacing_dvd m (num / den) hm
  rw [← hcount] at hsplit
  generalize hstep : spacing (num / den) = step at *
  have hcandidate : m * den ≤ count * step * den ∨ count * step * den + den * step ≤ m * den := by
    rcases hsplit with hle | hge
    · exact .inl (Nat.mul_le_mul_right _ hle)
    · right
      calc count * step * den + den * step
          = (count * step + step) * den := by ring
        _ ≤ m * den := Nat.mul_le_mul_right _ hge
  have hchosen :
      roundedUnits num den * den = count * step * den ∧ 2 * excess ≤ den * step ∨
        roundedUnits num den * den = count * step * den + den * step ∧
          den * step ≤ 2 * excess := by
    rcases hchoice with ⟨hunits, hclose⟩ | ⟨hunits, hclose⟩
    · exact .inl ⟨congrArg (· * den) hunits, by omega⟩
    · right
      rw [hunits]
      exact ⟨by ring, by omega⟩
  obtain ⟨hle, htie⟩ := distance_of_choice hexcess hchosen hcandidate
  rw [← hnum, Nat.cast_mul, Nat.cast_mul] at hle htie
  refine ⟨hle, fun hne hsame => ?_⟩
  have hmiddle := htie (fun h => hne (Nat.eq_of_mul_eq_mul_right hden h)) hsame
  rcases hchoice with ⟨hunits, hclose⟩ | ⟨hunits, hclose⟩
  · exact ⟨count, by omega, hunits⟩
  · exact ⟨count + 1, by omega, hunits⟩

/-- An even significand of 53 bits, shifted, has no last significant bit. -/
theorem two_mul_spacing_dvd {m k : Nat} (hm : m ≤ 2 ^ 53) (heven : m % 2 = 0) :
    2 * spacing (m * 2 ^ k) ∣ m * 2 ^ k := by
  rcases Nat.eq_zero_or_pos m with rfl | hpos
  · simp
  have hne : m * 2 ^ k ≠ 0 := Nat.ne_of_gt (Nat.mul_pos hpos (Nat.two_pow_pos k))
  have hbound : m * 2 ^ k ≤ 2 ^ (53 + k) := by
    rw [Nat.pow_add]
    exact Nat.mul_le_mul_right _ hm
  have hself : 2 ^ (m * 2 ^ k).log2 ≤ m * 2 ^ k := Nat.log2_self_le hne
  have hdouble (n : Nat) : 2 * spacing n = 2 ^ (n.log2 - 52 + 1) := by
    rw [spacing, Nat.pow_succ, Nat.mul_comm]
  rw [hdouble]
  rcases Nat.lt_or_ge (m * 2 ^ k).log2 (53 + k) with hlt | hge
  · calc 2 ^ ((m * 2 ^ k).log2 - 52 + 1)
        ∣ 2 ^ (1 + k) := Nat.pow_dvd_pow 2 (by omega)
      _ ∣ m * 2 ^ k := by
          rw [Nat.pow_add]
          exact Nat.mul_dvd_mul_right (Nat.dvd_of_mod_eq_zero heven) _
  · -- Only the power of two itself reaches the place above the significand.
    have htop : m * 2 ^ k = 2 ^ (53 + k) :=
      Nat.le_antisymm hbound (Nat.le_trans (Nat.pow_le_pow_right (by decide) hge) hself)
    rw [htop, Nat.log2_two_pow]
    exact Nat.pow_dvd_pow 2 (by omega)

theorem even_roundedUnits {count : Nat} (heven : count % 2 = 0)
    (hunits : roundedUnits num den = count * spacing (num / den)) :
    2 * spacing (roundedUnits num den) ∣ roundedUnits num den := by
  have hcount : count = nearest num (den * spacing (num / den)) :=
    Nat.eq_of_mul_eq_mul_right spacing_pos hunits.symm
  have hmost : count ≤ 2 ^ 53 := by
    rw [hcount]
    exact nearest_spacing_le num den
  rw [hunits]
  exact two_mul_spacing_dvd hmost heven

/-! ## Ratios -/

theorem abs_div_sub (hden : 0 < den) :
    |(num : ℚ) / den - n| = (((num : ℤ) - n * den).natAbs : ℚ) / den := by
  have hpos : (0 : ℚ) < den := Nat.cast_pos.mpr hden
  rw [Nat.cast_natAbs, div_sub' hpos.ne', abs_div, abs_of_pos hpos]
  push_cast
  rw [mul_comm]

theorem roundsTo_roundedUnits (hden : 0 < den) :
    RoundsTo ((num : ℚ) / den) (roundedUnits num den) := by
  have hpos : (0 : ℚ) < den := Nat.cast_pos.mpr hden
  refine ⟨two_pow_dvd_mul_two_pow (nearest_spacing_le num den), ?_, ?_⟩
  · intro m hm
    rw [abs_div_sub hden, abs_div_sub hden, div_le_div_iff_of_pos_right hpos, Nat.cast_le]
    exact (roundedUnits_nearest hden hm).1
  · intro m hm hne htie
    rw [abs_div_sub hden, abs_div_sub hden, div_left_inj' hpos.ne', Nat.cast_inj] at htie
    obtain ⟨count, heven, hunits⟩ := (roundedUnits_nearest hden hm).2 hne htie
    exact even_roundedUnits heven hunits

theorem ofRatio_eq :
    ofRatio false num den =
      if h : roundedUnits num den < rangeEnd then
        .finite false (roundedUnits num den)
          (representable_mul_two_pow (nearest_spacing_le num den) h)
      else .infinite false := rfl

theorem nearest_ofRatio (hden : 0 < den) (hq : q * unit = (num : ℚ) / den) :
    Nearest q (ofRatio false num den) := by
  have hrounds : RoundsTo (q * unit) (roundedUnits num den) := by
    rw [hq]
    exact roundsTo_roundedUnits hden
  rw [ofRatio_eq]
  split
  · exact .finite hrounds
  · next hend => exact .infinite hrounds (Nat.not_lt.mp hend)

/-! ## Decimals -/

/-- A decimal is read as the number nearest to its exact value, however many digits it has and
however great its exponent is. -/
theorem nearest_ofDecimal (d : Decimal) :
    Nearest d.exact (ofDecimal false d.significand d.exponent) := by
  rw [ofDecimal_eq_ofRatio]
  apply nearest_ofRatio (Nat.pow_pos (by decide))
  rw [Decimal.exact_eq_div, div_mul_eq_mul_div, ← Nat.cast_mul]

end Number
end Guest
