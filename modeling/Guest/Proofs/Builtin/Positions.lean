import Guest.Builtin.Text
import Guest.Proofs.Number.Whole

/-!
# Positions in texts

A number stands for the position at its part toward zero, moved into the text; where positions are
counted from the end, a negative number stands for the one that many characters before the end.  No
position lies outside of the text.  The positions are computed with numbers, and rounding moves none
of them: every sum of a length and a number is exact unless it lies before the start, where all of
them stand for the start.
-/

namespace Guest

namespace Number

variable {x y : Number} {i j : Int} {k n : Nat}

/-! ## The whole number of a position -/

theorem truncated_neg (x : Number) : x.neg.truncated = -x.truncated := by
  rw [truncated, scaled_neg, Int.neg_tdiv, truncated]

theorem isExactly_toWhole (h : x.isInfinite = false) : x.toWhole.IsExactly x.truncated := by
  cases x with
  | nan =>
      rw [truncated_of_not_isFinite rfl]
      exact isExactly_zero
  | infinite => cases h
  | finite negative units hunits =>
      have htrunc : (finite negative units hunits).toWhole = (finite negative units hunits).trunc :=
        if_neg Bool.false_ne_true
      rw [htrunc]
      exact isExactly_trunc rfl

theorem toNatClamped_eq_min (h : x.isInfinite = false) (most : Nat) :
    x.toNatClamped most = Nat.min x.truncated.toNat most := by
  cases x with
  | nan =>
      rw [truncated_of_not_isFinite rfl]
      exact (Nat.zero_min most).symm
  | infinite => cases h
  | finite negative units hunits =>
      rw [toNatClamped_finite, truncated_finite]
      cases negative with
      | false => rfl
      | true =>
          have hnone : (-(wholePart units : Int)).toNat = 0 := by omega
          rw [if_pos rfl, if_pos rfl, hnone]
          exact (Nat.zero_min most).symm

theorem exists_eq_infinite (h : x.isInfinite = true) : ∃ negative, x = infinite negative := by
  cases x with
  | nan => cases h
  | infinite negative => exact ⟨negative, rfl⟩
  | finite => cases h

theorem toNatClamped_le (x : Number) (most : Nat) : x.toNatClamped most ≤ most := by
  cases hinfinite : x.isInfinite with
  | false =>
      rw [toNatClamped_eq_min hinfinite]
      exact Nat.min_le_right _ _
  | true =>
      obtain ⟨_ | _, rfl⟩ := exists_eq_infinite hinfinite
      · exact Nat.le_refl most
      · exact Nat.zero_le most

theorem IsExactly.isInfinite (h : x.IsExactly i) : x.isInfinite = false := by
  obtain ⟨negative, hunits, rfl, -⟩ := h.exists_eq
  rfl

/-! ## Positions by whole numbers -/

theorem wholeRelativeIndex_le (x : Number) (n : Nat) : x.wholeRelativeIndex n ≤ n := by
  rw [wholeRelativeIndex]
  split
  · exact Nat.sub_le _ _
  · exact toNatClamped_le x n

theorem toWhole_less_zero_iff (h : x.isInfinite = false) :
    x.toWhole.less zero = true ↔ x.truncated < 0 :=
  (isExactly_toWhole h).less_iff isExactly_zero

theorem wholeRelativeIndex_eq (h : x.isInfinite = false) (n : Nat) :
    x.wholeRelativeIndex n =
      if x.truncated < 0 then n - (-x.truncated).toNat else Nat.min x.truncated.toNat n := by
  have hneg : x.neg.isInfinite = false := by
    cases x with
    | nan => rfl
    | infinite => cases h
    | finite => rfl
  simp only [wholeRelativeIndex, toWhole_less_zero_iff h, toNatClamped_eq_min h,
    toNatClamped_eq_min hneg, truncated_neg]
  refine if_congr Iff.rfl ?_ rfl
  change n - Min.min _ n = _
  omega

/-! ## Rounding -/

theorem IsExactly.isNaN (h : x.IsExactly i) : x.isNaN = false := by
  obtain ⟨negative, hunits, rfl, -⟩ := h.exists_eq
  rfl

theorem IsExactly.max (h : x.IsExactly i) (h' : y.IsExactly j) :
    (x.max y).IsExactly (Max.max i j) := by
  have hnumbers : ¬(x.isNaN || y.isNaN) = true := by rw [h.isNaN, h'.isNaN]; exact nofun
  rw [Number.max, if_neg hnumbers]
  split
  · next hless => rwa [Int.max_eq_right (Int.le_of_lt ((h.less_iff h').mp hless))]
  · next hless => rwa [Int.max_eq_left (Int.not_lt.mp (hless ∘ (h.less_iff h').mpr))]

theorem IsExactly.min (h : x.IsExactly i) (h' : y.IsExactly j) :
    (x.min y).IsExactly (Min.min i j) := by
  have hnumbers : ¬(x.isNaN || y.isNaN) = true := by rw [h.isNaN, h'.isNaN]; exact nofun
  rw [Number.min, if_neg hnumbers]
  split
  · next hless => rwa [Int.min_eq_right (Int.le_of_lt ((h'.less_iff h).mp hless))]
  · next hless => rwa [Int.min_eq_left (Int.not_lt.mp (hless ∘ (h'.less_iff h).mpr))]

theorem IsExactly.toIndex_eq (h : x.IsExactly i) (hi : i ≤ (2 ^ 53 : Nat)) :
    x.toIndex = i.toNat := by
  rw [toIndex, toNatClamped_eq_min h.isInfinite, h.truncated_eq]
  have hmost : 2 ^ 53 ≤ Value.mostIndex := by decide
  exact Nat.min_eq_left (by omega)

theorem ofRatio_sign (negative : Bool) (num den : Nat) :
    (∃ units hunits, ofRatio negative num den = finite negative units hunits) ∨
      ofRatio negative num den = infinite negative := by
  unfold ofRatio
  dsimp only
  split
  · next h => exact .inl ⟨_, representable_mul_two_pow (nearest_spacing_le num den) h, rfl⟩
  · exact .inr rfl

theorem toIndex_zero : zero.toIndex = 0 := isExactly_zero.toIndex_eq (by omega)

/-- What a sum below zero is rounded to has a minus sign, and so it stands for the start. -/
theorem toIndex_max_zero (m : Nat) : ((ofUnits true m).max zero).toIndex = 0 := by
  rw [ofUnits]
  rcases ofRatio_sign true m 1 with ⟨units, hunits, hx⟩ | hx
  · have hnumbers : ¬((finite true units hunits).isNaN || zero.isNaN) = true := Bool.false_ne_true
    rw [hx, Number.max, if_neg hnumbers]
    split
    · exact toIndex_zero
    · rfl
  · rw [hx]
    exact toIndex_zero

theorem IsExactly.add_of_neg (h : x.IsExactly i) (h' : y.IsExactly j) (hneg : i + j < 0) :
    ∃ m, x + y = ofUnits true m := by
  have hsum : x.scaled + y.scaled = (i + j) * unit := by
    rw [h.scaled, h'.scaled, Int.add_mul]
  have hless : (i + j) * unit < 0 :=
    Int.mul_neg_of_neg_of_pos hneg (Int.natCast_pos.mpr unit_pos)
  obtain ⟨a, hm, rfl, -⟩ := h.exists_eq
  obtain ⟨b, hn, rfl, -⟩ := h'.exists_eq
  refine ⟨((i + j) * unit).natAbs, ?_⟩
  change Number.add _ _ = _
  rw [Number.add, hsum, if_neg (Int.ne_of_lt hless), decide_eq_true hless]

theorem ofNat_less_infinite (hn : n ≤ 2 ^ 53) : (ofNat n).less (infinite false) = true := by
  obtain ⟨negative, hunits, hlength, -⟩ := (isExactly_ofNat hn).exists_eq
  rw [hlength]
  rfl

theorem ofNat_add_infinite (hn : n ≤ 2 ^ 53) : ofNat n + infinite true = infinite true := by
  obtain ⟨negative, hunits, hlength, -⟩ := (isExactly_ofNat hn).exists_eq
  rw [hlength]
  rfl

theorem infinite_min_ofNat (hn : n ≤ 2 ^ 53) : (infinite false).min (ofNat n) = ofNat n := by
  have hnumbers : ¬((infinite false).isNaN || (ofNat n).isNaN) = true := by
    rw [(isExactly_ofNat hn).isNaN]
    exact Bool.false_ne_true
  rw [Number.min, if_neg hnumbers, if_pos (ofNat_less_infinite hn)]

/-- Rounding moves no position into a text: the length is exact, and so is what lies below it. -/
theorem clampedIndex_eq_toNatClamped (x : Number) (n : Nat) :
    x.clampedIndex n = x.toNatClamped n := by
  rw [clampedIndex]
  split
  case isFalse => rfl
  case isTrue hn =>
    have hlength : (ofNat n).IsExactly n := isExactly_ofNat hn
    have hbound : n ≤ 2 ^ 53 := hn
    cases hinfinite : x.isInfinite with
    | false =>
        have hposition := ((isExactly_toWhole hinfinite).max isExactly_zero).min hlength
        rw [hposition.toIndex_eq (by omega), toNatClamped_eq_min hinfinite]
        change _ = Min.min _ n
        omega
    | true =>
        obtain ⟨_ | _, rfl⟩ := exists_eq_infinite hinfinite
        · have hmost : (ofNat n).toIndex = n := hlength.toIndex_eq (by omega)
          exact (congrArg toIndex (infinite_min_ofNat hn)).trans hmost
        · have hleast := (isExactly_zero.min hlength).toIndex_eq (by omega)
          have hstart : (infinite true).toNatClamped n = 0 := rfl
          rw [hstart]
          exact hleast.trans (by omega)

/-- Rounding moves no position that is counted from the end: a sum within the text is exact, and one
before the start keeps its sign. -/
theorem relativeIndex_eq_whole (x : Number) (n : Nat) :
    x.relativeIndex n = x.wholeRelativeIndex n := by
  rw [relativeIndex]
  split
  case isFalse => rfl
  case isTrue hn =>
    have hlength : (ofNat n).IsExactly n := isExactly_ofNat hn
    have hbound : n ≤ 2 ^ 53 := hn
    cases hinfinite : x.isInfinite with
    | false =>
        have hwhole := isExactly_toWhole hinfinite
        rw [wholeRelativeIndex_eq hinfinite]
        simp only [toWhole_less_zero_iff hinfinite]
        split
        · next hneg =>
            by_cases hbefore : (n : Int) + x.truncated < 0
            · obtain ⟨m, hsum⟩ := hlength.add_of_neg hwhole hbefore
              rw [hsum, toIndex_max_zero]
              omega
            · have hposition := (hlength.add hwhole (by omega)).max isExactly_zero
              rw [hposition.toIndex_eq (by omega)]
              omega
        · next hneg =>
            rw [(hwhole.min hlength).toIndex_eq (by omega)]
            change _ = Min.min _ n
            omega
    | true =>
        obtain ⟨negative, rfl⟩ := exists_eq_infinite hinfinite
        have hwhole : (infinite negative).toWhole = infinite negative := rfl
        cases negative with
        | false =>
            have hless : ¬(infinite false).less zero = true := Bool.false_ne_true
            have hmost : (ofNat n).toIndex = n := hlength.toIndex_eq (by omega)
            rw [wholeRelativeIndex, hwhole, if_neg hless, if_neg hless, infinite_min_ofNat hn,
              hmost]
            rfl
        | true =>
            have hless : (infinite true).less zero = true := rfl
            have hmax : (infinite true).max zero = zero := rfl
            rw [wholeRelativeIndex, hwhole, if_pos hless, if_pos hless, ofNat_add_infinite hn, hmax,
              toIndex_zero]
            exact (Nat.sub_self n).symm

/-! ## Positions counted from the start -/

/-- The position in a text of some length that a number stands for: its part toward zero, moved into
the text.  What is not a number stands for the start. -/
def position : Number → Nat → Nat
  | nan, _ => 0
  | infinite negative, length => if negative then 0 else length
  | x@(finite ..), length => Nat.min x.truncated.toNat length

theorem clampedIndex_eq_position (x : Number) (n : Nat) : x.clampedIndex n = x.position n := by
  rw [clampedIndex_eq_toNatClamped]
  cases x with
  | nan => rfl
  | infinite negative => cases negative <;> rfl
  | finite => exact toNatClamped_eq_min rfl n

theorem clampedIndex_le (x : Number) (n : Nat) : x.clampedIndex n ≤ n := by
  rw [clampedIndex_eq_toNatClamped]
  exact toNatClamped_le x n

theorem IsExactly.clampedIndex_eq (h : x.IsExactly i) (n : Nat) :
    x.clampedIndex n = Nat.min i.toNat n := by
  rw [clampedIndex_eq_toNatClamped, toNatClamped_eq_min h.isInfinite, h.truncated_eq]

theorem position_le (x : Number) (n : Nat) : x.position n ≤ n := by
  rw [← clampedIndex_eq_position]
  exact clampedIndex_le x n

/-! ## Positions counted from the end -/

theorem relativeIndex_le (x : Number) (n : Nat) : x.relativeIndex n ≤ n := by
  rw [relativeIndex_eq_whole]
  exact wholeRelativeIndex_le x n

/-- A whole number that is not negative is a position counted from the start. -/
theorem IsExactly.relativeIndex_eq (h : x.IsExactly k) (n : Nat) :
    x.relativeIndex n = Nat.min k n := by
  rw [relativeIndex_eq_whole, wholeRelativeIndex_eq h.isInfinite, h.truncated_eq,
    Int.toNat_natCast]
  exact if_neg (Int.not_lt.mpr (Int.natCast_nonneg k))

end Number

end Guest
