import Guest.Proofs.Number.Whole
import Mathlib.Data.Int.ModEq

/-!
# Words of 32 bits

A number is wrapped to a word by the remainder of its part toward zero.  Every step of the wrapping
is exact, so a word is the residue of the whole number modulo `2 ^ 32`, however great it is.
-/

namespace Guest

namespace Number

variable {x y : Number} {i : Int} {n : Nat}

/-- The remainder that is not negative is the one of the whole numbers. -/
theorem IsExactly.remEuclid (h : x.IsExactly i) (h' : y.IsExactly n) (hpos : 0 < n)
    (hn : n ≤ 2 ^ 53) : (x.remEuclid y).IsExactly (i % n) := by
  have hrem := h.rem h' hpos hn
  have hmod : i.tmod n = i % n - if 0 ≤ i ∨ (n : Int) ∣ i then 0 else (n : Int).natAbs :=
    Int.tmod_eq_emod
  have hnonneg : 0 ≤ i % n := Int.emod_nonneg i (by omega)
  have hless : i % n < n := Int.emod_lt_of_pos i (by omega)
  rw [Number.remEuclid]
  split
  · next hneg =>
      have hbelow : i.tmod n < 0 := (hrem.less_iff isExactly_zero).mp hneg
      have hsum : i.tmod n + ((n : Int).natAbs : Nat) = i % n := by
        split at hmod <;> omega
      rw [← hsum]
      exact hrem.add h'.abs (by omega)
  · next hneg =>
      have habove : ¬i.tmod n < 0 := fun hbelow => hneg ((hrem.less_iff isExactly_zero).mpr hbelow)
      have hsame : i.tmod n = i % n := by
        split at hmod <;> omega
      rwa [hsame] at hrem

theorem isExactly_wordCount : wordCount.IsExactly (2 ^ 32 : Nat) := isExactly_ofNat (by decide)

theorem isExactly_halfWordCount : halfWordCount.IsExactly (2 ^ 31 : Nat) :=
  isExactly_ofNat (by decide)

theorem isExactly_wordRemainder (x : Number) :
    x.wordRemainder.IsExactly (x.truncated % (2 ^ 32 : Nat)) := by
  rw [wordRemainder]
  split
  · next hfinite =>
      exact (isExactly_trunc hfinite).remEuclid isExactly_wordCount (by decide) (by decide)
  · next hfinite =>
      rw [truncated_of_not_isFinite (by simpa using hfinite), Int.zero_emod]
      exact isExactly_zero

/-- The word with a sign is the residue from `-2 ^ 31` below `2 ^ 31`. -/
theorem toSigned_eq (x : Number) : x.toSigned = x.truncated.bmod (2 ^ 32) := by
  have hrem := isExactly_wordRemainder x
  have hnonneg : 0 ≤ x.truncated % (2 ^ 32 : Nat) := Int.emod_nonneg _ (by decide)
  have hless : x.truncated % (2 ^ 32 : Nat) < (2 ^ 32 : Nat) := Int.emod_lt_of_pos _ (by decide)
  have hleast : leastSigned = -2147483648 := rfl
  have hmost : mostSigned = 2147483647 := rfl
  rw [toSigned, Int.bmod_def]
  generalize x.truncated % (2 ^ 32 : Nat) = r at *
  split
  · next hhigh =>
      have hge : ((2 ^ 31 : Nat) : Int) ≤ r := (isExactly_halfWordCount.atMost_iff hrem).mp hhigh
      have hdiff := hrem.sub isExactly_wordCount (by omega)
      rw [hdiff.toIntClamped_eq (by omega) (by omega), if_neg (by omega)]
  · next hhigh =>
      have hlt : ¬((2 ^ 31 : Nat) : Int) ≤ r := fun hge =>
        hhigh ((isExactly_halfWordCount.atMost_iff hrem).mpr hge)
      rw [hrem.toIntClamped_eq (by omega) (by omega), if_pos (by omega)]

/-- The word without a sign is the residue from `0` below `2 ^ 32`. -/
theorem toUnsigned_eq (x : Number) : x.toUnsigned = (x.truncated % (2 ^ 32 : Nat)).toNat := by
  have hrem := isExactly_wordRemainder x
  have hnonneg : 0 ≤ x.truncated % (2 ^ 32 : Nat) := Int.emod_nonneg _ (by decide)
  have hless : x.truncated % (2 ^ 32 : Nat) < (2 ^ 32 : Nat) := Int.emod_lt_of_pos _ (by decide)
  rw [toUnsigned]
  generalize x.truncated % (2 ^ 32 : Nat) = r at *
  obtain ⟨n, rfl⟩ := Int.eq_ofNat_of_zero_le hnonneg
  rw [hrem.toNatClamped_eq, Int.toNat_natCast]
  exact Nat.min_eq_left (by omega)

theorem toSigned_range (x : Number) : -2 ^ 31 ≤ x.toSigned ∧ x.toSigned < 2 ^ 31 := by
  rw [toSigned_eq]
  exact ⟨Int.le_bmod (by decide), Int.bmod_lt (by decide)⟩

theorem toUnsigned_lt (x : Number) : x.toUnsigned < 2 ^ 32 := by
  have hless : x.truncated % (2 ^ 32 : Nat) < (2 ^ 32 : Nat) := Int.emod_lt_of_pos _ (by decide)
  rw [toUnsigned_eq]
  omega

theorem toSigned_modEq (x : Number) : x.toSigned ≡ x.truncated [ZMOD 2 ^ 32] := by
  rw [toSigned_eq]
  exact Int.bmod_emod

theorem toUnsigned_modEq (x : Number) : x.toUnsigned ≡ x.truncated [ZMOD 2 ^ 32] := by
  rw [toUnsigned_eq, Int.toNat_of_nonneg (Int.emod_nonneg _ (by decide))]
  exact Int.mod_modEq _ _

/-- The word of a number is the residue of its part toward zero. -/
theorem toWord_eq (x : Number) : x.toWord = BitVec.ofInt 32 x.truncated := by
  apply BitVec.eq_of_toInt_eq
  rw [toWord, toSigned_eq, BitVec.toInt_ofInt, BitVec.toInt_ofInt, Int.bmod_bmod]

/-- The word without a sign has the same bits. -/
theorem ofNat_toUnsigned (x : Number) :
    BitVec.ofNat 32 x.toUnsigned = BitVec.ofInt 32 x.truncated := by
  apply BitVec.eq_of_toNat_eq
  rw [BitVec.toNat_ofNat, BitVec.toNat_ofInt, toUnsigned_eq, Nat.mod_eq_of_lt]
  exact toUnsigned_eq x ▸ toUnsigned_lt x

/-- Numbers with congruent parts toward zero have the same word. -/
theorem ofInt_truncated_congr (h : x.truncated ≡ y.truncated [ZMOD 2 ^ 32]) :
    BitVec.ofInt 32 x.truncated = BitVec.ofInt 32 y.truncated := by
  apply BitVec.eq_of_toNat_eq
  rw [BitVec.toNat_ofInt, BitVec.toNat_ofInt]
  exact congrArg Int.toNat h

end Number

end Guest
