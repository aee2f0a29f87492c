import Guest.Proofs.Number.Places
import Guest.Proofs.Number.WholeText
import Guest.Proofs.Token.Literals

/-!
# Texts with a count of significant digits

A number is rounded once for its exponent and, where its text is positional, once more at the place
that the exponent leaves for the last digit.  Both roundings give the same decimal: if the first one
is carried into a new leading digit, the place of the last digit moves up by one, and there as well
the carried decimal is the nearest one.  The text shows this decimal digit by digit.
-/

namespace Guest

namespace Number

variable {q r r' : ℚ} {place : ℤ} {m n units count places : ℕ} {d : Decimal} {negative : Bool}

/-! ## Rounding to significant digits -/

/-- `r` is `q` rounded to `count` significant digits, the first of which is the leading digit of
`q`. -/
def RoundsToDigits (count : ℕ) (q r : ℚ) : Prop :=
  ∃ (place : ℤ) (m : ℕ), (10 : ℚ) ^ (place + count - 1) ≤ q ∧ q < 10 ^ (place + count) ∧
    RoundsToPlace q place m ∧ r = m * 10 ^ place

/-- A number is rounded to significant digits in one way. -/
theorem roundsToDigits_unique (h : RoundsToDigits count q r) (h' : RoundsToDigits count q r') :
    r = r' := by
  obtain ⟨place, m, hlow, hhigh, hrounds, rfl⟩ := h
  obtain ⟨place', m', hlow', hhigh', hrounds', rfl⟩ := h'
  have hten : (1 : ℚ) < 10 := by norm_num
  have hle := (zpow_lt_zpow_iff_right₀ hten).mp (hlow.trans_lt hhigh')
  have hge := (zpow_lt_zpow_iff_right₀ hten).mp (hlow'.trans_lt hhigh)
  obtain rfl : place = place' := by omega
  rw [hrounds.unique hrounds']

/-! ## The rounded decimal -/

/-- The place of the last of `count` significant digits. -/
def lastPlace (units count : ℕ) : ℤ := leadingPlace units - ((count : ℤ) - 1)

theorem lastPlace_spec (h : Representable units) (hne : units ≠ 0) (count : ℕ) :
    (10 : ℚ) ^ (lastPlace units count + count - 1) ≤ units / unit ∧
      (units : ℚ) / unit < 10 ^ (lastPlace units count + count) := by
  have hlow : lastPlace units count + count - 1 = leadingPlace units := by
    rw [lastPlace]
    omega
  have hhigh : lastPlace units count + count = leadingPlace units + 1 := by omega
  rw [hlow, hhigh]
  exact leadingPlace_spec h hne

/-- At the place of the last digit the number has `count` digits, unless it is carried. -/
theorem decimalNear_lastPlace (h : Representable units) (hne : units ≠ 0) (hcount : 0 < count) :
    10 ^ (count - 1) ≤ (decimalNear units (lastPlace units count)).significand ∧
      (decimalNear units (lastPlace units count)).significand ≤ 10 ^ count := by
  obtain ⟨hlow, hhigh⟩ := lastPlace_spec h hne count
  have hrounds := roundsToPlace_decimalNear units (lastPlace units count)
  have hfirst : ((count - 1 : ℕ) : ℤ) + lastPlace units count =
      lastPlace units count + count - 1 := by
    omega
  constructor
  · apply hrounds.le_of_mul_le
    rwa [Decimal.ten_pow_mul_zpow, hfirst]
  · apply hrounds.le_of_le_mul
    rw [Decimal.ten_pow_mul_zpow, add_comm]
    exact hhigh.le

theorem rounded_cases (h : Representable units) (hne : units ≠ 0) (hcount : 0 < count) :
    (decimalNear units (lastPlace units count)).significand < 10 ^ count ∧
        rounded units count = decimalNear units (lastPlace units count) ∨
      (decimalNear units (lastPlace units count)).significand = 10 * 10 ^ (count - 1) ∧
        rounded units count = ⟨10 ^ (count - 1), lastPlace units count + 1⟩ := by
  by_cases hless : (decimalNear units (lastPlace units count)).significand < 10 ^ count
  · exact .inl ⟨hless, if_pos hless⟩
  · have hmost := (decimalNear_lastPlace h hne hcount).2
    have hpower : 10 * 10 ^ (count - 1) = 10 ^ count := mul_pow_sub_one (Nat.ne_of_gt hcount) 10
    exact .inr ⟨by omega, if_neg hless⟩

/-- A multiple of ten is the nearest one at the next place as well. -/
theorem RoundsToPlace.eq_of_carry (h : RoundsToPlace q place (10 * n)) (hq : 0 ≤ q)
    (h' : RoundsToPlace q (place + 1) m) : m = n := by
  apply h'.eq_of_abs_sub_lt
  have hpos := ten_zpow_pos place
  have hclose := h.abs_sub_le hq
  have hproduct : (n : ℚ) * 10 ^ (place + 1) = (10 * n : ℕ) * 10 ^ place := by
    rw [ten_zpow_succ]
    push_cast
    ring
  rw [hproduct, ten_zpow_succ]
  linarith

/-- Rounding anew at the place of the last digit changes nothing. -/
theorem decimalNear_rounded (h : Representable units) (hne : units ≠ 0) (hcount : 0 < count) :
    decimalNear units (rounded units count).exponent = rounded units count := by
  rcases rounded_cases h hne hcount with ⟨-, hrounded⟩ | ⟨hcarry, hrounded⟩
  · rw [hrounded]
    rfl
  · have hnear := roundsToPlace_decimalNear units (lastPlace units count)
    rw [hcarry] at hnear
    have hnext := roundsToPlace_decimalNear units (lastPlace units count + 1)
    have hmagnitude : (0 : ℚ) ≤ units / unit :=
      div_nonneg (Nat.cast_nonneg units) unit_cast_pos.le
    rw [hrounded, ← hnear.eq_of_carry hmagnitude hnext, decimalNear]

theorem significand_rounded (h : Representable units) (hne : units ≠ 0) (hcount : 0 < count) :
    10 ^ (count - 1) ≤ (rounded units count).significand ∧
      (rounded units count).significand < 10 ^ count := by
  rcases rounded_cases h hne hcount with ⟨hless, hrounded⟩ | ⟨-, hrounded⟩
  · rw [hrounded]
    exact ⟨(decimalNear_lastPlace h hne hcount).1, hless⟩
  · rw [hrounded]
    exact ⟨Nat.le_refl _, Nat.pow_lt_pow_right (by decide) (Nat.sub_lt hcount (by decide))⟩

theorem length_digits_rounded (h : Representable units) (hne : units ≠ 0) (hcount : 0 < count) :
    (rounded units count).digits.length = count := by
  obtain ⟨hlow, hhigh⟩ := significand_rounded h hne hcount
  have hmost : (rounded units count).digits.length ≤ count := length_decimal_le hhigh hcount
  have hleast : count - 1 < (rounded units count).digits.length :=
    (Nat.pow_lt_pow_iff_right (by decide)).mp (hlow.trans_lt Numeral.lt_pow_length_decimal)
  omega

theorem exact_rounded (h : Representable units) (hne : units ≠ 0) (hcount : 0 < count) :
    (rounded units count).exact = (decimalNear units (lastPlace units count)).exact := by
  rcases rounded_cases h hne hcount with ⟨-, hrounded⟩ | ⟨hcarry, hrounded⟩
  · rw [hrounded]
  · rw [hrounded, Decimal.exact, Decimal.exact, hcarry, decimalNear, ten_zpow_succ]
    push_cast
    ring

theorem roundsToDigits_rounded (h : Representable units) (hne : units ≠ 0) (hcount : 0 < count) :
    RoundsToDigits count (units / unit) (rounded units count).exact := by
  obtain ⟨hlow, hhigh⟩ := lastPlace_spec h hne count
  exact ⟨lastPlace units count, _, hlow, hhigh,
    roundsToPlace_decimalNear units (lastPlace units count), exact_rounded h hne hcount⟩

/-! ## The digits of texts -/

/-- The significant digits of a literal: all digits but the zeros in front. -/
def Literal.significantDigits (l : Literal) : List Char :=
  (l.whole ++ l.fraction).dropWhile (· == '0')

theorem dropWhile_zeros_append (hm : 0 < m) :
    (zeros count ++ Numeral.decimal m).dropWhile (· == '0') = Numeral.decimal m := by
  refine Lexeme.dropWhile_append_of_starts (fun c hc => ?_) fun c hc => ?_
  · exact beq_iff_eq.mpr (List.eq_of_mem_replicate hc)
  · refine beq_false_of_ne ?_
    rintro rfl
    exact Numeral.head?_decimal hm hc

theorem exists_decimalText_exponential (hd : 0 < d.significand) :
    ∃ l, DecimalText (exponentialText d) l ∧ l.significantDigits = d.digits ∧
      l.decimal.exact = d.exact ∧ l.exponent ≠ [] := by
  obtain ⟨l, hl, hdigits, hexponent⟩ := @exists_shows_exponential d
  obtain ⟨sign, htext, hdecimal⟩ := Lexeme.exists_decimalText_parts hl.proper
  rw [hl.text_eq] at htext
  refine ⟨_, htext, ?_, ?_, hexponent⟩
  · rw [Literal.significantDigits, hdigits]
    exact @dropWhile_zeros_append d.significand 0 hd
  · rw [hdecimal, hl.exact_eq]

theorem exists_decimalText_positional (hm : 0 < m) :
    ∃ l, DecimalText (positionalText m places) l ∧ l.significantDigits = Numeral.decimal m ∧
      l.decimal = ⟨m, -(places : ℤ)⟩ ∧ l.exponent = [] := by
  generalize hpadded : zeros (places + 1 - (Numeral.decimal m).length) ++ Numeral.decimal m = padded
  have hlength : places < padded.length := by
    rw [← hpadded, List.length_append, zeros, List.length_replicate]
    omega
  have hdigits : Numeral.AllDigits padded := by
    rw [← hpadded]
    exact Numeral.allDigits_append (Numeral.allDigits_zeros _) Numeral.allDigits_decimal
  have hwhole : padded.take (padded.length - places) ≠ [] := by
    rw [← List.length_pos_iff, List.length_take]
    omega
  have hfraction : (padded.drop (padded.length - places)).length = places := by
    rw [List.length_drop]
    omega
  have htext : positionalText m places = padded.take (padded.length - places) ++
      (Literal.fractionText (padded.drop (padded.length - places)) ++ []) := by
    rw [positionalText, List.append_nil]
    simp only [hpadded]
    cases padded.drop (padded.length - places) with
    | nil => exact (List.append_nil _).symm
    | cons c digits => rfl
  refine ⟨⟨padded.take (padded.length - places), padded.drop (padded.length - places), false, []⟩,
    ?_, ?_, ?_, rfl⟩
  · rw [htext]
    exact .parts (Numeral.allDigits_take hdigits _)
      (Lexeme.fractionText_standard (Numeral.allDigits_drop hdigits _)) (.inl hwhole) .none
  · rw [Literal.significantDigits, List.take_append_drop, ← hpadded, dropWhile_zeros_append hm]
  · rw [Literal.decimal_of_no_exponent, List.take_append_drop, hfraction, ← hpadded,
      Numeral.value_zeros_append, Numeral.value_decimal]

/-- Both layouts show the digits of a decimal; the positional one needs places behind the point. -/
theorem exists_decimalText_layout {p : Prop} [Decidable p] (hd : 0 < d.significand)
    (hplace : ¬p → d.exponent ≤ 0) :
    ∃ l, DecimalText
        (if p then exponentialText d else positionalText d.significand (-d.exponent).toNat) l ∧
      l.significantDigits = d.digits ∧ l.decimal.exact = d.exact ∧ (l.exponent ≠ [] ↔ p) := by
  split
  · next hp =>
      obtain ⟨l, htext, hdigits, hexact, hexponent⟩ := exists_decimalText_exponential hd
      exact ⟨l, htext, hdigits, hexact, iff_of_true hexponent hp⟩
  · next hp =>
      have hsign := hplace hp
      have hplaces : -(((-d.exponent).toNat : ℕ) : ℤ) = d.exponent := by omega
      obtain ⟨l, htext, hdigits, hdecimal, hexponent⟩ :=
        @exists_decimalText_positional d.significand (-d.exponent).toNat hd
      rw [hplaces] at hdecimal
      exact ⟨l, htext, hdigits, congrArg Decimal.exact hdecimal,
        iff_of_false (not_not.mpr hexponent) hp⟩

/-! ## The text -/

theorem pointPlace_rounded (h : Representable units) (hne : units ≠ 0) (hcount : 0 < count) :
    (rounded units count).pointPlace = count + (rounded units count).exponent := by
  rw [Decimal.pointPlace, length_digits_rounded h hne hcount]

/-- Both layouts show the decimal that the first rounding gives. -/
theorem precision?_finite (h : Representable units) (hne : units ≠ 0) (hcount : 0 < count)
    (hmost : count ≤ 100) :
    (finite negative units h).precision? (some count) =
      some (signText negative
        (if (rounded units count).pointPlace - 1 < -6 ∨
            (count : ℤ) ≤ (rounded units count).pointPlace - 1
          then exponentialText (rounded units count)
          else positionalText (rounded units count).significand
            (-(rounded units count).exponent).toNat)) := by
  have hrange : ¬(count = 0 ∨ 100 < count) := by omega
  have hpoint := pointPlace_rounded h hne hcount
  rw [precision?, if_neg hrange, if_neg hne]
  dsimp only
  split
  · rfl
  · next hpositional =>
      -- The exponent is below the count, so the last place is not above the ones.
      have hplaces : (count : ℤ) - 1 - ((rounded units count).pointPlace - 1) =
          -(rounded units count).exponent := by omega
      have hlast : -(((-(rounded units count).exponent).toNat : ℕ) : ℤ) =
          (rounded units count).exponent := by omega
      rw [hplaces, hlast, decimalNear_rounded h hne hcount]

/-- The text with a count of significant digits has as many of them and shows the number rounded to
them.  It is exponential exactly where the exponent of the rounded number is below `-6` or not below
the count. -/
theorem precision_shows_rounded (h : Representable units) (hne : units ≠ 0) (hcount : 0 < count)
    (hmost : count ≤ 100) :
    ∃ (w : List Char) (l : Literal) (e : ℤ),
      (finite negative units h).precision? (some count) = some (signText negative w) ∧
        DecimalText w l ∧ l.significantDigits.length = count ∧
        (∀ r, RoundsToDigits count (units / unit) r ↔ r = l.decimal.exact) ∧
        (10 : ℚ) ^ e ≤ l.decimal.exact ∧ l.decimal.exact < 10 ^ (e + 1) ∧
        (l.exponent ≠ [] ↔ e < -6 ∨ (count : ℤ) ≤ e) := by
  have hsignificand : 0 < (rounded units count).significand :=
    Nat.lt_of_lt_of_le (Nat.pow_pos (by decide)) (significand_rounded h hne hcount).1
  have hpoint := pointPlace_rounded h hne hcount
  have hplace (hpositional : ¬((rounded units count).pointPlace - 1 < -6 ∨
      (count : ℤ) ≤ (rounded units count).pointPlace - 1)) :
      (rounded units count).exponent ≤ 0 := by
    omega
  obtain ⟨l, htext, hdigits, hexact, hexponent⟩ := exists_decimalText_layout hsignificand hplace
  refine ⟨_, l, _, precision?_finite h hne hcount hmost, htext, ?_, ?_, ?_, ?_, hexponent⟩
  · rw [hdigits, length_digits_rounded h hne hcount]
  · intro r
    rw [hexact]
    constructor
    · intro hr
      exact roundsToDigits_unique hr (roundsToDigits_rounded h hne hcount)
    · rintro rfl
      exact roundsToDigits_rounded h hne hcount
  · rw [hexact]
    exact Decimal.zpow_le_exact hsignificand
  · rw [hexact, sub_add_cancel]
    exact Decimal.exact_lt_zpow _

/-- With three digits `9.996` is carried into a new leading digit, and the last place moves up. -/
theorem precision_shows_rounded_carried :
    ∃ h : Representable (5627247734399435 * 2 ^ 1025),
      ofDecimal false 9996 (-3) = finite false _ h ∧
        (finite false _ h).precision? (some 3) = some "10.0".toList ∧
        ∃ (l : Literal) (e : ℤ), DecimalText "10.0".toList l ∧ l.significantDigits.length = 3 ∧
          (∀ r, RoundsToDigits 3 ((5627247734399435 * 2 ^ 1025 : ℕ) / unit) r ↔
            r = l.decimal.exact) ∧
          (10 : ℚ) ^ e ≤ l.decimal.exact ∧ l.decimal.exact < 10 ^ (e + 1) ∧
          (l.exponent ≠ [] ↔ e < -6 ∨ 3 ≤ e) := by
  have hunits : Representable (5627247734399435 * 2 ^ 1025) := by decide +kernel
  have htext : (finite false _ hunits).precision? (some 3) = some "10.0".toList := by
    decide +kernel +revert
  obtain ⟨w, l, e, hw, hdecimal, hrest⟩ :=
    @precision_shows_rounded _ 3 false hunits (by decide +kernel) (by decide) (by decide)
  rw [htext] at hw
  obtain rfl : "10.0".toList = w := Option.some.inj hw
  exact ⟨hunits, by decide +kernel +revert, htext, l, e, hdecimal, hrest⟩

end Number
end Guest
