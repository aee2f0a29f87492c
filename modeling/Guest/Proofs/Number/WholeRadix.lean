import Guest.Proofs.Number.Conversion
import Guest.Proofs.Number.Nearest
import Guest.Proofs.Number.WholeText
import Guest.Proofs.Token.Radix

/-!
# Whole numbers in a radix

The digits of a number in a radix are found by division, and each quotient is rounded and then taken
toward zero.  Below `2 ^ 53` the rounding does not reach the next whole number, since a quotient
that is not whole keeps a greater distance from it than half of the space between the numbers there.
So the digits are those of the numeral, and reading them back, which rounds at each digit as well,
gives the number again.
-/

namespace Guest

/-! ## Numerals -/

namespace Numeral

variable {radix fuel n : Nat} {digits : List Char}

/-- A list of digits below the radix, in lower case; a zero in front stands alone. -/
structure IsNumeral (radix : Nat) (digits : List Char) : Prop where
  nonempty : digits ≠ []
  digit : ∀ c ∈ digits, ∃ k < radix, c = digit k
  lead : digits.head? = some '0' → digits = ['0']

theorem digitsOnto_zero (hpos : 0 < radix) : digitsOnto radix (fuel + 1) 0 [] = ['0'] := by
  rw [digitsOnto, if_pos hpos]
  rfl

theorem isNumeral_digitsOnto (hlow : 2 ≤ radix) (hhigh : radix ≤ 36) (hn : n < radix ^ (fuel + 1)) :
    IsNumeral radix (digitsOnto radix (fuel + 1) n []) := by
  have hpos : 0 < radix := Nat.lt_of_lt_of_le (by decide) hlow
  refine ⟨?_, ?_, fun hhead => ?_⟩
  · rw [digitsOnto]
    split
    · exact List.cons_ne_nil _ _
    · exact digitsOnto_ne_nil (List.cons_ne_nil _ _)
  · exact forall_mem_digitsOnto hpos (fun k hk => ⟨k, hk, rfl⟩) (List.forall_mem_nil _)
  · rcases Nat.eq_zero_or_pos n with rfl | hn'
    · exact digitsOnto_zero hpos
    · exact absurd hhead (head?_digitsOnto hhigh hn' hn)

end Numeral

namespace Number

variable {x y base : Number} {i : Int} {m n r radix fuel num den : Nat} {negative : Bool}
  {digits tail : List Char}

/-! ## Quotients -/

theorem roundedUnits_mul (hden : 0 < den) (h : Representable n) : roundedUnits (n * den) den = n :=
  roundedUnits_of_ofRatio (@ofRatio_exact false den n hden h)

/-- A ratio is not rounded up by more than half of the distance between its neighbours. -/
theorem two_mul_roundedUnits_le (hden : 0 < den) :
    2 * (roundedUnits num den * den) ≤ 2 * num + den * spacing (num / den) := by
  obtain ⟨count, excess, hnum, -, -, hchoice⟩ := @roundedUnits_cases num den hden
  generalize spacing (num / den) = step at *
  have hnext : (count + 1) * step * den = count * step * den + den * step := by ring
  rcases hchoice with ⟨hunits, -⟩ | ⟨hunits, hclose⟩
  · rw [hunits]
    omega
  · rw [hunits, hnext]
    omega

/-- Around the quotient of a whole number of 53 bits the numbers are less than two parts of the
divisor apart. -/
theorem mul_spacing_lt (hm : m < 2 ^ 53) (hr : r ≤ 2 ^ 53) :
    r * spacing (m * unit / r) < 2 * unit := by
  rcases Nat.lt_or_ge (m * unit / r).log2 52 with hlog | hlog
  · have hone : spacing (m * unit / r) = 1 := by
      rw [spacing, Nat.sub_eq_zero_of_le (Nat.le_of_lt hlog), Nat.pow_zero]
    have hunit : 2 ^ 53 ≤ unit := by
      unfold unit
      exact Nat.pow_le_pow_right (by decide) (by decide)
    rw [hone, Nat.mul_one]
    omega
  · have hne : m * unit / r ≠ 0 := by
      intro hzero
      rw [hzero] at hlog
      exact absurd hlog (by decide)
    have hspacing : spacing (m * unit / r) * 2 ^ 52 ≤ m * unit / r := by
      rw [spacing, ← Nat.pow_add, Nat.sub_add_cancel hlog]
      exact Nat.log2_self_le hne
    have hscaled : r * spacing (m * unit / r) * 2 ^ 52 < 2 * unit * 2 ^ 52 := by
      calc r * spacing (m * unit / r) * 2 ^ 52
          = r * (spacing (m * unit / r) * 2 ^ 52) := Nat.mul_assoc _ _ _
        _ ≤ r * (m * unit / r) := Nat.mul_le_mul_left r hspacing
        _ ≤ m * unit := Nat.mul_div_le _ _
        _ < 2 ^ 53 * unit := Nat.mul_lt_mul_of_pos_right hm unit_pos
        _ = 2 * unit * 2 ^ 52 := by ring
    exact Nat.lt_of_mul_lt_mul_right hscaled

/-- A rounded quotient has the whole part of the exact one. -/
theorem wholePart_roundedUnits (hm : m < 2 ^ 53) (hpos : 0 < r) (hr : r ≤ 2 ^ 53) :
    wholePart (roundedUnits (m * unit) r) = m / r := by
  have hquotient : m / r ≤ 2 ^ 53 := Nat.le_trans (Nat.div_le_self m r) (Nat.le_of_lt hm)
  have hlow : m / r * unit ≤ roundedUnits (m * unit) r := by
    rw [← roundedUnits_mul hpos (representable_mul_unit hquotient)]
    apply roundedUnits_mono
    rw [Nat.mul_right_comm]
    exact Nat.mul_le_mul_right unit (Nat.div_mul_le_self m r)
  have hhigh : roundedUnits (m * unit) r < (m / r + 1) * unit := by
    have hround := @two_mul_roundedUnits_le (m * unit) r hpos
    have hspacing := mul_spacing_lt hm hr
    have hnext : (m + 1) * unit ≤ (m / r + 1) * unit * r := by
      rw [Nat.mul_right_comm]
      refine Nat.mul_le_mul_right unit ?_
      rw [Nat.mul_comm]
      exact Nat.lt_mul_div_succ m hpos
    rw [Nat.succ_mul] at hnext
    refine Nat.lt_of_mul_lt_mul_right (a := r) ?_
    omega
  exact Nat.div_eq_of_lt_le hlow hhigh

/-- The quotient of whole numbers, rounded and then taken toward zero, is the whole one. -/
theorem IsExactly.trunc_div (h : x.IsExactly m) (h' : y.IsExactly r) (hm : m < 2 ^ 53)
    (hpos : 0 < r) (hr : r ≤ 2 ^ 53) : (x / y).trunc.IsExactly (m / r : Nat) := by
  obtain ⟨a, hunits, rfl, hsign⟩ := h.exists_eq
  obtain ⟨b, hunits', rfl, hsign'⟩ := h'.exists_eq
  have hplain : b = false := by
    cases b with
    | false => rfl
    | true =>
        rw [if_pos rfl, Int.natAbs_natCast] at hsign'
        omega
  have hzero : a = true → m = 0 := by
    rintro rfl
    rw [if_pos rfl, Int.natAbs_natCast] at hsign
    omega
  have hdivisor : (r : Int).natAbs * unit ≠ 0 := by
    rw [Int.natAbs_natCast]
    exact Nat.ne_of_gt (Nat.mul_pos hpos unit_pos)
  have hratio : m * unit * unit * r = m * unit * (r * unit) := by ring
  have hlarge : 4 * (m * unit / r) < rangeEnd := by
    have hfour : 4 * m < 2 ^ 55 := by omega
    have hrange : 4 * (m * unit / 1) < rangeEnd :=
      lt_rangeEnd (Nat.lt_trans hfour (Nat.pow_lt_pow_right (by decide) (by decide)))
    have hle : m * unit / r ≤ m * unit / 1 := Nat.div_le_div_left hpos (by decide)
    omega
  obtain ⟨units, hunits'', hfinite⟩ := @exists_ofRatio_eq_finite _ _ a hlarge
  have hdiv : finite a ((m : Int).natAbs * unit) hunits /
      finite b ((r : Int).natAbs * unit) hunits' = finite a units hunits'' := by
    change Number.div _ _ = _
    rw [Number.div, if_neg hdivisor, Int.natAbs_natCast, Int.natAbs_natCast, hplain,
      Bool.bne_false, ofRatio_congr (Nat.mul_pos hpos unit_pos) hpos hratio, hfinite]
  have htrunc : (finite a units hunits'').truncated = (m / r : Nat) := by
    rw [truncated_finite, ← roundedUnits_of_ofRatio hfinite, wholePart_roundedUnits hm hpos hr]
    cases a with
    | false => rfl
    | true =>
        rw [hzero rfl, Nat.zero_div]
        rfl
  rw [hdiv, ← htrunc]
  exact isExactly_trunc rfl

/-! ## The digits of a whole number -/

theorem IsExactly.toInt_eq (h : x.IsExactly i) : x.toInt = i :=
  (toInt_eq_truncated x).trans h.truncated_eq

theorem isExactly_one : one.IsExactly (1 : Nat) := isExactly_ofNat (by decide)

/-- By rounded division the digits of a whole number are found like those of its numeral. -/
theorem wholeDigitsOnto_eq (hbase : base.IsExactly radix) (hlow : 2 ≤ radix) (hhigh : radix ≤ 36)
    (h : x.IsExactly m) (hm : m < 2 ^ 53) :
    wholeDigitsOnto base fuel x tail = Numeral.digitsOnto radix fuel m tail := by
  have hpos : 0 < radix := Nat.lt_of_lt_of_le (by decide) hlow
  have hmost : radix ≤ 2 ^ 53 := Nat.le_trans hhigh (by decide)
  induction fuel generalizing x m tail with
  | zero => rfl
  | succ fuel ih =>
      have hdigit : (x % base).toInt.toNat = m % radix := by
        rw [(h.rem hbase hpos hmost).toInt_eq, ← Int.ofNat_tmod, Int.toNat_natCast]
      have hrest := h.trunc_div hbase hm hpos hmost
      have hless : m / radix < 2 ^ 53 := Nat.lt_of_le_of_lt (Nat.div_le_self m radix) hm
      rw [wholeDigitsOnto, Numeral.digitsOnto, hdigit]
      by_cases hlast : m < radix
      · have hone : (x / base).trunc.less one = true := by
          rw [hrest.less_iff isExactly_one, Nat.div_eq_of_lt hlast]
          decide
        rw [if_pos hone, if_pos hlast, Nat.mod_eq_of_lt hlast]
      · have hone : ¬(x / base).trunc.less one = true := by
          rw [hrest.less_iff isExactly_one, Int.not_lt, Int.ofNat_le]
          exact Nat.div_pos (Nat.not_lt.mp hlast) hpos
        rw [if_neg hone, if_neg hlast, ih hrest hless]

theorem IsExactly.textInRadix?_eq (h : x.IsExactly i) (hi : i.natAbs < 2 ^ 53) (hlow : 2 ≤ radix)
    (hhigh : radix ≤ 36) (hten : radix ≠ 10) :
    x.textInRadix? radix =
      some (signText (decide (i < 0)) (Numeral.digitsOnto radix 1100 i.natAbs [])) := by
  have hwhole : x.abs.trunc.IsExactly i.natAbs := by
    have htrunc := isExactly_trunc h.abs.isFinite
    rwa [h.abs.truncated_eq] at htrunc
  have hfraction : ¬zero.less (x.abs - x.abs.trunc) = true := by
    rw [isExactly_zero.less_iff (h.abs.sub hwhole (by simp))]
    omega
  have hsign : x.less zero = decide (i < 0) := by
    rw [Bool.eq_iff_iff, h.less_iff isExactly_zero, decide_eq_true_iff]
  have hbase : (ofNat radix).IsExactly radix := isExactly_ofNat (Nat.le_trans hhigh (by decide))
  have hrange : ¬(radix < 2 ∨ 36 < radix) := by omega
  have hplain : ¬(radix = 10 || !x.isFinite) = true := by simp [hten, h.isFinite]
  rw [textInRadix?, if_neg hrange, if_neg hplain]
  dsimp only
  rw [if_neg hfraction, hsign, wholeDigitsOnto_eq hbase hlow hhigh hwhole hi]

/-- In the radix ten the canonical text is written. -/
theorem IsExactly.textInRadix?_ten (h : x.IsExactly i) (hi : i.natAbs < 2 ^ 53) :
    x.textInRadix? 10 = some (signText (decide (i < 0)) (Numeral.decimal i.natAbs)) := by
  have habs := h.abs.text_eq hi
  obtain ⟨negative, hunits, rfl, hsign⟩ := h.exists_eq
  have hminus : negative = true ∧ i.natAbs * unit ≠ 0 ↔ i < 0 := by
    rw [ne_eq, Nat.mul_eq_zero, or_iff_left (Nat.ne_of_gt unit_pos)]
    cases negative with
    | false =>
        rw [if_neg Bool.false_ne_true] at hsign
        exact iff_of_false (fun h => Bool.false_ne_true h.1) (by omega)
    | true =>
        rw [if_pos rfl] at hsign
        rw [eq_self_iff_true, true_and]
        omega
  have htext : (finite negative (i.natAbs * unit) hunits).textInRadix? 10 =
      some (finite negative (i.natAbs * unit) hunits).text := rfl
  change (finite false (i.natAbs * unit) hunits).text = _ at habs
  rw [htext, text_finite, habs, signText]
  simp only [hminus, decide_eq_true_iff]

/-! ## Reading the digits back -/

theorem appendDigit_exact {digit : Nat} (hradix : radix ≤ 2 ^ 53) (hpos : 0 < radix)
    (hsum : n * radix + digit ≤ 2 ^ 53) :
    appendDigit radix (ofNat n) digit = ofNat (n * radix + digit) := by
  have hproduct : n * radix ≤ 2 ^ 53 := Nat.le_trans (Nat.le_add_right _ _) hsum
  have hn : n ≤ 2 ^ 53 := Nat.le_trans (Nat.le_mul_of_pos_right n hpos) hproduct
  have hmul : ofNat n * ofNat radix = ofNat (n * radix) :=
    mul_ofUnits (representable_mul_unit hn) (representable_mul_unit hradix)
  rw [appendDigit, hmul, ofNat_add_ofNat (nearestWhole_of_le hproduct)
    (Nat.le_trans (Nat.le_add_left _ _) hsum)]

/-- Digits of a whole number of 53 bits are read exactly, one by one. -/
theorem foldlM_appendDigit_exact (hradix : radix ≤ 2 ^ 53) (hpos : 0 < radix)
    (hdigits : AllDigitsOf radix digits)
    (hvalue : n * radix ^ digits.length + Numeral.value radix digits ≤ 2 ^ 53) :
    digits.foldlM (fun x c => (Numeral.digitValue? radix c).map (appendDigit radix x)) (ofNat n) =
      some (ofNat (n * radix ^ digits.length + Numeral.value radix digits)) := by
  induction digits generalizing n with
  | nil => simp [Numeral.value]
  | cons c digits ih =>
      obtain ⟨hc, hmore⟩ := List.forall_mem_cons.mp hdigits
      obtain ⟨digit, hdigit⟩ := Option.isSome_iff_exists.mp hc
      have hsplit : n * radix ^ (c :: digits).length + Numeral.value radix (c :: digits) =
          (n * radix + digit) * radix ^ digits.length + Numeral.value radix digits := by
        rw [Numeral.value_cons, hdigit, Option.getD_some, List.length_cons, Nat.pow_succ]
        ring
      rw [hsplit] at hvalue ⊢
      have hsum : n * radix + digit ≤ 2 ^ 53 :=
        Nat.le_trans (Nat.le_mul_of_pos_right _ (Nat.pow_pos hpos))
          (Nat.le_trans (Nat.le_add_right _ _) hvalue)
      rw [List.foldlM_cons, hdigit, Option.map_some, appendDigit_exact hradix hpos hsum]
      exact ih hmore hvalue

theorem ofDigits?_exact (hradix : radix ≤ 2 ^ 53) (hpos : 0 < radix)
    (hdigits : AllDigitsOf radix digits) (hvalue : Numeral.value radix digits ≤ 2 ^ 53) :
    ofDigits? radix digits = some (ofNat (Numeral.value radix digits)) := by
  have hread := foldlM_appendDigit_exact (n := 0) hradix hpos hdigits (by simpa using hvalue)
  rw [Nat.zero_mul, Nat.zero_add] at hread
  rw [ofDigits?, ← ofNat_zero]
  exact hread

theorem spanSign_signText (hdigits : ∀ c ∈ digits, Lexeme.isNamePart c = true) :
    spanSign (signText negative digits) = (negative, digits) := by
  cases negative with
  | true => rfl
  | false =>
      change spanSign digits = (false, digits)
      unfold spanSign
      split
      · exact absurd (hdigits '+' List.mem_cons_self) (by decide +kernel)
      · exact absurd (hdigits '-' List.mem_cons_self) (by decide +kernel)
      · rfl

theorem afterHexMark?_of_allDigitsOf (hdigits : AllDigitsOf 16 digits) :
    afterHexMark? digits = none := by
  unfold afterHexMark?
  split
  · exact absurd (hdigits 'x' (List.mem_cons_of_mem _ List.mem_cons_self)) (by decide)
  · exact absurd (hdigits 'X' (List.mem_cons_of_mem _ List.mem_cons_self)) (by decide)
  · rfl

/-- The digits that the reader takes after the sign, where they are not introduced by a mark. -/
theorem wholeOfFront_eq {s unsigned : List Char} (hlow : 2 ≤ radix) (hhigh : radix ≤ 36)
    (hspan : spanSign (Text.trimBy isPadding s) = (negative, unsigned))
    (hmark : radix = 16 → afterHexMark? unsigned = none)
    (hne : leadingDigits radix unsigned ≠ [])
    (hread : ofDigits? radix (leadingDigits radix unsigned) = some x) :
    wholeOfFront s (some radix) = if negative then x.neg else x := by
  have hrange : ¬(radix < 2 ∨ 36 < radix) := by omega
  have hbody : (if radix = 16 then (afterHexMark? unsigned).getD unsigned else unsigned) =
      unsigned := by
    split
    · next hsixteen => rw [hmark hsixteen, Option.getD_none]
    · rfl
  obtain ⟨k, rfl⟩ : ∃ k, radix = k + 1 := ⟨radix - 1, by omega⟩
  rw [wholeOfFront, hspan]
  simp only [Option.getD_some, if_neg hrange, hbody, hread, List.isEmpty_eq_false_iff.mpr hne,
    Bool.false_eq_true, if_false]

/-- Digits are read back: they hold no sign, no padding and no mark of a radix. -/
theorem wholeOfFront_signText (hlow : 2 ≤ radix) (hhigh : radix ≤ 36) (hne : digits ≠ [])
    (hdigits : AllDigitsOf radix digits) (hvalue : Numeral.value radix digits ≤ 2 ^ 53) :
    wholeOfFront (signText negative digits) (some radix) =
      if negative then (ofNat (Numeral.value radix digits)).neg
      else ofNat (Numeral.value radix digits) := by
  have hpart : ∀ c ∈ digits, Lexeme.isNamePart c = true := fun c hc =>
    Lexeme.isNamePart_of_digitValue? (hdigits c hc)
  have hpadding : ∀ c ∈ signText negative digits, isPadding c = false := by
    have hplain : ∀ c ∈ digits, isPadding c = false := fun c hc =>
      not_isPadding_of_isNamePart (hpart c hc)
    cases negative with
    | false => exact hplain
    | true => exact List.forall_mem_cons.mpr ⟨by decide, hplain⟩
  have hspan : spanSign (Text.trimBy isPadding (signText negative digits)) =
      (negative, digits) := by
    rw [Text.trimBy_eq_self hpadding, spanSign_signText hpart]
  have hleading : leadingDigits radix digits = digits := by
    have hread := Lexeme.leadingDigits_append hdigits Lexeme.starts_nil
    rwa [List.append_nil] at hread
  have hpos : 0 < radix := Nat.lt_of_lt_of_le (by decide) hlow
  have hmost : radix ≤ 2 ^ 53 := Nat.le_trans hhigh (by decide)
  refine wholeOfFront_eq hlow hhigh hspan ?_ ?_ ?_
  · rintro rfl
    exact afterHexMark?_of_allDigitsOf hdigits
  · rwa [hleading]
  · rw [hleading]
    exact ofDigits?_exact hmost hpos hdigits hvalue

/-! ## The way there and back -/

theorem ofInt_eq_ofNat (hi : i.natAbs ≤ 2 ^ 53) :
    ofInt i = if decide (i < 0) then (ofNat i.natAbs).neg else ofNat i.natAbs := by
  rw [ofInt, ofNat, ofUnits_exact (representable_mul_unit hi),
    ofUnits_exact (representable_mul_unit hi)]
  cases decide (i < 0) with
  | false => rfl
  | true => rfl

/-- A whole number of 53 bits is written in every radix. -/
theorem IsExactly.exists_textInRadix?_eq (h : x.IsExactly i) (hi : i.natAbs < 2 ^ 53)
    (hlow : 2 ≤ radix) (hhigh : radix ≤ 36) :
    ∃ fuel, i.natAbs < radix ^ (fuel + 1) ∧ x.textInRadix? radix =
      some (signText (decide (i < 0)) (Numeral.digitsOnto radix (fuel + 1) i.natAbs [])) := by
  by_cases hten : radix = 10
  · subst hten
    exact ⟨i.natAbs.log2, Numeral.lt_ten_pow, h.textInRadix?_ten hi⟩
  · refine ⟨1099, ?_, h.textInRadix?_eq hi hlow hhigh hten⟩
    have hpower : 2 ^ 53 ≤ radix ^ 53 := Nat.pow_le_pow_left hlow 53
    have hmore : radix ^ 53 ≤ radix ^ (1099 + 1) := Nat.pow_le_pow_right (by omega) (by decide)
    exact Nat.lt_of_lt_of_le hi (Nat.le_trans hpower hmore)

/-- A whole number of 53 bits is written in a radix as its numeral, and reading it back in the same
radix gives the number. -/
theorem textInRadix_reads_back (h : x.IsExactly i) (hi : i.natAbs < 2 ^ 53) (hlow : 2 ≤ radix)
    (hhigh : radix ≤ 36) :
    ∃ digits, x.textInRadix? radix = some (signText (decide (i < 0)) digits) ∧
      Numeral.IsNumeral radix digits ∧ (i = 0 → digits = ['0']) ∧
      Numeral.value radix digits = i.natAbs ∧
      wholeOfFront (signText (decide (i < 0)) digits) (some radix) = ofInt i := by
  obtain ⟨fuel, hfuel, htext⟩ := h.exists_textInRadix?_eq hi hlow hhigh
  have hnumeral := Numeral.isNumeral_digitsOnto hlow hhigh hfuel
  have hvalue : Numeral.value radix (Numeral.digitsOnto radix (fuel + 1) i.natAbs []) =
      i.natAbs := by
    rw [Numeral.value_digitsOnto hhigh hfuel]
    simp [Numeral.value]
  have hdigits : AllDigitsOf radix (Numeral.digitsOnto radix (fuel + 1) i.natAbs []) := by
    intro c hc
    obtain ⟨k, hk, rfl⟩ := hnumeral.digit c hc
    rw [Numeral.digitValue?_digit hk hhigh]
    rfl
  refine ⟨_, htext, hnumeral, ?_, hvalue, ?_⟩
  · rintro rfl
    exact Numeral.digitsOnto_zero (Nat.lt_of_lt_of_le (by decide) hlow)
  · rw [wholeOfFront_signText hlow hhigh hnumeral.nonempty hdigits
      (hvalue.trans_le (Nat.le_of_lt hi)), hvalue]
    exact (ofInt_eq_ofNat (Nat.le_of_lt hi)).symm

/-- The least of these numbers, in the greatest radix. -/
theorem textInRadix_reads_back_least :
    ∃ digits, (ofInt (-(2 ^ 53 - 1))).textInRadix? 36 = some ('-' :: digits) ∧
      Numeral.IsNumeral 36 digits ∧ Numeral.value 36 digits = 2 ^ 53 - 1 ∧
      wholeOfFront ('-' :: digits) (some 36) = ofInt (-(2 ^ 53 - 1)) := by
  obtain ⟨digits, htext, hnumeral, -, hvalue, hread⟩ :=
    @textInRadix_reads_back _ _ 36 (isExactly_ofInt (i := -(2 ^ 53 - 1)) (by decide))
      (by decide) (by decide) (by decide)
  exact ⟨digits, htext, hnumeral, hvalue, hread⟩

end Number
end Guest
