import Guest.Proofs.Token.Decimals

/-!
# The number literals

The texts that are number literals are given by rules, apart from the scanner: digits with an
optional point and an optional exponent, or digits of a radix behind the mark of the radix.  The
scanner reads a literal in front of a text exactly if nothing that belongs to a number or to a word
follows it.
-/

namespace Guest

namespace Number

open Numeral (AllDigits)

/-- A list of digits of a radix. -/
def AllDigitsOf (radix : Nat) (digits : List Char) : Prop :=
  ∀ c ∈ digits, (Numeral.digitValue? radix c).isSome

instance (radix : Nat) (digits : List Char) : Decidable (AllDigitsOf radix digits) :=
  decidable_of_iff (digits.all fun c => (Numeral.digitValue? radix c).isSome) List.all_eq_true

/-- The marks that introduce the digits of a radix behind a zero. -/
inductive RadixMark (d : Dialect) : Char → Nat → Prop where
  | hexadecimal {mark : Char} :
      mark = 'x' ∨ mark = 'X' → RadixMark d mark 16
  | binary {mark : Char} :
      mark = 'b' ∨ mark = 'B' → d.isRich = true → RadixMark d mark 2

end Number

namespace Lexeme

open Numeral (AllDigits)
open Number (FractionText SignText ExponentText DecimalText AllDigitsOf RadixMark)

variable {d : Dialect} {s w tail whole fraction after : List Char} {c : Char} {t : Token}
  {n length : Nat} {x : Number} {l : Number.Literal}

/-! ## What the parts of the scanner read -/

/-- A number is read behind `w` exactly if what follows closes it. -/
theorem numberOf_append_eq_ok :
    numberOf (w ++ tail) w.length x = ⟨n, .ok t⟩ ↔
      w.length = n ∧ Closes tail ∧ t = .number x := by
  constructor
  · intro h
    unfold numberOf at h
    rw [List.drop_left] at h
    split at h
    · split at h
      · cases h
      · next hc =>
          cases h
          refine ⟨rfl, closes_cons.mpr ?_, rfl⟩
          simpa using hc
    · cases h
      exact ⟨rfl, closes_nil, rfl⟩
  · rintro ⟨rfl, htail, rfl⟩
    exact numberOf_append htail

theorem malformed_ne_ok : malformed s length ≠ ⟨n, .ok t⟩ := by
  intro h
  cases h

theorem exists_fractionText (s : List Char) :
    ∃ point, FractionText point (fractionPart s).1 ∧ s = point ++ (fractionPart s).2.2 ∧
      point.length = (fractionPart s).2.1 + (fractionPart s).1.length := by
  unfold fractionPart
  split
  · next rest =>
      refine ⟨_, .point (allDigits_spanDigits rest), ?_, ?_⟩
      · rw [List.cons_append, append_spanDigits]
      · rw [List.length_cons, Nat.add_comm]
  · exact ⟨[], .none, rfl, rfl⟩

theorem exists_signText (s : List Char) :
    ∃ sign, SignText sign (Number.spanSign s).1 ∧ s = sign ++ (Number.spanSign s).2 := by
  unfold Number.spanSign
  split
  · exact ⟨_, .plus, rfl⟩
  · exact ⟨_, .minus, rfl⟩
  · exact ⟨_, .none, rfl⟩

/-- Where the exponent of a literal is read, the literal is whole. -/
theorem exists_exponentText {front : List Char} (hwhole : AllDigits whole)
    (hfraction : AllDigits fraction)
    (h : exponentPart (front ++ after) whole fraction front.length after = ⟨n, .ok t⟩) :
    ∃ scale tail negative digits, ExponentText scale negative digits ∧ after = scale ++ tail ∧
      (front ++ scale).length = n ∧ Closes tail ∧
      t = .number (Number.Literal.mk whole fraction negative digits).value := by
  have hplain (h : decimalOf (front ++ after) whole fraction ['0'] front.length = ⟨n, .ok t⟩) :
      ∃ scale tail negative digits, ExponentText scale negative digits ∧ after = scale ++ tail ∧
        (front ++ scale).length = n ∧ Closes tail ∧
        t = .number (Number.Literal.mk whole fraction negative digits).value := by
    rw [decimalOf_zero hwhole hfraction] at h
    obtain ⟨hn, htail, ht⟩ := numberOf_append_eq_ok.mp h
    exact ⟨[], after, false, [], .none, rfl, by rw [List.append_nil, hn], htail, ht⟩
  unfold exponentPart at h
  dsimp only at h
  split at h
  · next mark rest =>
      split at h
      · next hmark =>
          obtain ⟨sign, hsign, hrest⟩ := exists_signText rest
          split at h
          · exact absurd h malformed_ne_ok
          · next hdigits =>
              have hsplit := append_spanDigits (Number.spanSign rest).2
              have hdigits' := allDigits_spanDigits (Number.spanSign rest).2
              generalize (Number.spanDigits (Number.spanSign rest).2).1 = digits at *
              generalize (Number.spanDigits (Number.spanSign rest).2).2 = tail at *
              rw [← hsplit] at hrest
              have hword : mark :: rest = mark :: (sign ++ digits) ++ tail := by
                rw [hrest, List.cons_append, List.append_assoc]
              have hlength : front.length + 1 + (rest.length - (Number.spanSign rest).2.length) +
                  digits.length = (front ++ mark :: (sign ++ digits)).length := by
                rw [← hsplit, hrest]
                simp only [List.length_append, List.length_cons]
                omega
              have hnonempty : digits ≠ [] := by simpa using hdigits
              rw [decimalOf_exponent hwhole hfraction hdigits' hnonempty, hlength, hword,
                ← List.append_assoc] at h
              obtain ⟨hn, htail, ht⟩ := numberOf_append_eq_ok.mp h
              exact ⟨_, tail, _, digits, .scale hmark hsign hdigits' hnonempty, hword, hn, htail,
                ht⟩
      · exact hplain h
  · exact hplain h

/-- Where a number starts, there is a digit before the point or behind it. -/
theorem whole_or_fraction_of_startsNumber (h : startsNumber s = true) :
    (Number.spanDigits s).1 ≠ [] ∨ (fractionPart (Number.spanDigits s).2).1 ≠ [] := by
  unfold startsNumber at h
  split at h
  · next c rest =>
      have hpoint : Numeral.isDecimalDigit '.' = false := rfl
      exact .inr (by simp [Number.spanDigits, hpoint, fractionPart, h])
  · exact .inl (by simp [Number.spanDigits, h])
  · cases h

/-- With a digit on one of its sides the point is read before the exponent. -/
theorem decimalNumber_eq (hdigit : (Number.spanDigits s).1 ≠ [] ∨
      (fractionPart (Number.spanDigits s).2).1 ≠ []) :
    decimalNumber s =
      exponentPart s (Number.spanDigits s).1 (fractionPart (Number.spanDigits s).2).1
        ((Number.spanDigits s).1.length + (fractionPart (Number.spanDigits s).2).2.1 +
          (fractionPart (Number.spanDigits s).2).1.length)
        (fractionPart (Number.spanDigits s).2).2.2 := by
  refine if_neg ?_
  rintro ⟨-, hwhole, hfraction⟩
  rcases hdigit with hdigit | hdigit
  · exact hdigit (List.isEmpty_iff.mp hwhole)
  · exact hdigit (List.isEmpty_iff.mp hfraction)

/-- What the scanner reads as a decimal literal is the text of one. -/
theorem exists_decimalText (hs : startsNumber s = true) (h : decimalNumber s = ⟨n, .ok t⟩) :
    ∃ w tail l, s = w ++ tail ∧ w.length = n ∧ DecimalText w l ∧ Closes tail ∧
      t = .number l.value := by
  have hwhole := allDigits_spanDigits s
  have hsplit := append_spanDigits s
  have hdigit := whole_or_fraction_of_startsNumber hs
  obtain ⟨point, hpoint, hafter, hlength⟩ := exists_fractionText (Number.spanDigits s).2
  rw [decimalNumber_eq hdigit, Nat.add_assoc, ← hlength, ← List.length_append] at h
  generalize (Number.spanDigits s).1 = whole at *
  generalize (fractionPart (Number.spanDigits s).2).2.2 = after at *
  rw [hafter, ← List.append_assoc] at hsplit
  nth_rewrite 1 [← hsplit] at h
  obtain ⟨scale, tail, negative, digits, hscale, hrest, hn, htail, ht⟩ :=
    exists_exponentText hwhole hpoint.allDigits h
  rw [hrest, ← List.append_assoc, List.append_assoc whole] at hsplit
  rw [List.append_assoc] at hn
  exact ⟨_, tail, _, hsplit.symm, hn, .parts hwhole hpoint hdigit hscale, htail, ht⟩

/-! ## What the scanner reads of a literal -/

theorem exponentPart_scale {front scale digits : List Char} {negative : Bool}
    (hwhole : AllDigits whole) (hfraction : AllDigits fraction)
    (h : ExponentText scale negative digits) (htail : Closes tail) :
    exponentPart (front ++ scale ++ tail) whole fraction front.length (scale ++ tail) =
      ⟨(front ++ scale).length,
        .ok (.number (Number.Literal.mk whole fraction negative digits).value)⟩ := by
  cases h with
  | none =>
      rw [List.append_nil, ← numberOf_append htail, ← decimalOf_zero hwhole hfraction]
      cases tail with
      | nil => rfl
      | cons c rest =>
          have hmark : ¬(c = 'e' ∨ c = 'E') := no_scale_mark (closes_cons.mp htail).1
          exact if_neg hmark
  | @scale mark sign digits negative hmark hsign hdigits hnonempty =>
      have hspan := spanDigits_append hdigits
        (starts_of_closes htail fun _ hc _ => noDigit_of_not_isNamePart hc)
      have hlength : front.length + 1 + sign.length + digits.length =
          (front ++ mark :: (sign ++ digits)).length := by
        simp only [List.length_append, List.length_cons]
        omega
      have hempty : digits.isEmpty = false := List.isEmpty_eq_false_iff.mpr hnonempty
      rw [← numberOf_append htail, ← decimalOf_exponent hwhole hfraction hdigits hnonempty,
        ← hlength, List.append_assoc, List.cons_append, List.append_assoc]
      unfold exponentPart
      simp [hmark, spanSign_sign hsign hdigits hnonempty, hspan, hempty]

/-- The scanner reads the text of a decimal literal as the literal. -/
theorem decimalNumber_decimalText (h : DecimalText w l) (htail : Closes tail) :
    decimalNumber (w ++ tail) = ⟨w.length, .ok (.number l.value)⟩ := by
  cases h with
  | @parts whole fraction digits point scale negative hwhole hpoint hdigit hscale =>
      have hend : Starts (fun c => NoDigit c ∧ c ≠ '.') (scale ++ tail) :=
        starts_append (Number.starts_exponentText hscale (by decide))
          (starts_of_closes htail fun _ hc hpoint => ⟨noDigit_of_not_isNamePart hc, hpoint⟩)
      have hspan : Number.spanDigits (whole ++ (point ++ (scale ++ tail))) =
          (whole, point ++ (scale ++ tail)) := by
        refine spanDigits_append hwhole (starts_append ?_ fun c hc => (hend c hc).1)
        cases hpoint with
        | none => exact starts_nil
        | point => exact starts_cons.mpr (by decide)
      have hlength : whole.length + (point.length - fraction.length) + fraction.length =
          (whole ++ point).length := by
        cases hpoint with
        | none => simp
        | point =>
            simp only [List.length_append, List.length_cons]
            omega
      have hread := @exponentPart_scale tail whole fraction (whole ++ point) scale digits negative
        hwhole hpoint.allDigits hscale htail
      have hparts : fractionPart (point ++ (scale ++ tail)) = _ := fractionPart_point hpoint hend
      rw [List.append_assoc, List.append_assoc, decimalNumber_eq]
      · rw [hspan, hparts, hlength]
        simpa using hread
      · rwa [hspan, hparts]

/-! ## Numbers in a radix -/

theorem leadingDigits_append {radix : Nat} {digits : List Char} (h : AllDigitsOf radix digits)
    (htail : Starts (fun c => (Numeral.digitValue? radix c).isSome = false) tail) :
    Number.leadingDigits radix (digits ++ tail) = digits :=
  takeWhile_append_of_starts h htail

/-- The digits of a radix are parts of names. -/
theorem isNamePart_of_digitValue? {radix : Nat} (h : (Numeral.digitValue? radix c).isSome) :
    isNamePart c = true := by
  have hlower : ∀ n ≤ 'z'.toNat, 'a'.toNat ≤ n →
      (Text.inRanges Text.alphabeticRanges n || Text.inRanges Text.numericRanges n) = true := by
    decide
  have hupper : ∀ n ≤ 'Z'.toNat, 'A'.toNat ≤ n →
      (Text.inRanges Text.alphabeticRanges n || Text.inRanges Text.numericRanges n) = true := by
    decide
  have hpart (hc : (Text.inRanges Text.alphabeticRanges c.toNat ||
      Text.inRanges Text.numericRanges c.toNat) = true) : isNamePart c = true := by
    simp only [isNamePart, Bool.or_eq_true]
    exact .inl (.inl hc)
  by_cases hc : '0' ≤ c ∧ c ≤ '9'
  · apply isNamePart_of_isDecimalDigit
    rw [Numeral.isDecimalDigit, decide_eq_true hc.1, decide_eq_true hc.2]
    rfl
  by_cases hc' : 'a' ≤ c ∧ c ≤ 'z'
  · exact hpart (hlower _ hc'.2 hc'.1)
  by_cases hc'' : 'A' ≤ c ∧ c ≤ 'Z'
  · exact hpart (hupper _ hc''.2 hc''.1)
  · simp [Numeral.digitValue?, hc, hc', hc''] at h

theorem exists_radixText {radix : Nat} {mark : Char} {rest : List Char}
    (h : radixNumber radix ('0' :: mark :: rest) = ⟨n, .ok t⟩) :
    ∃ digits tail, rest = digits ++ tail ∧ AllDigitsOf radix digits ∧ digits ≠ [] ∧
      ('0' :: mark :: digits).length = n ∧ Closes tail ∧
      t = .number ((Number.ofDigits? radix digits).getD .nan) := by
  rw [radixNumber, List.drop_succ_cons, List.drop_succ_cons, List.drop_zero] at h
  split at h
  · exact absurd h malformed_ne_ok
  · next hdigits =>
      have hsplit : Number.leadingDigits radix rest ++
          rest.dropWhile (fun c => (Numeral.digitValue? radix c).isSome) = rest :=
        List.takeWhile_append_dropWhile
      have hall : AllDigitsOf radix (Number.leadingDigits radix rest) :=
        List.all_eq_true.mp List.all_takeWhile
      generalize Number.leadingDigits radix rest = digits at *
      have hword : '0' :: mark :: rest = '0' :: mark :: digits ++
          rest.dropWhile (fun c => (Numeral.digitValue? radix c).isSome) := by
        rw [List.cons_append, List.cons_append, hsplit]
      have hlength : 2 + digits.length = ('0' :: mark :: digits).length := by
        rw [List.length_cons, List.length_cons]
        omega
      rw [hword, hlength] at h
      obtain ⟨hn, htail, ht⟩ := numberOf_append_eq_ok.mp h
      exact ⟨digits, _, hsplit.symm, hall, by simpa using hdigits, hn, htail, ht⟩

theorem radixNumber_digits {radix : Nat} {mark : Char} {digits : List Char}
    (hdigits : AllDigitsOf radix digits) (hnonempty : digits ≠ []) (htail : Closes tail) :
    radixNumber radix ('0' :: mark :: digits ++ tail) =
      ⟨('0' :: mark :: digits).length,
        .ok (.number ((Number.ofDigits? radix digits).getD .nan))⟩ := by
  have hend : Starts (fun c => (Numeral.digitValue? radix c).isSome = false) tail := by
    refine starts_of_closes htail fun c hc _ => ?_
    by_contra hdigit
    rw [isNamePart_of_digitValue? (Bool.of_not_eq_false hdigit)] at hc
    cases hc
  have hempty : digits.isEmpty = false := List.isEmpty_eq_false_iff.mpr hnonempty
  have hlength : 2 + digits.length = ('0' :: mark :: digits).length := by
    rw [List.length_cons, List.length_cons]
    omega
  rw [← numberOf_append htail, ← hlength, radixNumber]
  simp only [List.cons_append, List.drop_succ_cons, List.drop_zero,
    leadingDigits_append hdigits hend, hempty, Bool.false_eq_true, if_false]

/-! ## Numbers -/

/-- The texts of number literals in a dialect. -/
inductive NumberText (d : Dialect) : List Char → Number → Prop where
  | decimal {w : List Char} {l : Number.Literal} :
      DecimalText w l → NumberText d w l.value
  | radix {mark : Char} {radix : Nat} {digits : List Char} :
      RadixMark d mark radix → AllDigitsOf radix digits → digits ≠ [] →
      NumberText d ('0' :: mark :: digits) ((Number.ofDigits? radix digits).getD .nan)

/-- Behind the first character of a decimal literal no mark of a radix follows. -/
theorem noMark_of_decimalText (h : DecimalText w l) (htail : Closes tail) {mark : Char}
    {rest : List Char} (heq : w ++ tail = '0' :: mark :: rest) : NoMark mark := by
  cases h with
  | @parts whole fraction digits point scale negative hwhole hpoint hdigit hscale =>
      have hend : Starts NoMark (scale ++ tail) := by
        refine starts_append ?_ (starts_of_closes htail fun _ hc _ => noMark_of_not_isNamePart hc)
        cases hscale with
        | none => exact starts_nil
        | scale hmark => rcases hmark with rfl | rfl <;> exact starts_cons.mpr (by decide)
      have hfront : Starts NoMark (point ++ (scale ++ tail)) := by
        refine starts_append ?_ hend
        cases hpoint with
        | none => exact starts_nil
        | point => exact starts_cons.mpr (by decide)
      rw [List.append_assoc, List.append_assoc] at heq
      cases hcons : whole with
      | nil =>
          rw [hcons] at heq hdigit
          cases hpoint with
          | none => exact absurd hdigit (by simp)
          | point => exact absurd (List.cons.inj heq).1 (by decide)
      | cons c more =>
          rw [hcons, List.cons_append, List.cons.injEq] at heq
          have hmore : AllDigits more :=
            fun a ha => hwhole a (by rw [hcons]; exact List.mem_cons_of_mem _ ha)
          have hstarts := starts_append
            (starts_of_allDigits hmore fun _ => noMark_of_isDecimalDigit) hfront
          rw [heq.2] at hstarts
          exact hstarts mark rfl

/-- What the scanner reads as a number is the text of a literal, and nothing that belongs to a
number or to a word follows it. -/
theorem exists_numberText (hs : startsNumber s = true) (h : number d s = ⟨n, .ok t⟩) :
    ∃ w tail x, s = w ++ tail ∧ w.length = n ∧ NumberText d w x ∧ Closes tail ∧ t = .number x := by
  have hdecimal (h : decimalNumber s = ⟨n, .ok t⟩) :
      ∃ w tail x, s = w ++ tail ∧ w.length = n ∧ NumberText d w x ∧ Closes tail ∧
        t = .number x := by
    obtain ⟨w, tail, l, hsplit, hn, htext, htail, ht⟩ := exists_decimalText hs h
    exact ⟨w, tail, l.value, hsplit, hn, .decimal htext, htail, ht⟩
  have hradix {radix : Nat} {mark : Char} {rest : List Char} (hmark : RadixMark d mark radix)
      (h : radixNumber radix ('0' :: mark :: rest) = ⟨n, .ok t⟩) :
      ∃ w tail x, '0' :: mark :: rest = w ++ tail ∧ w.length = n ∧ NumberText d w x ∧
        Closes tail ∧ t = .number x := by
    obtain ⟨digits, tail, hsplit, hdigits, hnonempty, hn, htail, ht⟩ := exists_radixText h
    refine ⟨_, tail, _, ?_, hn, .radix hmark hdigits hnonempty, htail, ht⟩
    rw [hsplit, List.cons_append, List.cons_append]
  unfold number at h
  split at h
  · split at h
    · next hmark => exact hradix (.hexadecimal hmark) h
    split at h
    · next hmark => exact hradix (.binary hmark.1 hmark.2) h
    · exact hdecimal h
  · exact hdecimal h

/-- The scanner reads the text of a literal as its number where nothing that belongs to a number or
to a word follows. -/
theorem number_numberText (h : NumberText d w x) (htail : Closes tail) :
    number d (w ++ tail) = ⟨w.length, .ok (.number x)⟩ := by
  cases h with
  | decimal htext =>
      rw [← decimalNumber_decimalText htext htail]
      unfold number
      split
      · next mark rest heq =>
          have hmark := noMark_of_decimalText htext htail heq
          rw [if_neg hmark.1, if_neg fun hrich => hmark.2 hrich.1]
      · rfl
  | @radix mark radix digits hmark hdigits hnonempty =>
      rw [← radixNumber_digits hdigits hnonempty htail]
      cases hmark with
      | hexadecimal hmark => exact if_pos hmark
      | binary hmark hrich =>
          have hhex : ¬(mark = 'x' ∨ mark = 'X') := by
            rcases hmark with rfl | rfl <;> decide
          exact (if_neg hhex).trans (if_pos ⟨hmark, hrich⟩)

/-- A text is the literal of one number only. -/
theorem NumberText.unique {y : Number} (h : NumberText d w x) (h' : NumberText d w y) : x = y := by
  have hread := number_numberText h closes_nil
  rw [number_numberText h' closes_nil] at hread
  exact (Token.number.inj (Except.ok.inj (Lexeme.mk.inj hread).2)).symm

theorem startsNumber_numberText (h : NumberText d w x) : startsNumber (w ++ tail) = true := by
  cases h with
  | radix => rfl
  | decimal htext =>
      cases htext with
      | @parts whole fraction digits point scale negative hwhole hpoint hdigit hscale =>
          cases whole with
          | cons c more => exact startsNumber_of_isDecimalDigit (hwhole c List.mem_cons_self)
          | nil =>
              cases hpoint with
              | none => exact absurd hdigit (by simp)
              | point hfraction =>
                  cases fraction with
                  | nil => exact absurd hdigit (by simp)
                  | cons c more => exact hfraction c List.mem_cons_self

/-- The scanner reads the text of a literal where nothing that belongs to a number or to a word
follows. -/
theorem scan_numberText (h : NumberText d w x) (htail : Closes tail) :
    scan d (w ++ tail) = ⟨w.length, .ok (.number x)⟩ := by
  have hstarts : startsNumber (w ++ tail) = true := startsNumber_numberText h
  rw [← number_numberText h htail]
  cases hs : w ++ tail with
  | nil =>
      rw [hs] at hstarts
      cases hstarts
  | cons c rest =>
      rw [hs] at hstarts
      rw [scan, hstarts]
      rfl

/-! ## Literals in their standard form -/

theorem fractionText_standard (h : AllDigits fraction) :
    FractionText (Number.Literal.fractionText fraction) fraction := by
  cases fraction with
  | nil => exact .none
  | cons c more => exact .point h

/-- Without digits there is no exponent part, and the sign of the exponent does not matter. -/
theorem exists_exponentText_standard {digits : List Char} {negative : Bool}
    (h : AllDigits digits) :
    ∃ sign, ExponentText (Number.Literal.scaleText negative digits) sign digits ∧
      (Number.Literal.mk whole fraction sign digits).decimal =
        (Number.Literal.mk whole fraction negative digits).decimal := by
  cases digits with
  | nil => exact ⟨false, .none, decimal_of_no_digits.symm⟩
  | cons c more =>
      have hsign : SignText [if negative then '-' else '+'] negative := by
        cases negative with
        | false => exact .plus
        | true => exact .minus
      exact ⟨negative, .scale (.inl rfl) hsign h (List.cons_ne_nil _ _), rfl⟩

/-- The text of a literal is read part by part; only the sign of an exponent without digits may be
another one. -/
theorem exists_decimalText_parts (h : l.Proper) :
    ∃ sign, DecimalText l.text ⟨l.whole, l.fraction, sign, l.exponent⟩ ∧
      (Number.Literal.mk l.whole l.fraction sign l.exponent).decimal = l.decimal := by
  obtain ⟨sign, hscale, hdecimal⟩ :=
    @exists_exponentText_standard l.whole l.fraction l.exponent l.exponentNegative h.exponent
  exact ⟨sign, .parts h.whole (fractionText_standard h.fraction) (.inl h.nonempty) hscale, hdecimal⟩

theorem exists_decimalText_text (h : l.Proper) :
    ∃ l', DecimalText l.text l' ∧ l'.decimal = l.decimal := by
  obtain ⟨sign, htext⟩ := exists_decimalText_parts h
  exact ⟨_, htext⟩

theorem numberText_text (h : l.Proper) : NumberText d l.text l.value := by
  obtain ⟨l', htext, hdecimal⟩ := exists_decimalText_text h
  rw [← Number.Literal.value_congr hdecimal]
  exact .decimal htext

/-- The text of a decimal literal in its standard form is read as the literal. -/
theorem scan_text (h : l.Proper) (htail : Closes tail) :
    scan d (l.text ++ tail) = ⟨l.text.length, .ok (.number l.value)⟩ :=
  scan_numberText (numberText_text h) htail

end Lexeme
end Guest
