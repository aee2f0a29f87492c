import Guest.Proofs.Token.Numbers

/-!
# Decimal literals

The texts of decimal literals are given by rules, apart from their readers.  The conversion reads
them part by part.  So the scanner may bring a literal to its normal form before it is converted: a
zero in place of no digits does not change the number.
-/

namespace Guest

namespace Number

open Numeral (AllDigits)

/-- A point and digits behind it, or nothing: the text and its digits. -/
inductive FractionText : List Char → List Char → Prop where
  | none :
      FractionText [] []
  | point {digits : List Char} :
      AllDigits digits → FractionText ('.' :: digits) digits

theorem FractionText.allDigits {point digits : List Char} (h : FractionText point digits) :
    AllDigits digits := by
  cases h with
  | none => exact Numeral.allDigits_nil
  | point hdigits => exact hdigits

/-- An optional sign: its text, and whether it is a minus. -/
inductive SignText : List Char → Bool → Prop where
  | none :
      SignText [] false
  | plus :
      SignText ['+'] false
  | minus :
      SignText ['-'] true

/-- An optional exponent, which has a digit: its text, its sign and its digits. -/
inductive ExponentText : List Char → Bool → List Char → Prop where
  | none :
      ExponentText [] false []
  | scale {mark : Char} {sign digits : List Char} {negative : Bool} :
      mark = 'e' ∨ mark = 'E' → SignText sign negative → AllDigits digits → digits ≠ [] →
      ExponentText (mark :: (sign ++ digits)) negative digits

/-- The texts of a decimal literal, which has a digit before or behind the point. -/
inductive DecimalText : List Char → Literal → Prop where
  | parts {whole fraction digits point scale : List Char} {negative : Bool} :
      AllDigits whole → FractionText point fraction → whole ≠ [] ∨ fraction ≠ [] →
      ExponentText scale negative digits →
      DecimalText (whole ++ (point ++ scale)) ⟨whole, fraction, negative, digits⟩

end Number

namespace Lexeme

open Numeral (AllDigits)
open Number (FractionText SignText)

variable {s tail fraction : List Char} {c : Char}

/-! ## The parts of literals in front of a text -/

theorem append_spanDigits (s : List Char) :
    (Number.spanDigits s).1 ++ (Number.spanDigits s).2 = s :=
  List.takeWhile_append_dropWhile

theorem allDigits_spanDigits (s : List Char) : AllDigits (Number.spanDigits s).1 :=
  List.all_eq_true.mp List.all_takeWhile

theorem fractionPart_point {point : List Char} (h : FractionText point fraction)
    (htail : Starts (fun c => NoDigit c ∧ c ≠ '.') tail) :
    fractionPart (point ++ tail) = (fraction, point.length - fraction.length, tail) := by
  cases h with
  | none =>
      cases tail with
      | nil => rfl
      | cons c rest =>
          have hc : c ≠ '.' := (htail c rfl).2
          simp [fractionPart, hc]
  | point hdigits =>
      have hspan := spanDigits_append hdigits (fun c hc => (htail c hc).1)
      simp [fractionPart, hspan]

theorem spanSign_sign {sign digits : List Char} {negative : Bool} (h : SignText sign negative)
    (hdigits : AllDigits digits) (hnonempty : digits ≠ []) :
    Number.spanSign (sign ++ (digits ++ tail)) = (negative, digits ++ tail) := by
  cases h with
  | plus => rfl
  | minus => rfl
  | none =>
      cases digits with
      | nil => exact absurd rfl hnonempty
      | cons c more =>
          have hc : Numeral.isDecimalDigit c = true := hdigits c List.mem_cons_self
          have hplus : c ≠ '+' := by
            rintro rfl
            exact absurd hc (by decide)
          have hminus : c ≠ '-' := by
            rintro rfl
            exact absurd hc (by decide)
          simp [Number.spanSign, hplus, hminus]

end Lexeme

namespace Number

open Numeral (AllDigits)
open Lexeme (Starts starts_nil starts_cons starts_append Closes closes_nil closes_cons
  starts_of_closes)

variable {w digits tail : List Char} {l : Literal}

/-! ## Conversion of literals -/

theorem spanExponent_append {scale : List Char} {negative : Bool}
    (h : ExponentText scale negative digits) (htail : Closes tail) :
    spanExponent (scale ++ tail) = (negative, digits, tail) := by
  cases h with
  | none =>
      cases tail with
      | nil => rfl
      | cons c rest => exact if_neg (Lexeme.no_scale_mark (closes_cons.mp htail).1)
  | @scale mark sign digits negative hmark hsign hdigits hnonempty =>
      have hspan := Lexeme.spanDigits_append hdigits
        (starts_of_closes htail fun _ hc _ => Lexeme.noDigit_of_not_isNamePart hc)
      have hsigned := @Lexeme.spanSign_sign tail sign digits negative hsign hdigits hnonempty
      rw [List.cons_append, List.append_assoc]
      simp [spanExponent, hmark, hsigned, hspan, hnonempty]

theorem starts_exponentText {scale : List Char} {negative : Bool} {p : Char → Prop}
    (h : ExponentText scale negative digits) (hp : p 'e' ∧ p 'E') : Starts p scale := by
  cases h with
  | none => exact starts_nil
  | scale hmark =>
      rcases hmark with rfl | rfl
      · exact starts_cons.mpr hp.1
      · exact starts_cons.mpr hp.2

theorem spanLiteral_eq (s : List Char) :
    spanLiteral s =
      let whole := (spanDigits s).1
      let fraction := (Lexeme.fractionPart (spanDigits s).2).1
      let exponent := spanExponent (Lexeme.fractionPart (spanDigits s).2).2.2
      if whole.isEmpty && fraction.isEmpty then none
      else some (⟨whole, fraction, exponent.1, exponent.2.1⟩, exponent.2.2) := by
  unfold spanLiteral
  dsimp only
  generalize (spanDigits s).2 = afterWhole
  split
  · rfl
  · next hpoint =>
      have hplain : Lexeme.fractionPart afterWhole = ([], 0, afterWhole) := by
        unfold Lexeme.fractionPart
        split
        · next rest => exact absurd rfl (hpoint rest)
        · rfl
      rw [hplain]

/-- The conversion reads the text of a literal where nothing that belongs to a number or to a word
follows it. -/
theorem spanLiteral_append (h : DecimalText w l) (htail : Closes tail) :
    spanLiteral (w ++ tail) = some (l, tail) := by
  cases h with
  | @parts whole fraction digits point scale negative hwhole hpoint hdigit hscale =>
      have hend : Starts (fun c => Lexeme.NoDigit c ∧ c ≠ '.') (scale ++ tail) :=
        starts_append (starts_exponentText hscale (by decide))
          (starts_of_closes htail fun _ hc hpoint =>
            ⟨Lexeme.noDigit_of_not_isNamePart hc, hpoint⟩)
      have hspan : spanDigits (whole ++ (point ++ (scale ++ tail))) =
          (whole, point ++ (scale ++ tail)) := by
        refine Lexeme.spanDigits_append hwhole (starts_append ?_ fun c hc => (hend c hc).1)
        cases hpoint with
        | none => exact starts_nil
        | point => exact starts_cons.mpr (by decide)
      have hdigit' : (whole.isEmpty && fraction.isEmpty) = false := by
        rw [Bool.and_eq_false_iff, List.isEmpty_eq_false_iff, List.isEmpty_eq_false_iff]
        exact hdigit
      rw [List.append_assoc, List.append_assoc, spanLiteral_eq, hspan]
      dsimp only
      rw [Lexeme.fractionPart_point hpoint hend, spanExponent_append hscale htail, hdigit']
      rfl

/-- The conversion reads the text of a literal to its end. -/
theorem spanLiteral_decimalText (h : DecimalText w l) : spanLiteral w = some (l, []) := by
  have hspan := spanLiteral_append h closes_nil
  rwa [List.append_nil] at hspan

end Number

/-! ## The normal form of a literal -/

namespace Lexeme

open Numeral (AllDigits)
open Number (Literal SignText DecimalText ofDecimalText?)

variable {digits more whole fraction exponent sign : List Char} {negative : Bool}

theorem orZero_ne_nil (digits : List Char) : orZero digits ≠ [] := by
  cases digits with
  | nil => exact List.cons_ne_nil _ _
  | cons c rest => exact List.cons_ne_nil _ _

theorem allDigits_orZero (h : AllDigits digits) : AllDigits (orZero digits) := by
  cases digits with
  | nil => exact Numeral.allDigits_zeros 1
  | cons c rest => exact h

theorem value_orZero_append :
    Numeral.value 10 (orZero digits ++ more) = Numeral.value 10 (digits ++ more) := by
  cases digits with
  | nil => exact @Numeral.value_zeros_append more 1
  | cons c rest => rfl

/-- A zero behind the point changes the decimal but not its exact value. -/
theorem exact_orZero :
    (Literal.mk (orZero whole) (orZero fraction) negative exponent).decimal.exact =
      (Literal.mk whole fraction negative exponent).decimal.exact := by
  simp only [Literal.decimal, value_orZero_append]
  cases fraction with
  | nil =>
      have hzero : orZero [] = Number.zeros 1 := rfl
      rw [hzero, Numeral.value_append_zeros, Decimal.exact_mul_ten_pow, List.append_nil,
        Number.zeros, List.length_replicate, List.length_nil, Int.natCast_zero, Int.sub_zero]
      exact congrArg (fun e => Decimal.exact ⟨_, e⟩) (Int.sub_add_cancel _ _)
  | cons c rest => rfl

theorem decimalText_normalText (hwhole : AllDigits whole) (hfraction : AllDigits fraction)
    (hsign : SignText sign negative) (hdigits : AllDigits digits) (hnonempty : digits ≠ []) :
    DecimalText (normalText whole fraction (sign ++ digits))
      ⟨orZero whole, orZero fraction, negative, digits⟩ :=
  .parts (allDigits_orZero hwhole) (.point (allDigits_orZero hfraction))
    (.inl (orZero_ne_nil whole)) (.scale (.inl rfl) hsign hdigits hnonempty)

/-- A literal may be brought to its normal form before it is converted. -/
theorem ofDecimalText?_normalText (hwhole : AllDigits whole) (hfraction : AllDigits fraction)
    (hsign : SignText sign negative) (hdigits : AllDigits digits) (hnonempty : digits ≠ []) :
    ofDecimalText? (normalText whole fraction (sign ++ digits)) =
      some (Literal.mk whole fraction negative digits).value := by
  have htext := decimalText_normalText hwhole hfraction hsign hdigits hnonempty
  rw [ofDecimalText?, Number.spanLiteral_decimalText htext]
  exact congrArg some (Number.ofDecimal_congr exact_orZero)

variable {s : List Char} {n : Nat}

theorem decimalOf_exponent (hwhole : AllDigits whole) (hfraction : AllDigits fraction)
    (hdigits : AllDigits digits) (hnonempty : digits ≠ []) :
    decimalOf s whole fraction (if negative then '-' :: digits else digits) n =
      numberOf s n (Literal.mk whole fraction negative digits).value := by
  cases negative with
  | false =>
      rw [decimalOf, if_neg Bool.false_ne_true, ← List.nil_append digits,
        ofDecimalText?_normalText hwhole hfraction .none hdigits hnonempty, List.nil_append]
  | true =>
      rw [decimalOf, if_pos rfl, ← List.singleton_append,
        ofDecimalText?_normalText hwhole hfraction .minus hdigits hnonempty]

/-- Without an exponent a zero takes its place. -/
theorem decimalOf_zero (hwhole : AllDigits whole) (hfraction : AllDigits fraction) :
    decimalOf s whole fraction ['0'] n =
      numberOf s n (Literal.mk whole fraction false []).value := by
  have hzero : (Literal.mk whole fraction false ['0']).decimal =
      (Literal.mk whole fraction false []).decimal := rfl
  have hread : ofDecimalText? (normalText whole fraction ['0']) = _ :=
    ofDecimalText?_normalText hwhole hfraction .none (Numeral.allDigits_zeros 1)
      (List.cons_ne_nil _ _)
  rw [decimalOf, hread, Number.Literal.value_congr hzero]

end Lexeme
end Guest
