import Guest.Number.Read
import Guest.Proofs.Number.Exact

/-!
# The text of numbers as literals

Each layout of the canonical text of a positive number is the text of a decimal literal, and the
exact value of the literal is that of the decimal that was laid out.  The shortest decimal reads
back, so the text of a number without a sign is a literal of this number.
-/

namespace Guest
namespace Number

open Numeral (AllDigits allDigits_nil allDigits_take allDigits_drop)

namespace Literal

/-- Digits behind a point, if there are any. -/
def fractionText : List Char → List Char
  | [] => []
  | c :: digits => '.' :: c :: digits

/-- An exponent part with a sign, if there are digits. -/
def scaleText (negative : Bool) : List Char → List Char
  | [] => []
  | c :: digits => 'e' :: (if negative then '-' else '+') :: c :: digits

/-- A text of the literal. -/
def text (l : Literal) : List Char :=
  l.whole ++ (fractionText l.fraction ++ scaleText l.exponentNegative l.exponent)

/-- A literal that consists of digits, with at least one before the point; a zero in front stands
alone there. -/
structure Proper (l : Literal) : Prop where
  nonempty : l.whole ≠ []
  lead : l.whole.head? = some '0' → l.whole = ['0']
  whole : AllDigits l.whole
  fraction : AllDigits l.fraction
  exponent : AllDigits l.exponent

variable {whole fraction digits : List Char} {negative : Bool}

theorem fractionText_of_ne_nil (h : fraction ≠ []) : fractionText fraction = '.' :: fraction := by
  cases fraction with
  | nil => exact absurd rfl h
  | cons c digits => rfl

theorem scaleText_of_ne_nil (h : digits ≠ []) :
    scaleText negative digits = 'e' :: (if negative then '-' else '+') :: digits := by
  cases digits with
  | nil => exact absurd rfl h
  | cons c digits => rfl

/-- The decimal that a literal denotes. -/
def decimal (l : Literal) : Decimal :=
  ⟨Numeral.value 10 (l.whole ++ l.fraction),
    (if l.exponentNegative then -(Numeral.value 10 l.exponent : Int)
      else Numeral.value 10 l.exponent) - l.fraction.length⟩

/-- A literal is read as its decimal. -/
theorem value_eq_ofDecimal (l : Literal) :
    l.value = ofDecimal false l.decimal.significand l.decimal.exponent := rfl

theorem value_congr {l l' : Literal} (h : l.decimal = l'.decimal) : l.value = l'.value := by
  rw [value_eq_ofDecimal, value_eq_ofDecimal, h]

theorem decimal_of_no_exponent :
    (Literal.mk whole fraction false []).decimal =
      ⟨Numeral.value 10 (whole ++ fraction), -(fraction.length : Int)⟩ :=
  congrArg (Decimal.mk _) (Int.zero_sub _)

end Literal

/-- The literal is proper, and its text and its value are the given ones. -/
structure Denotes (l : Literal) (text : List Char) (x : Number) : Prop where
  proper : l.Proper
  text_eq : l.text = text
  value_eq : l.value = x

/-- The literal is proper, its text is the given one, and its exact value is that of the decimal. -/
structure Shows (l : Literal) (text : List Char) (d : Decimal) : Prop where
  proper : l.Proper
  text_eq : l.text = text
  exact_eq : l.decimal.exact = d.exact

variable {d : Decimal} {exponent : Int} {l : Literal} {text : List Char}

theorem Shows.denotes (h : Shows l text d) :
    Denotes l text (ofDecimal false d.significand d.exponent) :=
  ⟨h.proper, h.text_eq, l.value_eq_ofDecimal.trans (ofDecimal_congr h.exact_eq)⟩

/-! ## Layouts without an exponent -/

/-- Digits and zeros. -/
theorem exists_shows_whole {places : Nat} (hd : 0 < d.significand)
    (hplaces : d.exponent = places) : ∃ l, Shows l (d.digits ++ zeros places) d := by
  refine ⟨⟨d.digits ++ zeros places, [], false, []⟩, ?_, ?_, ?_⟩
  · refine ⟨?_, ?_, ?_, allDigits_nil, allDigits_nil⟩
    · exact List.append_ne_nil_of_left_ne_nil Numeral.decimal_ne_nil _
    · intro hzero
      rw [Decimal.digits] at hzero
      cases hcons : Numeral.decimal d.significand with
      | nil => exact absurd hcons Numeral.decimal_ne_nil
      | cons c more =>
          rw [hcons] at hzero
          exact absurd (hcons ▸ hzero) (Numeral.head?_decimal hd)
    · exact Numeral.allDigits_append Numeral.allDigits_decimal (Numeral.allDigits_zeros _)
  · simp [Literal.text, Literal.fractionText, Literal.scaleText]
  · have hvalue : Numeral.value 10 (d.digits ++ zeros places) = d.significand * 10 ^ places := by
      rw [Numeral.value_append_zeros, Decimal.digits, Numeral.value_decimal]
    rw [Literal.decimal_of_no_exponent, List.append_nil, hvalue, Decimal.exact_mul_ten_pow]
    simp [Decimal.exact, hplaces]

/-- Digits around a point. -/
theorem exists_shows_split {place : Nat} (hd : 0 < d.significand) (hpos : 0 < place)
    (hless : place < d.digits.length) (hplace : d.pointPlace = place) :
    ∃ l, Shows l (d.digits.take place ++ '.' :: d.digits.drop place) d := by
  have hlength : (d.digits.drop place).length = d.digits.length - place := List.length_drop
  have hdrop : d.digits.drop place ≠ [] := by
    intro hnil
    rw [hnil, List.length_nil] at hlength
    omega
  refine ⟨⟨d.digits.take place, d.digits.drop place, false, []⟩, ?_, ?_, ?_⟩
  · have hdigits : AllDigits d.digits := Numeral.allDigits_decimal
    refine ⟨?_, ?_, allDigits_take hdigits _, allDigits_drop hdigits _, allDigits_nil⟩
    · intro hnil
      have hzero := congrArg List.length hnil
      rw [List.length_take, List.length_nil] at hzero
      omega
    · intro hzero
      rw [List.head?_take, if_neg (by omega)] at hzero
      exact absurd hzero (Numeral.head?_decimal hd)
  · rw [Literal.text, Literal.fractionText_of_ne_nil hdrop, Literal.scaleText, List.append_nil]
  · have hpoint : d.pointPlace = d.digits.length + d.exponent := rfl
    have hexponent : -((d.digits.drop place).length : Int) = d.exponent := by omega
    rw [Literal.decimal_of_no_exponent, hexponent, List.take_append_drop, Decimal.digits,
      Numeral.value_decimal]

/-- A point behind zero, then zeros and digits. -/
theorem exists_shows_fraction {places : Nat} (hplaces : d.pointPlace = -(places : Int)) :
    ∃ l, Shows l ('0' :: '.' :: zeros places ++ d.digits) d := by
  have hnonempty : zeros places ++ d.digits ≠ [] :=
    List.append_ne_nil_of_right_ne_nil _ Numeral.decimal_ne_nil
  refine ⟨⟨zeros 1, zeros places ++ d.digits, false, []⟩, ?_, ?_, ?_⟩
  · refine ⟨List.cons_ne_nil _ _, fun _ => rfl, Numeral.allDigits_zeros _, ?_, allDigits_nil⟩
    exact Numeral.allDigits_append (Numeral.allDigits_zeros _) Numeral.allDigits_decimal
  · rw [Literal.text, Literal.fractionText_of_ne_nil hnonempty, Literal.scaleText, List.append_nil]
    rfl
  · have hpoint : d.pointPlace = d.digits.length + d.exponent := rfl
    have hlength : (zeros places ++ d.digits).length = places + d.digits.length := by
      rw [List.length_append, zeros, List.length_replicate]
    have hexponent : -((zeros places ++ d.digits).length : Int) = d.exponent := by omega
    rw [Literal.decimal_of_no_exponent, hexponent, Numeral.value_zeros_append,
      Numeral.value_zeros_append, Decimal.digits, Numeral.value_decimal]

/-! ## The layout with an exponent -/

theorem exponentText_eq :
    exponentText exponent =
      Literal.scaleText (decide (exponent < 0)) (Numeral.decimal exponent.natAbs) := by
  rw [Literal.scaleText_of_ne_nil Numeral.decimal_ne_nil, exponentText]
  by_cases hsign : exponent < 0
  · have hnatAbs : (-exponent).toNat = exponent.natAbs := by omega
    rw [if_neg (by omega), hnatAbs]
    simp [hsign]
  · have hnatAbs : exponent.toNat = exponent.natAbs := by omega
    rw [if_pos (by omega), hnatAbs]
    simp [hsign]

theorem signed_natAbs :
    (if decide (exponent < 0) then -(exponent.natAbs : Int) else exponent.natAbs) = exponent := by
  by_cases hsign : exponent < 0
  · rw [if_pos (decide_eq_true hsign)]
    omega
  · rw [if_neg (by simpa using hsign)]
    omega

theorem mantissaText_cons {first : Char} {rest : List Char} :
    mantissaText (first :: rest) = first :: Literal.fractionText rest := by
  cases rest <;> rfl

/-- One digit before the point and an exponent. -/
theorem exists_shows_exponential :
    ∃ l, Shows l (exponentialText d) d ∧ l.whole ++ l.fraction = d.digits ∧ l.exponent ≠ [] := by
  have hdigits : AllDigits d.digits := Numeral.allDigits_decimal
  have hvalue : Numeral.value 10 d.digits = d.significand := Numeral.value_decimal
  have hpoint : d.pointPlace = d.digits.length + d.exponent := rfl
  rw [exponentialText, exponentText_eq]
  cases hcons : d.digits with
  | nil => exact absurd hcons Numeral.decimal_ne_nil
  | cons first rest =>
      rw [hcons] at hdigits hvalue hpoint
      refine ⟨⟨[first], rest, decide (d.pointPlace - 1 < 0),
        Numeral.decimal (d.pointPlace - 1).natAbs⟩, ⟨?_, ?_, ?_⟩, rfl, Numeral.decimal_ne_nil⟩
      · refine ⟨List.cons_ne_nil _ _, ?_, ?_, ?_, Numeral.allDigits_decimal⟩
        · intro hzero
          rw [Option.some.inj hzero]
        · exact allDigits_take hdigits 1
        · exact allDigits_drop hdigits 1
      · rw [mantissaText_cons]
        rfl
      · have hexponent : d.pointPlace - 1 - rest.length = d.exponent := by
          rw [List.length_cons] at hpoint
          omega
        rw [Literal.decimal, Numeral.value_decimal]
        dsimp only
        rw [signed_natAbs, hexponent, List.singleton_append, hvalue]

/-! ## All layouts -/

theorem exists_shows_decimalText (hd : 0 < d.significand) : ∃ l, Shows l (decimalText d) d := by
  have hpoint : d.pointPlace = d.digits.length + d.exponent := rfl
  unfold decimalText
  dsimp only
  split
  · next hwhole =>
      have hplaces : d.exponent = ((d.pointPlace - d.digits.length).toNat : Nat) := by omega
      exact exists_shows_whole hd hplaces
  split
  · next hsplit =>
      exact exists_shows_split hd (by omega) (by omega) (by omega)
  split
  · next hfraction =>
      exact exists_shows_fraction (by omega)
  · obtain ⟨l, hl, -⟩ := @exists_shows_exponential d
    exact ⟨l, hl⟩

/-- A sign is written for negative numbers other than zero. -/
theorem text_finite {negative : Bool} {units : Nat} {h : Representable units} :
    (finite negative units h).text =
      if negative ∧ units ≠ 0 then '-' :: (finite false units h).text
      else (finite false units h).text := by
  rw [text, text]
  by_cases hunits : units = 0
  · simp [hunits]
  · cases negative <;> simp [hunits, signText]

/-- A number is made of its magnitude and the sign in its text; zero loses its sign. -/
theorem neg_or_unsigned {negative : Bool} {units : Nat} {h : Representable units} :
    (if negative ∧ units ≠ 0 then (finite false units h).neg else finite false units h) =
      if finite negative units h = .negZero then .zero else finite negative units h := by
  by_cases hsign : negative ∧ units ≠ 0
  · obtain ⟨rfl, hne⟩ := hsign
    have hnonzero : finite true units h ≠ .negZero := fun heq => hne (finite.inj heq).2
    simp [hne, hnonzero, neg]
  · cases negative with
    | false => simp [negZero]
    | true =>
        obtain rfl : units = 0 := by simpa using hsign
        simp [negZero, zero]

/-- The text of a finite number without a sign is a literal of the number. -/
theorem exists_denotes_text {units : Nat} (hunits : Representable units) :
    ∃ l, Denotes l (finite false units hunits).text (finite false units hunits) := by
  rw [text]
  split
  · next hzero =>
      subst hzero
      refine ⟨⟨zeros 1, [], false, []⟩, ?_, rfl, ?_⟩
      · exact ⟨List.cons_ne_nil _ _, fun _ => rfl, Numeral.allDigits_zeros _, allDigits_nil,
          allDigits_nil⟩
      · rw [Literal.value_eq_ofDecimal, Literal.decimal_of_no_exponent, List.append_nil,
          Numeral.value_zeros, ofDecimal_eq_ofRatio, ofRatio_zero (by simp)]
  · next hunits' =>
      obtain ⟨l, hl⟩ := exists_shows_decimalText (significand_shortest_pos hunits hunits')
      have hdenotes := hl.denotes
      rw [ofDecimal_shortest hunits] at hdenotes
      exact ⟨l, hdenotes⟩

/-! ## The characters of literals -/

/-- The characters of numbers that are finite. -/
def IsNumeric (c : Char) : Prop := Numeral.isDecimalDigit c = true ∨ c ∈ ['.', 'e', '+', '-']

theorem not_isBlank_of_isDecimalDigit {c : Char} (h : Numeral.isDecimalDigit c = true) :
    Text.isBlank c = false := by
  have hall : ∀ n ≤ 57, 48 ≤ n → Text.inRanges Text.blankRanges n = false := by decide
  rw [Numeral.isDecimalDigit, Bool.and_eq_true] at h
  exact hall _ (of_decide_eq_true h.2) (of_decide_eq_true h.1)

theorem isNumeric_of_allDigits {digits : List Char} (h : Numeral.AllDigits digits) :
    ∀ c ∈ digits, IsNumeric c :=
  fun c hc => .inl (h c hc)

theorem Literal.isNumeric_text (h : l.Proper) : ∀ c ∈ l.text, IsNumeric c := by
  have hfraction : ∀ c ∈ fractionText l.fraction, IsNumeric c := by
    have hdigits := isNumeric_of_allDigits h.fraction
    cases hl : l.fraction with
    | nil => exact List.forall_mem_nil _
    | cons first rest =>
        rw [hl] at hdigits
        exact List.forall_mem_cons.mpr ⟨.inr (by decide), hdigits⟩
  have hscale : ∀ c ∈ scaleText l.exponentNegative l.exponent, IsNumeric c := by
    have hdigits := isNumeric_of_allDigits h.exponent
    cases hl : l.exponent with
    | nil => exact List.forall_mem_nil _
    | cons first rest =>
        rw [hl] at hdigits
        have hsign : IsNumeric (if l.exponentNegative then '-' else '+') := by
          split
          · exact .inr (by decide)
          · exact .inr (by decide)
        exact List.forall_mem_cons.mpr ⟨.inr (by decide), List.forall_mem_cons.mpr ⟨hsign, hdigits⟩⟩
  intro c hc
  rw [Literal.text] at hc
  rcases List.mem_append.mp hc with hc | hc
  · exact .inl (h.whole c hc)
  rcases List.mem_append.mp hc with hc | hc
  · exact hfraction c hc
  · exact hscale c hc

end Number
end Guest
