import Guest.Proofs.Number.Exact
import Guest.Proofs.Number.Patterns
import Guest.Proofs.Value.Source

/-!
# Reading the text of numbers back

The text of a number is read back by conversion, and by the lexer as one literal.  It is the text of
a decimal literal whose exact value is that of the shortest decimal, and it is positional exactly
from the number nearest to `10 ^ (-6)` up to the number nearest to `10 ^ 21`.
-/

namespace Guest
namespace Number

open Numeral (AllDigits)
open Lexeme (Starts starts_cons Closes closes_nil)

variable {w digits tail : List Char} {l : Literal} {c : Char} {d : Decimal}

/-! ## Conversion of numbers -/

theorem not_isPadding_of_isNumeric (h : IsNumeric c) : isPadding c = false := by
  rcases h with hdigit | hother
  · have hmark : c ≠ Char.ofNat 0xFEFF := by
      rintro rfl
      cases hdigit
    have hcode : (c.toNat == 0xFEFF) = false :=
      beq_false_of_ne fun hc => hmark (by rw [← hc, Char.ofNat_toNat])
    rw [isPadding, not_isBlank_of_isDecimalDigit hdigit, hcode, Bool.false_or]
  · have hall : ∀ c ∈ ['.', 'e', '+', '-'], (!isPadding c) = true := List.all_eq_true.mp rfl
    exact Bool.eq_false_of_not_eq_true' (hall c hother)

theorem radixMark?_of_isNumeric (h : IsNumeric c) : radixMark? c = none := by
  unfold radixMark?
  split
  all_goals first
    | exact absurd h (by rw [IsNumeric]; decide)
    | rfl

/-- The conversion of a text to a number that is read to its end and has no mark of a radix. -/
theorem ofText_of_spanNumber {s : List Char} {x : Number} (htrim : Text.trimBy isPadding s = w)
    (hmark : ∀ c ∈ w, radixMark? c = none) (hspan : spanNumber w = some (x, [])) :
    ofText s = x := by
  rw [ofText_eq, htrim]
  dsimp only
  split
  · cases hspan
  · next mark digits =>
      rw [hmark mark (List.mem_cons_of_mem _ List.mem_cons_self), hspan]
  · rw [hspan]

/-- The conversion of a text of digits, points, exponents and signs to a number. -/
theorem ofText_of_isNumeric {s : List Char} {x : Number} (hs : ∀ c ∈ s, IsNumeric c)
    (hspan : spanNumber s = some (x, [])) : ofText s = x :=
  ofText_of_spanNumber (Text.trimBy_eq_self fun c hc => not_isPadding_of_isNumeric (hs c hc))
    (fun c hc => radixMark?_of_isNumeric (hs c hc)) hspan

/-- The conversion reads a literal without a sign as its number. -/
theorem spanNumber_append (h : DecimalText w l) (htail : Closes tail) :
    spanNumber (w ++ tail) = some (l.value, tail) := by
  obtain ⟨hsign, hinfinity⟩ := unsigned_of_starts (@starts_decimalText w tail l h)
  rw [spanNumber, hsign]
  simp only [hinfinity, spanLiteral_append h htail, Bool.false_eq_true, if_false]

theorem spanNumber_minus (h : DecimalText w l) : spanNumber ('-' :: w) = some (l.value.neg, []) := by
  have hunsigned := @starts_decimalText w [] l h
  rw [List.append_nil] at hunsigned
  have hsign : spanSign ('-' :: w) = (true, w) := rfl
  rw [spanNumber, hsign]
  simp only [(unsigned_of_starts hunsigned).2, spanLiteral_decimalText h, if_true]

theorem spanNumber_text (h : l.Proper) : spanNumber l.text = some (l.value, []) := by
  obtain ⟨l', htext, hdecimal⟩ := Lexeme.exists_decimalText_text h
  have hspan := spanNumber_append htext closes_nil
  rwa [List.append_nil, Literal.value_congr hdecimal] at hspan

theorem spanNumber_minus_text (h : l.Proper) :
    spanNumber ('-' :: l.text) = some (l.value.neg, []) := by
  obtain ⟨l', htext, hdecimal⟩ := Lexeme.exists_decimalText_text h
  rw [spanNumber_minus htext, Literal.value_congr hdecimal]

/-- Conversion reads the text of a number back; a zero loses its sign. -/
theorem ofText_text (x : Number) : ofText x.text = if x = .negZero then .zero else x := by
  cases x with
  | nan =>
      rw [ofText_eq]
      decide
  | infinite negative =>
      rw [ofText_eq]
      cases negative <;> decide
  | finite negative units h =>
      obtain ⟨l, hl⟩ := exists_denotes_text h
      have hnumeric := Literal.isNumeric_text hl.proper
      rw [text_finite, ← hl.text_eq, ← neg_or_unsigned]
      split
      · rw [ofText_of_isNumeric (List.forall_mem_cons.mpr ⟨.inr (by decide), hnumeric⟩)
          (spanNumber_minus_text hl.proper), hl.value_eq]
      · rw [ofText_of_isNumeric hnumeric (spanNumber_text hl.proper), hl.value_eq]

/-! ## The order of finite numbers -/

theorem compare_finite_iff {a b : Bool} {m n : Nat} {hm : Representable m} {hn : Representable n} :
    (finite a m hm).compare (finite b n hn) = some .eq ↔
      (finite a m hm).scaled = (finite b n hn).scaled := by
  rw [compare, Option.some_inj, Std.compare_eq_iff_eq]

theorem equals_iff {x y : Number} : x.equals y = true ↔ x.compare y = some .eq := beq_iff_eq

theorem less_finite_iff {a b : Bool} {m n : Nat} {hm : Representable m} {hn : Representable n} :
    (finite a m hm).less (finite b n hn) = true ↔
      (finite a m hm).scaled < (finite b n hn).scaled := by
  simp [less, compare, compare_lt_iff_lt]

theorem atMost_finite_iff {a b : Bool} {m n : Nat} {hm : Representable m} {hn : Representable n} :
    (finite a m hm).atMost (finite b n hn) = true ↔
      (finite a m hm).scaled ≤ (finite b n hn).scaled := by
  rw [atMost, Bool.or_eq_true, less_finite_iff, equals_iff, compare_finite_iff, le_iff_lt_or_eq]

/-! ## Reading by the lexer -/

/-- Every dialect reads the text of a number without a sign as one literal. -/
theorem yields_text {x : Number} (hfinite : x.isFinite = true) (hless : x.less zero = false)
    (dialect : Dialect) :
    (Lexer.ofChars dialect x.text).Yields [.number (if x = .negZero then .zero else x)] := by
  cases x with
  | nan => cases hfinite
  | infinite negative => cases hfinite
  | finite negative units h =>
      have hplain : ¬(negative ∧ units ≠ 0) := by
        rintro ⟨rfl, hunits⟩
        have hnegative : (finite true units h).less zero = true := by
          rw [zero, less_finite_iff, scaled, scaled]
          omega
        rw [hnegative] at hless
        cases hless
      have hlexes := @Source.lexes_number dialect [] (finite negative units h) Lexeme.closes_nil
      rw [List.append_nil, Source.number, Source.numberTokens, if_neg hplain] at hlexes
      rw [← neg_or_unsigned, if_neg hplain]
      exact Parser.yields_of_lexes hlexes

/-! ## The exact value of a text -/

/-- The texts of numbers and their exact values: a decimal literal, with or without a minus sign. -/
inductive ExactText : List Char → ℚ → Prop where
  | plain {w : List Char} {l : Literal} :
      DecimalText w l → ExactText w l.decimal.exact
  | minus {w : List Char} {l : Literal} :
      DecimalText w l → ExactText ('-' :: w) (-l.decimal.exact)

/-- The decimal value that the text of a finite number shows: the digits of the shortest decimal,
scaled by its exponent, with the sign of the number. -/
def shown : Number → ℚ
  | finite negative units _ =>
    if units = 0 then 0
    else if negative then -(shortest units).exact
    else (shortest units).exact
  | _ => 0

theorem exists_decimalText {units : Nat} (h : Representable units) :
    ∃ l, DecimalText (finite false units h).text l ∧
      l.decimal.exact = (finite false units h).shown := by
  rw [text, shown]
  split
  · refine ⟨_, .parts (Numeral.allDigits_zeros 1) .none (.inl (List.cons_ne_nil _ _)) .none, ?_⟩
    rw [Literal.decimal_of_no_exponent, List.append_nil, Numeral.value_zeros]
    simp [Decimal.exact]
  · next hne =>
      obtain ⟨l, hl⟩ := exists_shows_decimalText (significand_shortest_pos h hne)
      obtain ⟨l', htext, hdecimal⟩ := Lexeme.exists_decimalText_text hl.proper
      refine ⟨l', ?_, ?_⟩
      · rw [hl.text_eq] at htext
        exact htext
      · rw [hdecimal, hl.exact_eq]
        rfl

theorem exactText_text {x : Number} (hfinite : x.isFinite = true) : ExactText x.text x.shown := by
  cases x with
  | nan => cases hfinite
  | infinite negative => cases hfinite
  | finite negative units h =>
      obtain ⟨l, htext, hexact⟩ := exists_decimalText h
      rw [text_finite]
      split
      · next hminus =>
          obtain ⟨rfl, hunits⟩ := hminus
          have hshown : (finite true units h).shown = -(finite false units h).shown := by
            simp [shown, hunits]
          rw [hshown, ← hexact]
          exact .minus htext
      · next hplain =>
          have hshown : (finite negative units h).shown = (finite false units h).shown := by
            cases negative with
            | false => rfl
            | true =>
                obtain rfl : units = 0 := by simpa using hplain
                rfl
          rw [hshown, ← hexact]
          exact .plain htext

theorem not_decimalText_minus : ¬DecimalText ('-' :: w) l := by
  intro h
  have hspan := spanLiteral_decimalText h
  have hnone : spanLiteral ('-' :: w) = none := rfl
  rw [hnone] at hspan
  cases hspan

/-- A text has one exact value. -/
theorem exactText_unique {s : List Char} {q q' : ℚ} (h : ExactText s q) (h' : ExactText s q') :
    q = q' := by
  have hunique {w : List Char} {l l' : Literal} (h : DecimalText w l) (h' : DecimalText w l') :
      l = l' := by
    have hspan := spanLiteral_decimalText h
    rw [spanLiteral_decimalText h'] at hspan
    exact (Prod.mk.inj (Option.some.inj hspan)).1.symm
  cases h with
  | plain htext =>
      cases h' with
      | plain htext' => rw [hunique htext htext']
      | minus => exact absurd htext not_decimalText_minus
  | minus htext =>
      cases h' with
      | plain htext' => exact absurd htext' not_decimalText_minus
      | minus htext' => rw [hunique htext htext']

/-! ## Positional texts -/

/-- A decimal literal without an exponent, with or without a minus sign. -/
def IsPositional (s : List Char) : Prop :=
  ∃ w l, DecimalText w l ∧ l.exponent = [] ∧ (s = w ∨ s = '-' :: w)

theorem notMem_of_allDigits (h : AllDigits digits) : 'e' ∉ digits := fun hmem =>
  absurd (h _ hmem) (by decide)

theorem notMem_of_exponent_eq_nil (h : DecimalText w l) (hnil : l.exponent = []) : 'e' ∉ w := by
  cases h with
  | parts hwhole hpoint hdigit hscale =>
      cases hscale with
      | scale hmark hsign hdigits hnonempty => exact absurd hnil hnonempty
      | none =>
          cases hpoint with
          | none => simpa using notMem_of_allDigits hwhole
          | point hfraction =>
              simpa using ⟨notMem_of_allDigits hwhole, notMem_of_allDigits hfraction⟩

theorem exponent_eq_nil (h : DecimalText w l) (hlower : 'e' ∉ w) (hupper : 'E' ∉ w) :
    l.exponent = [] := by
  cases h with
  | parts hwhole hpoint hdigit hscale =>
      cases hscale with
      | none => rfl
      | scale hmark =>
          rcases hmark with rfl | rfl
          · simp at hlower
          · simp at hupper

/-- A text in digits, points, exponents and signs is positional if it has no exponent. -/
theorem isPositional_iff {s : List Char} {q : ℚ} (h : ExactText s q)
    (hnumeric : ∀ c ∈ s, IsNumeric c) : IsPositional s ↔ 'e' ∉ s := by
  constructor
  · rintro ⟨w, l, htext, hnil, hs⟩
    have hmem := notMem_of_exponent_eq_nil htext hnil
    rcases hs with rfl | rfl
    · exact hmem
    · simpa using hmem
  · intro hlower
    have hupper : 'E' ∉ s := fun hmem => absurd (hnumeric _ hmem) (by rw [IsNumeric]; decide)
    cases h with
    | plain htext => exact ⟨_, _, htext, exponent_eq_nil htext hlower hupper, .inl rfl⟩
    | @minus w l htext =>
        have hlower' : 'e' ∉ w := fun hmem => hlower (List.mem_cons_of_mem _ hmem)
        have hupper' : 'E' ∉ w := fun hmem => hupper (List.mem_cons_of_mem _ hmem)
        exact ⟨w, l, htext, exponent_eq_nil htext hlower' hupper', .inr rfl⟩

/-- The layout of a decimal has an exponent exactly if the point stands too far off. -/
theorem mem_decimalText : 'e' ∈ decimalText d ↔ ¬(-6 < d.pointPlace ∧ d.pointPlace ≤ 21) := by
  have hdigits : 'e' ∉ d.digits := notMem_of_allDigits Numeral.allDigits_decimal
  have hzeros (count : Nat) : 'e' ∉ zeros count := notMem_of_allDigits (Numeral.allDigits_zeros _)
  have hpos : 0 < d.digits.length := List.length_pos_iff.mpr Numeral.decimal_ne_nil
  unfold decimalText
  dsimp only
  split
  · next hwhole =>
      have hplace : -6 < d.pointPlace ∧ d.pointPlace ≤ 21 := by omega
      simp [hdigits, hzeros, hplace]
  split
  · next hsplit =>
      have hplace : -6 < d.pointPlace ∧ d.pointPlace ≤ 21 := by omega
      have htake : 'e' ∉ d.digits.take d.pointPlace.toNat :=
        fun hmem => hdigits (List.mem_of_mem_take hmem)
      have hdrop : 'e' ∉ d.digits.drop d.pointPlace.toNat :=
        fun hmem => hdigits (List.mem_of_mem_drop hmem)
      simp [htake, hdrop, hplace]
  split
  · next hfraction =>
      have hplace : -6 < d.pointPlace ∧ d.pointPlace ≤ 21 := by omega
      simp [hdigits, hzeros, hplace]
  · have hplace : ¬(-6 < d.pointPlace ∧ d.pointPlace ≤ 21) := by omega
    have hmem : 'e' ∈ exponentText (d.pointPlace - 1) := by
      unfold exponentText
      split
      · exact List.mem_cons_self
      · exact List.mem_cons_self
    exact iff_of_true (List.mem_append_right _ hmem) hplace

/-! ## The bounds of positional texts -/

/-- The least magnitude with a positional text: a millionth. -/
def positionalStart : Number := ofDecimal false 1 (-6)

/-- The end of the magnitudes with a positional text: a one and 21 zeros. -/
def positionalEnd : Number := ofDecimal false 1 21

theorem exists_positionalStart :
    ∃ units h, positionalStart = finite false units h ∧ shortest units = ⟨1, -6⟩ :=
  ⟨4722366482869645 * 2 ^ 1002, by decide +kernel, by decide +kernel, by decide +kernel⟩

theorem exists_positionalEnd :
    ∃ units h, positionalEnd = finite false units h ∧ shortest units = ⟨1, 21⟩ :=
  ⟨10 ^ 21 * unit, by decide +kernel, by decide +kernel, by decide +kernel⟩

/-- The point of the shortest decimal stands behind the place of a power of ten exactly if the
number reaches the number whose shortest decimal is the power. -/
theorem lt_pointPlace_shortest_iff {units bound : Nat} {place : Int} (hunits : Representable units)
    (hbound : Representable bound) (hne : units ≠ 0) (hshortest : shortest bound = ⟨1, place⟩) :
    place < (shortest units).pointPlace ↔ bound ≤ units := by
  have hpower : (shortest bound).exact = (10 : ℚ) ^ place := by
    rw [hshortest, Decimal.exact, Nat.cast_one, one_mul]
  rw [Decimal.lt_pointPlace_iff (significand_shortest_pos hunits hne), ← hpower]
  exact exact_shortest_le_iff hbound hunits

theorem isNumeric_text {x : Number} (hfinite : x.isFinite = true) : ∀ c ∈ x.text, IsNumeric c := by
  cases x with
  | nan => cases hfinite
  | infinite negative => cases hfinite
  | finite negative units h =>
      obtain ⟨l, hl⟩ := exists_denotes_text h
      have hnumeric := Literal.isNumeric_text hl.proper
      rw [text_finite, ← hl.text_eq]
      split
      · exact List.forall_mem_cons.mpr ⟨.inr (by decide), hnumeric⟩
      · exact hnumeric

/-- The text of a number is positional exactly from a millionth up to a one and 21 zeros, and for
zero. -/
theorem isPositional_text_iff {x : Number} (hfinite : x.isFinite = true) :
    IsPositional x.text ↔
      x.isZero = true ∨ positionalStart.atMost x.abs = true ∧ x.abs.less positionalEnd = true := by
  rw [isPositional_iff (exactText_text hfinite) (isNumeric_text hfinite)]
  cases x with
  | nan => cases hfinite
  | infinite negative => cases hfinite
  | finite negative units h =>
      have hmem : 'e' ∉ (finite negative units h).text ↔ 'e' ∉ (finite false units h).text := by
        rw [text_finite]
        split
        · simp
        · rfl
      obtain ⟨start, hstart, hstartEq, hstartShortest⟩ := exists_positionalStart
      obtain ⟨stop, hstop, hstopEq, hstopShortest⟩ := exists_positionalEnd
      rw [hmem, hstartEq, hstopEq, abs, atMost_finite_iff, less_finite_iff, text]
      by_cases hunits : units = 0
      · simp [hunits, isZero]
      · have hlow := lt_pointPlace_shortest_iff h hstart hunits hstartShortest
        have hhigh := lt_pointPlace_shortest_iff h hstop hunits hstopShortest
        rw [if_neg hunits, signText, if_neg Bool.false_ne_true, mem_decimalText, not_not, hlow,
          ← not_lt, ← not_lt, hhigh]
        simp [isZero, hunits, scaled]

/-! ## Reading back -/

/-- Only the zeros have a text in common. -/
theorem text_inj {x y : Number} (h : x.text = y.text) :
    x = y ∨ x.isZero = true ∧ y.isZero = true := by
  have hread : (if x = .negZero then Number.zero else x) =
      if y = .negZero then Number.zero else y := by
    rw [← ofText_text, h, ofText_text]
  by_cases hx : x = .negZero
  · by_cases hy : y = .negZero
    · exact .inl (hx.trans hy.symm)
    · rw [if_pos hx, if_neg hy] at hread
      exact .inr ⟨hx ▸ rfl, hread ▸ rfl⟩
  · by_cases hy : y = .negZero
    · rw [if_neg hx, if_pos hy] at hread
      exact .inr ⟨hread ▸ rfl, hy ▸ rfl⟩
    · rw [if_neg hx, if_neg hy] at hread
      exact .inl hread

/-- The text of a number is read back: by conversion, and in every dialect as one token if it has
no sign; zero alone loses its sign.  Its exact value is that of the shortest decimal, whose digits
have no superfluous zeros and round to the number.  It is positional for zero and from a millionth
up to a one and 21 zeros.  Numbers with one text are equal. -/
theorem text_reads_back :
    (∀ x : Number, ofText x.text = if x = .negZero then .zero else x) ∧
      (∀ (x : Number) (d : Dialect), x.isFinite = true → x.less zero = false →
        (Lexer.ofChars d x.text).Yields [.number (if x = .negZero then .zero else x)]) ∧
      (∀ (x : Number) (q : ℚ), x.isFinite = true → (ExactText x.text q ↔ q = x.shown)) ∧
      (∀ (units : Nat) (h : Representable units), units ≠ 0 →
        (shortest units).significand % 10 ≠ 0 ∧
          ofDecimal false (shortest units).significand (shortest units).exponent =
            finite false units h) ∧
      (∀ x : Number, x.isFinite = true →
        (IsPositional x.text ↔
          x.isZero = true ∨
            positionalStart.atMost x.abs = true ∧ x.abs.less positionalEnd = true)) ∧
      ∀ x y : Number, x.text = y.text → x = y ∨ x.isZero = true ∧ y.isZero = true := by
  refine ⟨ofText_text, ?_, ?_, ?_, ?_, ?_⟩
  · intro x d hfinite hless
    exact yields_text hfinite hless d
  · intro x q hfinite
    constructor
    · intro h
      exact exactText_unique h (exactText_text hfinite)
    · rintro rfl
      exact exactText_text hfinite
  · intro units h hne
    exact ⟨shortest_mod_ten h hne, ofDecimal_shortest h⟩
  · intro x hfinite
    exact isPositional_text_iff hfinite
  · intro x y h
    exact text_inj h

/-- A one and 21 zeros is the first magnitude that is written with an exponent. -/
theorem text_reads_back_positionalEnd :
    positionalEnd.text = "1e+21".toList ∧ ofText "1e+21".toList = positionalEnd ∧
      (Lexer.ofChars .basic "1e+21".toList).Yields [.number positionalEnd] ∧
      ExactText "1e+21".toList (10 ^ 21) ∧ ¬IsPositional "1e+21".toList ∧
      (shortest (10 ^ 21 * unit)).significand % 10 ≠ 0 ∧
      ∀ y : Number, "1e+21".toList = y.text → y = positionalEnd := by
  have htext : positionalEnd.text = "1e+21".toList := by decide +kernel
  have hfinite : positionalEnd.isFinite = true := by decide +kernel
  have hnonzero : positionalEnd ≠ .negZero := by decide +kernel
  have hless : positionalEnd.less zero = false := by decide +kernel
  have hend : positionalEnd.abs.less positionalEnd = false := by decide +kernel
  have hzero : positionalEnd.isZero = false := by decide +kernel
  have hrepresentable : Representable (10 ^ 21 * unit) := by decide +kernel
  have hunits : 10 ^ 21 * unit ≠ 0 := by decide +kernel
  have hshown : positionalEnd.shown = 10 ^ 21 := by
    have hvalue : positionalEnd = finite false _ hrepresentable := by decide +kernel +revert
    have hshortest : shortest (10 ^ 21 * unit) = ⟨1, 21⟩ := by decide +kernel
    rw [hvalue, shown, if_neg hunits, hshortest, Decimal.exact]
    norm_num
  obtain ⟨hread, hyields, hexact, hshortest, hpositional, hinj⟩ := text_reads_back
  have hread := hread positionalEnd
  have hyields := hyields positionalEnd .basic hfinite hless
  have hexact := (hexact positionalEnd (10 ^ 21) hfinite).mpr hshown.symm
  have hpositional := hpositional positionalEnd hfinite
  rw [htext, if_neg hnonzero] at hread hyields
  rw [htext] at hexact hpositional
  rw [hzero, hend] at hpositional
  refine ⟨htext, hread, hyields, hexact, by simpa using hpositional,
    (hshortest _ hrepresentable hunits).1, ?_⟩
  intro y hy
  rcases hinj positionalEnd y (htext.trans hy) with heq | ⟨hzero', -⟩
  · exact heq.symm
  · rw [hzero] at hzero'
    cases hzero'

end Number
end Guest
