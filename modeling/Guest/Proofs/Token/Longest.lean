import Guest.Proofs.Number.Nearest
import Guest.Proofs.Number.RoundTrip
import Guest.Proofs.Token.Lexical
import Guest.Proofs.Token.Tiling
import Mathlib.Computability.RegularExpressions

/-!
# The longest number literal

The number literals of a dialect are a regular language.  The scanner decides early whether a radix,
a fraction or an exponent follows and never goes back.  All the same it reads the longest prefix in
the language, provided that nothing that belongs to a number or to a word follows it, and fails
otherwise: what it has read beyond the longest prefix is of no other use.
-/

namespace Guest

namespace Number

/-! ## Regular expressions -/

/-- One character of a list. -/
def oneOf : List Char → RegularExpression Char
  | [] => 0
  | c :: rest => .char c + oneOf rest

/-- The expression once or more often. -/
def oneOrMore (p : RegularExpression Char) : RegularExpression Char := p * p.star

/-- The expression or nothing. -/
def optional (p : RegularExpression Char) : RegularExpression Char := 1 + p

/-- The decimal digits. -/
def digit : RegularExpression Char := oneOf "0123456789".toList

/-- A zero, a mark in lower or upper case, and digits of a radix. -/
def inRadix (lower upper : Char) (digits : List Char) : RegularExpression Char :=
  .char '0' * (oneOf [lower, upper] * oneOrMore (oneOf digits))

/-- `0[xX][0-9a-fA-F]+` -/
def hexadecimal : RegularExpression Char := inRadix 'x' 'X' "0123456789abcdefABCDEF".toList

/-- `0[bB][01]+` -/
def binary : RegularExpression Char := inRadix 'b' 'B' ['0', '1']

/-- `[eE][+-]?[0-9]+` -/
def scale : RegularExpression Char :=
  oneOf ['e', 'E'] * (optional (oneOf ['+', '-']) * oneOrMore digit)

/-- `([0-9]+([.][0-9]*)?|[.][0-9]+)([eE][+-]?[0-9]+)?` -/
def decimal : RegularExpression Char :=
  (oneOrMore digit * optional (.char '.' * digit.star) + .char '.' * oneOrMore digit) *
    optional scale

/-- The number literals of a dialect. -/
def literal (d : Dialect) : RegularExpression Char :=
  if d.isRich then hexadecimal + binary + decimal else hexadecimal + decimal

variable {d : Dialect} {p : RegularExpression Char} {w s : List Char} {cs : List Char} {c : Char}

theorem mem_oneOf : w ∈ (oneOf cs).matches' ↔ ∃ c ∈ cs, w = [c] := by
  induction cs with
  | nil => simp [oneOf]
  | cons c cs ih =>
      rw [oneOf, RegularExpression.matches'_add, Language.mem_add, ih, List.exists_mem_cons_iff]
      rfl

theorem mem_char : w ∈ (RegularExpression.char c).matches' ↔ w = [c] := Iff.rfl

theorem mem_optional : w ∈ (optional p).matches' ↔ w = [] ∨ w ∈ p.matches' := by
  simp [optional, Language.mem_add]

theorem mem_star_oneOf : w ∈ (oneOf cs).star.matches' ↔ ∀ c ∈ w, c ∈ cs := by
  rw [RegularExpression.matches'_star, Language.mem_kstar]
  constructor
  · rintro ⟨words, rfl, hwords⟩ c hc
    obtain ⟨word, hword, hc⟩ := List.mem_flatten.mp hc
    obtain ⟨a, ha, rfl⟩ := mem_oneOf.1 (hwords word hword)
    rwa [List.mem_singleton.mp hc]
  · intro h
    refine ⟨w.map fun c => [c], (List.flatMap_singleton' w).symm, ?_⟩
    intro word hword
    obtain ⟨c, hc, rfl⟩ := List.mem_map.mp hword
    exact mem_oneOf.2 ⟨c, h c hc, rfl⟩

theorem mem_oneOrMore_oneOf : w ∈ (oneOrMore (oneOf cs)).matches' ↔ w ≠ [] ∧ ∀ c ∈ w, c ∈ cs := by
  rw [oneOrMore, RegularExpression.matches'_mul, Language.mem_mul]
  constructor
  · rintro ⟨first, hfirst, rest, hrest, rfl⟩
    obtain ⟨c, hc, rfl⟩ := mem_oneOf.1 hfirst
    exact ⟨List.cons_ne_nil _ _, List.forall_mem_cons.mpr ⟨hc, mem_star_oneOf.1 hrest⟩⟩
  · rintro ⟨hnonempty, h⟩
    cases w with
    | nil => exact absurd rfl hnonempty
    | cons c w =>
        obtain ⟨hc, hw⟩ := List.forall_mem_cons.mp h
        exact ⟨[c], mem_oneOf.2 ⟨c, hc, rfl⟩, w, mem_star_oneOf.2 hw, rfl⟩

/-! ### Digits -/

theorem iff_mem_of_ascii (p : Char → Bool) (hp : p c = true → c.toNat ≤ 'z'.toNat)
    (hcs : ∀ a ∈ cs, p a = true)
    (h : ∀ n ≤ 'z'.toNat, p (Char.ofNat n) = true → Char.ofNat n ∈ cs) :
    p c = true ↔ c ∈ cs := by
  refine ⟨fun hc => ?_, hcs c⟩
  have hmem := h c.toNat (hp hc)
  rw [Char.ofNat_toNat] at hmem
  exact hmem hc

theorem isDecimalDigit_iff_mem : Numeral.isDecimalDigit c = true ↔ c ∈ "0123456789".toList := by
  refine iff_mem_of_ascii Numeral.isDecimalDigit ?_ (List.all_eq_true.mp rfl) (by decide)
  intro h
  rw [Numeral.isDecimalDigit, Bool.and_eq_true, decide_eq_true_iff, decide_eq_true_iff] at h
  exact Nat.le_trans h.2 (by decide)

theorem toNat_le_of_digitValue? {radix : Nat} (h : (Numeral.digitValue? radix c).isSome) :
    c.toNat ≤ 'z'.toNat := by
  by_contra hlarge
  have hbeyond {b : Char} (hb : b.toNat ≤ 'z'.toNat) : ¬c ≤ b := by
    intro hle
    exact hlarge (Nat.le_trans hle hb)
  have hdigit : ¬('0' ≤ c ∧ c ≤ '9') := fun hc => hbeyond (by decide) hc.2
  have hlower : ¬('a' ≤ c ∧ c ≤ 'z') := fun hc => hbeyond (by decide) hc.2
  have hupper : ¬('A' ≤ c ∧ c ≤ 'Z') := fun hc => hbeyond (by decide) hc.2
  simp [Numeral.digitValue?, hdigit, hlower, hupper] at h

theorem digitValue?_sixteen_iff_mem :
    (Numeral.digitValue? 16 c).isSome ↔ c ∈ "0123456789abcdefABCDEF".toList :=
  iff_mem_of_ascii (fun c => (Numeral.digitValue? 16 c).isSome) toNat_le_of_digitValue?
    (List.all_eq_true.mp rfl) (by decide)

theorem digitValue?_two_iff_mem : (Numeral.digitValue? 2 c).isSome ↔ c ∈ ['0', '1'] :=
  iff_mem_of_ascii (fun c => (Numeral.digitValue? 2 c).isSome) toNat_le_of_digitValue?
    (List.all_eq_true.mp rfl) (by decide)

theorem mem_star_digit : w ∈ digit.star.matches' ↔ Numeral.AllDigits w := by
  rw [digit, mem_star_oneOf]
  exact forall₂_congr fun c _ => isDecimalDigit_iff_mem.symm

theorem mem_oneOrMore_digit :
    w ∈ (oneOrMore digit).matches' ↔ w ≠ [] ∧ Numeral.AllDigits w := by
  rw [digit, mem_oneOrMore_oneOf]
  exact and_congr_right fun _ => forall₂_congr fun c _ => isDecimalDigit_iff_mem.symm

/-! ## The literals as a regular language -/

theorem mem_char_mul : w ∈ (RegularExpression.char c * p).matches' ↔
    ∃ rest, w = c :: rest ∧ rest ∈ p.matches' := by
  rw [RegularExpression.matches'_mul, Language.mem_mul]
  constructor
  · rintro ⟨first, hfirst, rest, hrest, rfl⟩
    obtain rfl := mem_char.1 hfirst
    exact ⟨rest, rfl, hrest⟩
  · rintro ⟨rest, rfl, hrest⟩
    exact ⟨[c], mem_char.2 rfl, rest, hrest, rfl⟩

theorem mem_oneOf_mul : w ∈ (oneOf cs * p).matches' ↔
    ∃ c ∈ cs, ∃ rest, w = c :: rest ∧ rest ∈ p.matches' := by
  rw [RegularExpression.matches'_mul, Language.mem_mul]
  constructor
  · rintro ⟨first, hfirst, rest, hrest, rfl⟩
    obtain ⟨c, hc, rfl⟩ := mem_oneOf.1 hfirst
    exact ⟨c, hc, rest, rfl, hrest⟩
  · rintro ⟨c, hc, rest, rfl, hrest⟩
    exact ⟨[c], mem_oneOf.2 ⟨c, hc, rfl⟩, rest, hrest, rfl⟩

theorem mem_fraction :
    w ∈ (optional (.char '.' * digit.star)).matches' ↔ ∃ fraction, FractionText w fraction := by
  rw [mem_optional, mem_char_mul]
  constructor
  · rintro (rfl | ⟨fraction, rfl, hfraction⟩)
    · exact ⟨[], .none⟩
    · exact ⟨fraction, .point (mem_star_digit.1 hfraction)⟩
  · rintro ⟨fraction, _ | hfraction⟩
    · exact .inl rfl
    · exact .inr ⟨fraction, rfl, mem_star_digit.2 hfraction⟩

theorem mem_sign :
    w ∈ (optional (oneOf ['+', '-'])).matches' ↔ ∃ negative, SignText w negative := by
  rw [mem_optional, mem_oneOf]
  constructor
  · rintro (rfl | ⟨c, hc, rfl⟩)
    · exact ⟨false, .none⟩
    · rcases List.mem_pair.mp hc with rfl | rfl
      · exact ⟨false, .plus⟩
      · exact ⟨true, .minus⟩
  · rintro ⟨negative, _ | _ | _⟩
    · exact .inl rfl
    · exact .inr ⟨'+', by decide, rfl⟩
    · exact .inr ⟨'-', by decide, rfl⟩

theorem mem_scale :
    w ∈ (optional scale).matches' ↔ ∃ negative digits, ExponentText w negative digits := by
  rw [mem_optional, scale, mem_oneOf_mul]
  constructor
  · rintro (rfl | ⟨mark, hmark, rest, rfl, hrest⟩)
    · exact ⟨false, [], .none⟩
    · rw [RegularExpression.matches'_mul, Language.mem_mul] at hrest
      obtain ⟨sign, hsign, digits, hdigits, rfl⟩ := hrest
      obtain ⟨negative, hsign⟩ := mem_sign.1 hsign
      obtain ⟨hnonempty, hdigits⟩ := mem_oneOrMore_digit.1 hdigits
      exact ⟨negative, digits, .scale (List.mem_pair.mp hmark) hsign hdigits hnonempty⟩
  · rintro ⟨negative, digits, _ | ⟨hmark, hsign, hdigits, hnonempty⟩⟩
    · exact .inl rfl
    · refine .inr ⟨_, List.mem_pair.mpr hmark, _, rfl, ?_⟩
      exact ⟨_, mem_sign.2 ⟨negative, hsign⟩, _,
        mem_oneOrMore_digit.2 ⟨hnonempty, hdigits⟩, rfl⟩

theorem mem_mantissa :
    w ∈ (oneOrMore digit * optional (.char '.' * digit.star) +
        .char '.' * oneOrMore digit).matches' ↔
      ∃ whole point fraction, w = whole ++ point ∧ Numeral.AllDigits whole ∧
        FractionText point fraction ∧ (whole ≠ [] ∨ fraction ≠ []) := by
  rw [RegularExpression.matches'_add, Language.mem_add, RegularExpression.matches'_mul,
    Language.mem_mul, mem_char_mul]
  constructor
  · rintro (⟨whole, hwhole, point, hpoint, rfl⟩ | ⟨fraction, rfl, hfraction⟩)
    · obtain ⟨hnonempty, hdigits⟩ := mem_oneOrMore_digit.1 hwhole
      obtain ⟨fraction, hpoint⟩ := mem_fraction.1 hpoint
      exact ⟨whole, point, fraction, rfl, hdigits, hpoint, .inl hnonempty⟩
    · obtain ⟨hnonempty, hdigits⟩ := mem_oneOrMore_digit.1 hfraction
      exact ⟨[], _, fraction, rfl, Numeral.allDigits_nil, .point hdigits, .inr hnonempty⟩
  · rintro ⟨whole, point, fraction, rfl, hdigits, hpoint, hdigit⟩
    by_cases hempty : whole = []
    · subst hempty
      cases hpoint with
      | none => exact absurd rfl (hdigit.resolve_left fun h => h rfl)
      | point hfraction =>
          have hnonempty : fraction ≠ [] := hdigit.resolve_left fun h => h rfl
          exact .inr ⟨fraction, rfl, mem_oneOrMore_digit.2 ⟨hnonempty, hfraction⟩⟩
    · exact .inl ⟨whole, mem_oneOrMore_digit.2 ⟨hempty, hdigits⟩, point,
        mem_fraction.2 ⟨fraction, hpoint⟩, rfl⟩

/-- The texts of decimal literals are those of the regular expression. -/
theorem mem_decimal : w ∈ decimal.matches' ↔ ∃ l, DecimalText w l := by
  rw [decimal, RegularExpression.matches'_mul, Language.mem_mul]
  constructor
  · rintro ⟨front, hfront, tail, htail, rfl⟩
    obtain ⟨whole, point, fraction, rfl, hwhole, hpoint, hdigit⟩ := mem_mantissa.1 hfront
    obtain ⟨negative, digits, hscale⟩ := mem_scale.1 htail
    rw [List.append_assoc]
    exact ⟨_, .parts hwhole hpoint hdigit hscale⟩
  · rintro ⟨_, hwhole, hpoint, hdigit, hscale⟩
    exact ⟨_, mem_mantissa.2 ⟨_, _, _, rfl, hwhole, hpoint, hdigit⟩, _,
      mem_scale.2 ⟨_, _, hscale⟩, List.append_assoc _ _ _⟩

theorem mem_inRadix {radix : Nat} {lower upper : Char}
    (h : ∀ c, (Numeral.digitValue? radix c).isSome ↔ c ∈ cs) :
    w ∈ (inRadix lower upper cs).matches' ↔
      ∃ mark digits, w = '0' :: mark :: digits ∧ (mark = lower ∨ mark = upper) ∧ digits ≠ [] ∧
        AllDigitsOf radix digits := by
  have hdigits {digits : List Char} : AllDigitsOf radix digits ↔ ∀ c ∈ digits, c ∈ cs :=
    forall₂_congr fun c _ => h c
  rw [inRadix, mem_char_mul]
  simp only [mem_oneOf_mul, mem_oneOrMore_oneOf, List.mem_pair, hdigits]
  constructor
  · rintro ⟨_, rfl, mark, hmark, digits, rfl, hnonempty, hall⟩
    exact ⟨mark, digits, rfl, hmark, hnonempty, hall⟩
  · rintro ⟨mark, digits, rfl, hmark, hnonempty, hall⟩
    exact ⟨_, rfl, mark, hmark, digits, rfl, hnonempty, hall⟩

theorem mem_hexadecimal : w ∈ hexadecimal.matches' ↔
    ∃ mark digits, w = '0' :: mark :: digits ∧ (mark = 'x' ∨ mark = 'X') ∧ digits ≠ [] ∧
      AllDigitsOf 16 digits :=
  mem_inRadix fun _ => digitValue?_sixteen_iff_mem

theorem mem_binary : w ∈ binary.matches' ↔
    ∃ mark digits, w = '0' :: mark :: digits ∧ (mark = 'b' ∨ mark = 'B') ∧ digits ≠ [] ∧
      AllDigitsOf 2 digits :=
  mem_inRadix fun _ => digitValue?_two_iff_mem

open Lexeme (NumberText)

/-- The texts of number literals are those of the regular expression. -/
theorem mem_literal : w ∈ (literal d).matches' ↔ ∃ x, NumberText d w x := by
  have hhexadecimal (h : w ∈ hexadecimal.matches') : ∃ x, NumberText d w x := by
    obtain ⟨mark, digits, rfl, hmark, hnonempty, hdigits⟩ := mem_hexadecimal.1 h
    exact ⟨_, .radix (.hexadecimal hmark) hdigits hnonempty⟩
  have hdecimal (h : w ∈ decimal.matches') : ∃ x, NumberText d w x := by
    obtain ⟨l, hl⟩ := mem_decimal.1 h
    exact ⟨_, .decimal hl⟩
  constructor
  · intro h
    unfold literal at h
    split at h
    · next hrich =>
        rcases h with (h | h) | h
        · exact hhexadecimal h
        · obtain ⟨mark, digits, rfl, hmark, hnonempty, hdigits⟩ := mem_binary.1 h
          exact ⟨_, .radix (.binary hmark hrich) hdigits hnonempty⟩
        · exact hdecimal h
    · rcases h with h | h
      · exact hhexadecimal h
      · exact hdecimal h
  · rintro ⟨x, hl | ⟨hmark | ⟨hmark, hrich⟩, hdigits, hnonempty⟩⟩
    · have h := mem_decimal.2 ⟨_, hl⟩
      unfold literal
      split
      · exact .inr h
      · exact .inr h
    · have h := mem_hexadecimal.2 ⟨_, _, rfl, hmark, hnonempty, hdigits⟩
      unfold literal
      split
      · exact .inl (.inl h)
      · exact .inl h
    · have h := mem_binary.2 ⟨_, _, rfl, hmark, hnonempty, hdigits⟩
      rw [literal, if_pos hrich]
      exact .inl (.inr h)

end Number

namespace Lexeme

open Number (AllDigitsOf DecimalText decimal mem_decimal mem_literal literal)

variable {d : Dialect} {L : Language Char} {s v w whole fraction after : List Char} {n : Nat}
  {x : Number}

/-! ## Longest prefixes -/

/-- The text `w` is the longest one in a language with which `s` starts. -/
structure IsLongest (L : Language Char) (s w : List Char) : Prop where
  mem : w ∈ L
  starts : w <+: s
  longest : ∀ v ∈ L, v <+: s → v.length ≤ w.length

theorem exists_isLongest (hv : v ∈ L) (hs : v <+: s) : ∃ w, IsLongest L s w := by
  classical
  let n := Nat.findGreatest (fun n => s.take n ∈ L) s.length
  have hn : n ≤ s.length := Nat.findGreatest_le _
  have hfirst : s.take v.length ∈ L := by rwa [← List.prefix_iff_eq_take.mp hs]
  refine ⟨s.take n, ?_, List.take_prefix _ _, ?_⟩
  · exact Nat.findGreatest_spec (P := fun n => s.take n ∈ L) hs.length_le hfirst
  · intro u hu hus
    rw [List.length_take, Nat.min_eq_left hn]
    refine Nat.le_findGreatest hus.length_le ?_
    rwa [← List.prefix_iff_eq_take.mp hus]

theorem IsLongest.split (h : IsLongest L s w) : s = w ++ s.drop w.length :=
  List.prefix_append_drop h.starts

/-- Where a number starts, its first digit is a literal already. -/
theorem exists_numeral_of_startsNumber (d : Dialect) (h : startsNumber s = true) :
    ∃ v ∈ (literal d).matches', v <+: s := by
  have hdigit {c : Char} (h : Numeral.isDecimalDigit c = true) : Numeral.AllDigits [c] := by
    intro a ha
    rwa [List.mem_singleton.mp ha]
  unfold startsNumber at h
  split at h
  · next c rest =>
      have htext := DecimalText.parts Numeral.allDigits_nil (.point (hdigit h))
        (.inr (List.cons_ne_nil _ _)) .none
      exact ⟨['.', c], mem_literal.2 ⟨_, .decimal htext⟩, rest, rfl⟩
  · next c rest _ =>
      have htext := DecimalText.parts (hdigit h) .none (.inl (List.cons_ne_nil _ _)) .none
      exact ⟨[c], mem_literal.2 ⟨_, .decimal htext⟩, rest, rfl⟩
  · cases h

/-! ## The outcomes of the scanner -/

/-- What is read as a number is a number or a literal that is wrong. -/
def IsNumeral (lexeme : Lexeme) : Prop :=
  (∃ x, lexeme.outcome = .ok (.number x)) ∨ ∃ text, lexeme.outcome = .error (.malformed text)

theorem isNumeral_malformed : (malformed s n).IsNumeral := .inr ⟨_, rfl⟩

theorem isNumeral_numberOf : (numberOf s n x).IsNumeral := by
  unfold numberOf
  split
  · split
    · exact isNumeral_malformed
    · exact .inl ⟨x, rfl⟩
  · exact .inl ⟨x, rfl⟩

theorem isNumeral_radixNumber {radix : Nat} : (radixNumber radix s).IsNumeral := by
  rw [radixNumber]
  split
  · exact isNumeral_malformed
  · exact isNumeral_numberOf

theorem isNumeral_decimalOf {exponent : List Char} :
    (decimalOf s whole fraction exponent n).IsNumeral := by
  unfold decimalOf
  split
  · exact isNumeral_numberOf
  · exact isNumeral_malformed

theorem isNumeral_exponentPart : (exponentPart s whole fraction n after).IsNumeral := by
  unfold exponentPart
  dsimp only
  split
  · split
    · split
      · exact isNumeral_malformed
      · exact isNumeral_decimalOf
    · exact isNumeral_decimalOf
  · exact isNumeral_decimalOf

theorem isNumeral_decimalNumber : (decimalNumber s).IsNumeral := by
  unfold decimalNumber
  dsimp only
  split
  · exact isNumeral_malformed
  · exact isNumeral_exponentPart

theorem isNumeral_number : (number d s).IsNumeral := by
  unfold number
  split
  · split
    · exact isNumeral_radixNumber
    split
    · exact isNumeral_radixNumber
    · exact isNumeral_decimalNumber
  · exact isNumeral_decimalNumber

/-! ## The scanner and the longest literal -/

/-- Where the longest literal runs into something, no number is read: a shorter literal would be
read in front of the rest of the longest one, which by itself is read as a whole. -/
theorem closes_of_number_ok (hs : startsNumber s = true)
    (hw : IsLongest (literal d).matches' s w) {t : Token} (h : (number d s).outcome = .ok t) :
    Closes (s.drop w.length) := by
  have hread : number d s = ⟨(number d s).length, .ok t⟩ := by rw [← h]
  obtain ⟨v, tail, x, hsplit, -, hv, htail, -⟩ := exists_numberText hs hread
  obtain ⟨y, hy⟩ := mem_literal.1 hw.mem
  have hvs : v <+: s := ⟨tail, hsplit.symm⟩
  have hle : v.length ≤ w.length := hw.longest v (mem_literal.2 ⟨x, hv⟩) hvs
  obtain ⟨more, rfl⟩ := List.prefix_of_prefix_length_le hvs hw.starts hle
  have hdrop : more ++ s.drop (v ++ more).length = tail := by
    have hsplit' := hw.split
    rw [hsplit, List.append_assoc] at hsplit'
    rw [hsplit]
    exact (List.append_cancel_left hsplit').symm
  cases more with
  | nil =>
      rw [List.nil_append] at hdrop
      rwa [hdrop]
  | cons c more =>
      rw [← hdrop, List.cons_append] at htail
      have hclose : Closes (c :: more) := closes_cons.mpr (closes_cons.mp htail)
      have hshort := number_numberText hv hclose
      have hlong := number_numberText hy closes_nil
      rw [List.append_nil, hshort] at hlong
      have hlength := congrArg length hlong
      simp at hlength

theorem scan_eq_number (h : startsNumber s = true) : scan d s = number d s := by
  cases s with
  | nil => cases h
  | cons c rest => exact if_pos h

/-- The number of a decimal literal is the one nearest to its exact value. -/
theorem nearest_of_numberText (h : NumberText d w x) (hw : w ∈ decimal.matches') :
    ∃ q, Number.ExactText w q ∧ Number.Nearest q x := by
  obtain ⟨l, hl⟩ := mem_decimal.1 hw
  -- The scanner reads the literal in one way, so the rule behind `h` is that of decimals.
  obtain rfl : l.value = x := NumberText.unique (.decimal hl) h
  exact ⟨_, .plain hl, Number.nearest_ofDecimal l.decimal⟩

end Lexeme

namespace Lexer

open Lexeme
open Number (decimal mem_literal literal ExactText Nearest)

variable {lexer : Lexer} {gap s w : List Char}

/-- Where a number starts behind blanks, a literal that nothing runs into is the next token. -/
theorem next_of_longest (hrest : lexer.rest = gap ++ s)
    (hgap : ∀ c ∈ gap, Text.isBlank c = true) (hs : startsNumber s = true)
    (hw : IsLongest (literal lexer.dialect).matches' s w) (hclose : Closes (s.drop w.length)) :
    ∃ x, NumberText lexer.dialect w x ∧
      lexer.next =
        (.ok ⟨.number x, lexer.position.advance gap, (lexer.position.advance gap).advance w⟩,
          { lexer with
            rest := s.drop w.length
            position := (lexer.position.advance gap).advance w }) := by
  obtain ⟨x, hx⟩ := mem_literal.1 hw.mem
  refine ⟨x, hx, next_of_front ⟨?_, hgap, ?_, scan_numberText hx hclose⟩⟩
  · rwa [← hw.split]
  · rw [← hw.split]
    exact not_isBlank_of_startsNumber hs

/-- Where something runs into the longest literal, the literal is wrong. -/
theorem next_of_not_closes (hrest : lexer.rest = gap ++ s)
    (hgap : ∀ c ∈ gap, Text.isBlank c = true) (hs : startsNumber s = true)
    (hw : IsLongest (literal lexer.dialect).matches' s w) (hopen : ¬Closes (s.drop w.length)) :
    ∃ text, lexer.next.1 = .error ⟨.malformed text, lexer.position.advance gap⟩ := by
  have hscan : scan lexer.dialect s = number lexer.dialect s := scan_eq_number hs
  rcases @isNumeral_number lexer.dialect s with ⟨x, hx⟩ | ⟨text, htext⟩
  · exact absurd (closes_of_number_ok hs hw hx) hopen
  · cases s with
    | nil => cases hs
    | cons c rest =>
        have hc : Text.isBlank c = false := not_isBlank_of_startsNumber hs c rfl
        exact ⟨text, next_of_fault hrest hgap hc (by rw [hscan, htext])⟩

/-- The scanner reads number literals exactly.  Where a token starts with a digit, or with a point
and a digit, there is a longest literal of the dialect.  If no part of a name and no point follows
it, it is the next token; otherwise the lexer fails at its start.  A decimal literal is read as the
number nearest to its exact value. -/
theorem next_reads_longest_number (hrest : lexer.rest = gap ++ s)
    (hgap : ∀ c ∈ gap, Text.isBlank c = true) (hs : startsNumber s = true) :
    (∃ w, IsLongest (literal lexer.dialect).matches' s w) ∧
    ∀ w, IsLongest (literal lexer.dialect).matches' s w →
      (Closes (s.drop w.length) →
        ∃ x, lexer.next =
            (.ok ⟨.number x, lexer.position.advance gap, (lexer.position.advance gap).advance w⟩,
              { lexer with
                rest := s.drop w.length
                position := (lexer.position.advance gap).advance w }) ∧
          (w ∈ decimal.matches' → ∃ q, ExactText w q ∧ Nearest q x)) ∧
      (¬Closes (s.drop w.length) →
        ∃ text, lexer.next.1 = .error ⟨.malformed text, lexer.position.advance gap⟩) := by
  obtain ⟨v, hv, hvs⟩ := exists_numeral_of_startsNumber lexer.dialect hs
  refine ⟨exists_isLongest hv hvs, fun w hw => ⟨fun hclose => ?_, ?_⟩⟩
  · obtain ⟨x, hx, hnext⟩ := next_of_longest hrest hgap hs hw hclose
    exact ⟨x, hnext, nearest_of_numberText hx⟩
  · exact next_of_not_closes hrest hgap hs hw

theorem next_reads_point_and_exponent :
    (∃ x, (Lexer.ofString .basic " 1.e5").next =
        (.ok ⟨.number x, ⟨1, 1, 2⟩, ⟨5, 1, 6⟩⟩,
          ⟨.basic, " 1.e5".toList, [], ⟨5, 1, 6⟩, false⟩) ∧
      ∃ q, ExactText "1.e5".toList q ∧ Nearest q x) ∧
    ∃ text, (Lexer.ofString .basic " 12e+").next.1 = .error ⟨.malformed text, ⟨1, 1, 2⟩⟩ := by
  have hblank : ∀ c ∈ [' '], Text.isBlank c = true := List.all_eq_true.mp rfl
  constructor
  · have hlongest : IsLongest (RegularExpression.matches' (literal .basic)) "1.e5".toList
        "1.e5".toList :=
      ⟨by decide, List.prefix_rfl, fun v _ hv => hv.length_le⟩
    obtain ⟨x, hnext, hnearest⟩ :=
      ((@next_reads_longest_number (Lexer.ofString .basic " 1.e5") [' '] _ rfl hblank rfl).2 _
        hlongest).1 closes_nil
    exact ⟨x, hnext, hnearest (by decide)⟩
  · have hlongest : IsLongest (RegularExpression.matches' (literal .basic)) "12e+".toList
        "12".toList := by
      refine ⟨by decide, by decide, fun v hv hstarts => ?_⟩
      have hall : ∀ v ∈ "12e+".toList.inits, v ∈ (literal .basic).matches' → v.length ≤ 2 := by
        decide
      exact hall v ((List.mem_inits _ _).mpr hstarts) hv
    exact ((@next_reads_longest_number (Lexer.ofString .basic " 12e+") [' '] _ rfl hblank rfl).2 _
      hlongest).2 (fun h => absurd (h 'e' rfl).1 (by decide))

end Lexer
end Guest
