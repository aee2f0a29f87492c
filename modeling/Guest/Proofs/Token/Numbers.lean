import Guest.Proofs.Number.Literals
import Guest.Proofs.Token.Progress

/-!
# Where numbers end

A number and a word end where the text ends or a character follows that can belong to neither.
What the parts of the scanner of numbers read there follows from the first character alone.
-/

namespace Guest
namespace Lexeme

variable {s rest tail digits fraction : List Char} {c : Char}

/-- The first character of a text, if there is one, satisfies `p`. -/
def Starts (p : Char → Prop) (s : List Char) : Prop := ∀ c ∈ s.head?, p c

/-- A text at whose front a number or a word before it ends: nothing, or a character that
continues neither. -/
def Closes (tail : List Char) : Prop := Starts (fun c => isNamePart c = false ∧ c ≠ '.') tail

variable {p : Char → Prop}

theorem starts_nil : Starts p [] := fun _ hc => nomatch hc

theorem starts_cons : Starts p (c :: rest) ↔ p c := by
  constructor
  · intro h
    exact h c rfl
  · rintro h c ⟨rfl⟩
    exact h

theorem closes_nil : Closes [] := starts_nil

theorem closes_cons : Closes (c :: rest) ↔ isNamePart c = false ∧ c ≠ '.' := starts_cons

theorem starts_append (hs : Starts p s) (htail : Starts p tail) : Starts p (s ++ tail) := by
  cases s with
  | nil => exact htail
  | cons c rest => exact hs

theorem starts_of_closes (h : Closes tail) (hp : ∀ c, isNamePart c = false → c ≠ '.' → p c) :
    Starts p tail :=
  fun c hc => hp c (h c hc).1 (h c hc).2

theorem starts_of_allDigits (h : Numeral.AllDigits digits)
    (hp : ∀ c, Numeral.isDecimalDigit c = true → p c) : Starts p digits :=
  fun c hc => hp c (h c (List.mem_of_mem_head? hc))

variable {front : List Char} {keep : Char → Bool}

theorem takeWhile_append_of_starts (hfront : ∀ c ∈ front, keep c = true)
    (hs : Starts (fun c => keep c = false) s) : (front ++ s).takeWhile keep = front := by
  rw [List.takeWhile_append_of_pos hfront]
  cases s with
  | nil => rw [List.takeWhile_nil, List.append_nil]
  | cons c rest =>
      rw [List.takeWhile_cons_of_neg (Bool.eq_false_iff.mp (starts_cons.mp hs)), List.append_nil]

theorem dropWhile_append_of_starts (hfront : ∀ c ∈ front, keep c = true)
    (hs : Starts (fun c => keep c = false) s) : (front ++ s).dropWhile keep = s := by
  rw [List.dropWhile_append_of_pos hfront]
  cases s with
  | nil => rfl
  | cons c rest => exact List.dropWhile_cons_of_neg (Bool.eq_false_iff.mp (starts_cons.mp hs))

/-! ## Digits and marks -/

/-- A character that is no decimal digit. -/
abbrev NoDigit (c : Char) : Prop := Numeral.isDecimalDigit c = false

theorem isNamePart_of_isDecimalDigit (h : Numeral.isDecimalDigit c = true) :
    isNamePart c = true := by
  have hall : ∀ n ≤ 57, 48 ≤ n →
      (Text.inRanges Text.alphabeticRanges n || Text.inRanges Text.numericRanges n) = true := by
    decide
  rw [Numeral.isDecimalDigit, Bool.and_eq_true] at h
  have hc := hall _ (of_decide_eq_true h.2) (of_decide_eq_true h.1)
  simp only [isNamePart, Bool.or_eq_true]
  exact .inl (.inl hc)

theorem noDigit_of_not_isNamePart (h : isNamePart c = false) : NoDigit c := by
  by_contra hdigit
  rw [isNamePart_of_isDecimalDigit (Bool.of_not_eq_false hdigit)] at h
  cases h

theorem spanDigits_append (h : Numeral.AllDigits digits) (htail : Starts NoDigit tail) :
    Number.spanDigits (digits ++ tail) = (digits, tail) := by
  rw [Number.spanDigits, takeWhile_append_of_starts h htail, dropWhile_append_of_starts h htail]

theorem numberOf_append (htail : Closes tail) {x : Number} :
    numberOf (s ++ tail) s.length x = ⟨s.length, .ok (.number x)⟩ := by
  rw [numberOf, List.drop_left]
  cases tail with
  | nil => rfl
  | cons c rest =>
      obtain ⟨hpart, hpoint⟩ := closes_cons.mp htail
      simp [hpart, hpoint]

theorem decimal_of_no_digits {whole : List Char} {negative : Bool} :
    (Number.Literal.mk whole fraction negative []).decimal =
      (Number.Literal.mk whole fraction false []).decimal := by
  cases negative <;> rfl

theorem no_scale_mark (h : isNamePart c = false) : ¬(c = 'e' ∨ c = 'E') := by
  rintro (rfl | rfl)
  · exact absurd h (by decide)
  · exact absurd h (by decide)

variable {l : Number.Literal}

theorem text_append : l.text ++ tail = l.whole ++ (Number.Literal.fractionText l.fraction ++
    (Number.Literal.scaleText l.exponentNegative l.exponent ++ tail)) := by
  rw [Number.Literal.text, List.append_assoc, List.append_assoc]

/-- A character that does not introduce a radix behind a zero. -/
abbrev NoMark (c : Char) : Prop := ¬(c = 'x' ∨ c = 'X') ∧ ¬(c = 'b' ∨ c = 'B')

theorem noMark_of_ne {p : Char → Bool} {b : Bool}
    (hp : (p 'x' ≠ b ∧ p 'X' ≠ b) ∧ p 'b' ≠ b ∧ p 'B' ≠ b) (h : p c = b) : NoMark c := by
  constructor
  · rintro (rfl | rfl)
    · exact hp.1.1 h
    · exact hp.1.2 h
  · rintro (rfl | rfl)
    · exact hp.2.1 h
    · exact hp.2.2 h

theorem noMark_of_isDecimalDigit (h : Numeral.isDecimalDigit c = true) : NoMark c :=
  noMark_of_ne (by decide) h

theorem noMark_of_not_isNamePart (h : isNamePart c = false) : NoMark c :=
  noMark_of_ne (by decide) h

theorem startsNumber_of_isDecimalDigit (h : Numeral.isDecimalDigit c = true) :
    startsNumber (c :: rest) = true := by
  unfold startsNumber
  split
  · next heq =>
      cases heq
      exact absurd h (by decide)
  · next heq =>
      cases heq
      exact h
  · next heq => cases heq

theorem starts_of_startsNumber (h : startsNumber s = true) (hpoint : p '.')
    (hdigit : ∀ c, Numeral.isDecimalDigit c = true → p c) : Starts p s := by
  unfold startsNumber at h
  split at h
  · exact starts_cons.mpr hpoint
  · exact starts_cons.mpr (hdigit _ h)
  · cases h

end Lexeme
end Guest
