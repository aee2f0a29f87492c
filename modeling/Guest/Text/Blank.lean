import Guest.Text.Ranges

/-!
# Blanks

Whitespace, control characters, and the removal of whitespace at the ends of a text.
-/

namespace Guest

namespace Text

/-- The code points with the property White_Space. -/
def blankRanges : List (Nat × Nat) := [
  (0x9, 0xD), (0x20, 0x20), (0x85, 0x85), (0xA0, 0xA0), (0x1680, 0x1680), (0x2000, 0x200A),
  (0x2028, 0x2029), (0x202F, 0x202F), (0x205F, 0x205F), (0x3000, 0x3000)]

/-- Tells whitespace. -/
def isBlank (c : Char) : Bool := inRanges blankRanges c.toNat

/-- Tells control characters. -/
def isControl (c : Char) : Bool := c.toNat ≤ 0x1F || (0x7F ≤ c.toNat && c.toNat ≤ 0x9F)

/-- The text without the characters at its front that satisfy `p`. -/
def trimStartBy (p : Char → Bool) (s : List Char) : List Char := s.dropWhile p

/-- The text without the characters at its end that satisfy `p`. -/
def trimEndBy (p : Char → Bool) (s : List Char) : List Char :=
  (s.reverse.dropWhile p).reverse

/-- The text without the characters at both ends that satisfy `p`. -/
def trimBy (p : Char → Bool) (s : List Char) : List Char := trimEndBy p (trimStartBy p s)

theorem trimBy_eq_self {p : Char → Bool} {s : List Char} (h : ∀ c ∈ s, p c = false) :
    trimBy p s = s := by
  have hdropWhile {s : List Char} (h : ∀ c ∈ s, p c = false) : s.dropWhile p = s := by
    cases s with
    | nil => rfl
    | cons c rest => exact List.dropWhile_cons_of_neg (by simp [h c List.mem_cons_self])
  have hreverse : ∀ c ∈ s.reverse, p c = false := fun c hc => h c (List.mem_reverse.mp hc)
  rw [trimBy, trimStartBy, trimEndBy, hdropWhile h, hdropWhile hreverse, List.reverse_reverse]

/-- The text without whitespace at its front. -/
def trimStart (s : List Char) : List Char := trimStartBy isBlank s

/-- The text without whitespace at its end. -/
def trimEnd (s : List Char) : List Char := trimEndBy isBlank s

/-- The text without whitespace at both ends. -/
def trim (s : List Char) : List Char := trimBy isBlank s

end Text

end Guest
