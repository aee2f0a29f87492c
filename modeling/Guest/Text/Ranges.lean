/-!
# Ranges of characters

A property of characters is given by the ranges of code points that have it, in increasing order.
-/

namespace Guest

namespace Text

/-- Looks a code point up in a list of disjoint ranges in increasing order. -/
def inRanges : List (Nat × Nat) → Nat → Bool
  | [], _ => false
  | (first, last) :: rest, code =>
    if code < first then false else code ≤ last || inRanges rest code

end Text

end Guest
