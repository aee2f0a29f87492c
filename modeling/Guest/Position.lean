/-!
# Positions

Where a character stands in a text.
-/

namespace Guest

/-- A place in a text: how many characters precede it, its line, and its column in the line. -/
structure Position where
  offset : Nat
  /-- The line, from 1. -/
  line : Nat
  /-- The column, from 1. -/
  column : Nat
  deriving DecidableEq, Repr

namespace Position

/-- The start of a text. -/
def start : Position := ⟨0, 1, 1⟩

/-- The place after one more character. -/
def step (p : Position) (c : Char) : Position :=
  if c = '\n' then ⟨p.offset + 1, p.line + 1, 1⟩ else ⟨p.offset + 1, p.line, p.column + 1⟩

/-- The place after more characters. -/
def advance (p : Position) (passed : List Char) : Position := passed.foldl step p

variable {p : Position} {passed more : List Char}

theorem offset_step (p : Position) (c : Char) : (p.step c).offset = p.offset + 1 := by
  unfold step
  split
  · rfl
  · rfl

theorem offset_advance (p : Position) (passed : List Char) :
    (p.advance passed).offset = p.offset + passed.length := by
  unfold advance
  induction passed generalizing p with
  | nil => rfl
  | cons c passed ih =>
      rw [List.foldl_cons, ih, offset_step, List.length_cons]
      omega

theorem advance_append : p.advance (passed ++ more) = (p.advance passed).advance more :=
  List.foldl_append

theorem advance_concat {c : Char} : p.advance (passed ++ [c]) = (p.advance passed).step c :=
  advance_append

/-- The position in words. -/
def describe (p : Position) : String := s!"line {p.line}, column {p.column}"

end Position

end Guest
