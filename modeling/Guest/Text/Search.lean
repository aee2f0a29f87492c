/-!
# Searching text

Occurrences of one text in another, and what is built on them: splitting, replacing and joining.
Matches are found from the left and do not overlap.  A text is searched by its characters or by its
bytes.
-/

namespace Guest

namespace Text

section

variable {α : Type} [DecidableEq α]

/-- What follows `p` in a text that starts with it. -/
def dropFront? : List α → List α → Option (List α)
  | [], s => some s
  | _ :: _, [] => none
  | a :: p, b :: s => if a = b then dropFront? p s else none

/-- Tells whether a text starts with `p`. -/
def startsWith (p s : List α) : Bool := (dropFront? p s).isSome

theorem startsWith_iff {p s : List α} : startsWith p s = true ↔ p <+: s := by
  induction p generalizing s with
  | nil => simp [startsWith, dropFront?]
  | cons a p ih =>
    cases s with
    | nil => simp [startsWith, dropFront?]
    | cons b s =>
      rw [List.cons_prefix_cons, ← ih, startsWith, dropFront?, startsWith]
      split
      · next h => simp [h]
      · next h => simp [h]

/-- Tells whether a text ends with `p`. -/
def endsWith (p s : List α) : Bool := startsWith p.reverse s.reverse

/-- The least index at which `p` occurs. -/
def indexOf? (p : List α) : List α → Option Nat
  | [] => if p.isEmpty then some 0 else none
  | c :: rest =>
    if startsWith p (c :: rest) then some 0 else (indexOf? p rest).map (· + 1)

/-- The greatest index at which `p` occurs. -/
def lastIndexOf? (p : List α) : List α → Option Nat
  | [] => if p.isEmpty then some 0 else none
  | c :: rest =>
    match lastIndexOf? p rest with
    | some i => some (i + 1)
    | none => if startsWith p (c :: rest) then some 0 else none

/-- Tells whether `p` occurs. -/
def contains (p : List α) : List α → Bool
  | [] => p.isEmpty
  | c :: rest => startsWith p (c :: rest) || contains p rest

end

/-- What precedes and what follows the first occurrence of `p`. -/
def splitFirst? (p s : List Char) : Option (List Char × List Char) :=
  (indexOf? p s).map fun i => (s.take i, s.drop (i + p.length))

/-- Puts a character before the first piece. -/
def consPiece (c : Char) : List (List Char) → List (List Char)
  | [] => [[c]]
  | piece :: more => (c :: piece) :: more

/-- The pieces between the occurrences of `p`, after the first `skip` characters, which belong to
the last occurrence. -/
def piecesFrom (p : List Char) : Nat → List Char → List (List Char)
  | _, [] => [[]]
  | skip + 1, _ :: rest => piecesFrom p skip rest
  | 0, c :: rest =>
    if startsWith p (c :: rest) then [] :: piecesFrom p (p.length - 1) rest
    else consPiece c (piecesFrom p 0 rest)

/-- The pieces of a text between the occurrences of a nonempty text `p`. -/
def splitOn (p s : List Char) : List (List Char) := piecesFrom p 0 s

/-- The pieces with `separator` between neighbours. -/
def join (separator : List Char) : List (List Char) → List Char
  | [] => []
  | [piece] => piece
  | piece :: more => piece ++ separator ++ join separator more

/-- The text with `replacement` for its first occurrence of `p`. -/
def replaceFirst (p replacement : List Char) : List Char → List Char
  | [] => if p.isEmpty then replacement else []
  | c :: rest =>
    match dropFront? p (c :: rest) with
    | some after => replacement ++ after
    | none => c :: replaceFirst p replacement rest

/-- Replaces the occurrences of `p` after the first `skip` characters, which belong to the last
occurrence. -/
def replaceFrom (p replacement : List Char) : Nat → List Char → List Char
  | _, [] => []
  | skip + 1, _ :: rest => replaceFrom p replacement skip rest
  | 0, c :: rest =>
    if startsWith p (c :: rest) then replacement ++ replaceFrom p replacement (p.length - 1) rest
    else c :: replaceFrom p replacement 0 rest

/-- The text with `replacement` for every occurrence of `p`.  The empty text occurs before every
character and at the end. -/
def replaceAll (p replacement s : List Char) : List Char :=
  if p.isEmpty then replacement ++ s.flatMap (fun c => c :: replacement)
  else replaceFrom p replacement 0 s

/-- The text without a carriage return at its end. -/
def dropReturn (s : List Char) : List Char :=
  match s.reverse with
  | '\r' :: rest => rest.reverse
  | _ => s

/-- The parts of a text between its newlines. -/
def splitNewlines (s : List Char) : List (List Char) := splitOn ['\n'] s

/-- The lines of a text.  A newline ends a line, together with a carriage return before it; a last
line without a newline counts unless it is empty. -/
def lines (s : List Char) : List (List Char) :=
  let parts := splitNewlines s
  let last := parts.getLastD []
  parts.dropLast.map dropReturn ++ (if last.isEmpty then [] else [last])

/-- The text repeated `count` times. -/
def repeated (s : List Char) : Nat → List Char
  | 0 => []
  | count + 1 => s ++ repeated s count

end Text

end Guest
