import Guest.Paragraph
import Guest.Proofs.Text.Pieces

/-!
# Paragraphs and the boundaries between them

A text is cut at its newlines, and a carriage return right before a newline belongs to the boundary.
The paragraphs are the pieces of this cut, with one exception: a carriage return at the end of the
text is lost, although no newline follows it.
-/

namespace Guest

namespace Text

variable {s piece : List Char} {pieces boundaries : List (List Char)} {c : Char}

/-! ## The parts between newlines -/

theorem splitOn_of_not_mem (h : c ∉ s) : splitOn [c] s = [s] := by
  induction s with
  | nil => rfl
  | cons a s ih =>
      obtain ⟨hne, hs⟩ := List.ne_and_not_mem_of_not_mem_cons h
      have hstarts : ¬[c] <+: a :: s := fun hstarts => hne (List.cons_prefix_cons.mp hstarts).1
      rw [splitOn_cons hstarts, ih hs, consPiece]

theorem splitOn_append_cons (h : c ∉ piece) :
    splitOn [c] (piece ++ c :: s) = piece :: splitOn [c] s := by
  induction piece with
  | nil => exact splitOn_append (List.cons_ne_nil c [])
  | cons a piece ih =>
      obtain ⟨hne, hpiece⟩ := List.ne_and_not_mem_of_not_mem_cons h
      have hstarts : ¬[c] <+: a :: (piece ++ c :: s) :=
        fun hstarts => hne (List.cons_prefix_cons.mp hstarts).1
      rw [List.cons_append, splitOn_cons hstarts, ih hpiece, consPiece]

theorem dropReturn_concat (s : List Char) : dropReturn (s ++ ['\r']) = s := by
  rw [dropReturn, List.reverse_append]
  exact List.reverse_reverse s

theorem dropReturn_eq_self_iff : dropReturn s = s ↔ s.getLast? ≠ some '\r' := by
  constructor
  · intro h hreturn
    obtain ⟨before, rfl⟩ := List.getLast?_eq_some_iff.mp hreturn
    rw [dropReturn_concat] at h
    simpa using congrArg List.length h
  · intro h
    unfold dropReturn
    split
    · next rest hreverse =>
        rw [List.getLast?_eq_head?_reverse, hreverse] at h
        exact absurd rfl h
    · rfl

/-! ## Cuts -/

/-- The pieces of a text and the boundaries between them, in order. -/
inductive Cut : List Char → List (List Char) → List (List Char) → Prop where
  | last {piece : List Char} :
      '\n' ∉ piece → Cut piece [piece] []
  | newline {piece rest : List Char} {pieces boundaries : List (List Char)} :
      '\n' ∉ piece → piece.getLast? ≠ some '\r' → Cut rest pieces boundaries →
      Cut (piece ++ ['\n'] ++ rest) (piece :: pieces) (['\n'] :: boundaries)
  | returnNewline {piece rest : List Char} {pieces boundaries : List (List Char)} :
      '\n' ∉ piece → Cut rest pieces boundaries →
      Cut (piece ++ ['\r', '\n'] ++ rest) (piece :: pieces) (['\r', '\n'] :: boundaries)

/-- The pieces with the boundaries between them. -/
def interleave : List (List Char) → List (List Char) → List Char
  | piece :: pieces, boundary :: boundaries => piece ++ boundary ++ interleave pieces boundaries
  | pieces, [] => pieces.flatten
  | [], _ :: _ => []

/-- A character before a cut text belongs to the first piece, unless it is a carriage return and the
text starts with a newline. -/
theorem exists_cut_cons (hc : c ≠ '\n') (h : Cut s pieces boundaries) :
    ∃ pieces' boundaries', Cut (c :: s) pieces' boundaries' := by
  have hcons {piece : List Char} (h : '\n' ∉ piece) : '\n' ∉ c :: piece :=
    List.not_mem_cons_of_ne_of_not_mem hc.symm h
  cases h with
  | last hpiece => exact ⟨_, _, .last (hcons hpiece)⟩
  | returnNewline hpiece hrest => exact ⟨_, _, .returnNewline (hcons hpiece) hrest⟩
  | @newline piece rest pieces boundaries hpiece hend hrest =>
      by_cases hjoins : piece = [] ∧ c = '\r'
      · obtain ⟨rfl, rfl⟩ := hjoins
        exact ⟨_, _, @Cut.returnNewline [] _ _ _ List.not_mem_nil hrest⟩
      · refine ⟨_, _, @Cut.newline (c :: piece) _ _ _ (hcons hpiece) ?_ hrest⟩
        cases piece with
        | nil => simpa using hjoins
        | cons a piece => simpa using hend

theorem exists_cut (s : List Char) : ∃ pieces boundaries, Cut s pieces boundaries := by
  induction s with
  | nil => exact ⟨_, _, .last List.not_mem_nil⟩
  | cons c s ih =>
      obtain ⟨pieces, boundaries, hcut⟩ := ih
      by_cases hc : c = '\n'
      · subst hc
        exact ⟨_, _, @Cut.newline [] _ _ _ List.not_mem_nil (by simp) hcut⟩
      · exact exists_cut_cons hc hcut

namespace Cut

theorem interleave_eq (h : Cut s pieces boundaries) : interleave pieces boundaries = s := by
  induction h with
  | last _ => simp [interleave]
  | newline _ _ _ ih => rw [interleave, ih]
  | returnNewline _ _ ih => rw [interleave, ih]

theorem length_boundaries (h : Cut s pieces boundaries) : boundaries.length = s.count '\n' := by
  induction h with
  | last hpiece => exact (List.count_eq_zero_of_not_mem hpiece).symm
  | newline hpiece _ _ ih => simp [ih, List.count_eq_zero_of_not_mem hpiece]
  | returnNewline hpiece _ ih => simp [ih, List.count_eq_zero_of_not_mem hpiece]

theorem length_pieces (h : Cut s pieces boundaries) : pieces.length = boundaries.length + 1 := by
  induction h with
  | last _ => rfl
  | newline _ _ _ ih => rw [List.length_cons, List.length_cons, ih]
  | returnNewline _ _ ih => rw [List.length_cons, List.length_cons, ih]

theorem not_mem (h : Cut s pieces boundaries) : ∀ piece ∈ pieces, '\n' ∉ piece := by
  induction h with
  | last hpiece => exact List.forall_mem_singleton.mpr hpiece
  | newline hpiece _ _ ih => exact List.forall_mem_cons.mpr ⟨hpiece, ih⟩
  | returnNewline hpiece _ ih => exact List.forall_mem_cons.mpr ⟨hpiece, ih⟩

/-- A text ends with a carriage return exactly if its last piece does. -/
theorem endsWithReturn_iff (h : Cut s pieces boundaries) :
    pieces.getLast?.bind List.getLast? = some '\r' ↔ s.getLast? = some '\r' := by
  have hbehind (before rest : List Char) :
      (before ++ '\n' :: rest).getLast? = some '\r' ↔ rest.getLast? = some '\r' := by
    rw [List.getLast?_append, List.getLast?_cons, Option.some_or]
    cases rest.getLast? with
    | none => decide
    | some c => rfl
  have hlater (piece : List Char) {s : List Char} {pieces boundaries : List (List Char)}
      (h : Cut s pieces boundaries) : (piece :: pieces).getLast? = pieces.getLast? := by
    cases pieces with
    | nil => exact absurd h.length_pieces.symm (Nat.succ_ne_zero _)
    | cons next more => exact List.getLast?_cons_cons
  induction h with
  | last _ => rfl
  | @newline piece rest _ _ _ _ hrest ih =>
      rw [hlater piece hrest, List.append_assoc, List.singleton_append, hbehind]
      exact ih
  | @returnNewline piece rest _ _ _ hrest ih =>
      have hsplit : piece ++ ['\r', '\n'] ++ rest = piece ++ ['\r'] ++ '\n' :: rest := by simp
      rw [hlater piece hrest, hsplit, hbehind]
      exact ih

/-- Between the newlines stand the pieces, each with the carriage return of its boundary, which is
dropped.  The last piece has no boundary and may lose a carriage return of its own. -/
theorem exists_map_dropReturn (h : Cut s pieces boundaries) :
    ∃ front last, pieces = front ++ [last] ∧
      (splitNewlines s).map dropReturn = front ++ [dropReturn last] := by
  induction h with
  | @last piece hpiece =>
      refine ⟨[], piece, rfl, ?_⟩
      rw [splitNewlines, splitOn_of_not_mem hpiece]
      rfl
  | @newline piece rest _ _ hpiece hend _ ih =>
      obtain ⟨front, last, rfl, hmap⟩ := ih
      refine ⟨piece :: front, last, rfl, ?_⟩
      rw [List.append_assoc, List.singleton_append, splitNewlines, splitOn_append_cons hpiece,
        List.map_cons, dropReturn_eq_self_iff.mpr hend, ← splitNewlines, hmap]
      rfl
  | @returnNewline piece rest _ _ hpiece _ ih =>
      obtain ⟨front, last, rfl, hmap⟩ := ih
      have hreturn : '\n' ∉ piece ++ ['\r'] := by simpa using hpiece
      have hsplit : piece ++ ['\r', '\n'] ++ rest = piece ++ ['\r'] ++ '\n' :: rest := by simp
      refine ⟨piece :: front, last, rfl, ?_⟩
      rw [hsplit, splitNewlines, splitOn_append_cons hreturn, List.map_cons, dropReturn_concat,
        ← splitNewlines, hmap]
      rfl

end Cut

end Text

namespace Paragraph

open Text (Cut interleave)

/-- The characters of the paragraphs of a text. -/
def texts (source : String) : List (List Char) :=
  (split source).map fun paragraph => paragraph.text.toList

theorem texts_eq {source : String} (h : source ≠ "") :
    texts source = (Text.splitNewlines source.toList).map Text.dropReturn := by
  have hempty : source.isEmpty = false := by
    rwa [Bool.eq_false_iff, ne_eq, String.isEmpty_iff]
  rw [texts, split, hempty, if_neg Bool.false_ne_true, List.map_map]
  exact List.map_congr_left fun s _ => String.toList_ofList

/-- A text that is not empty is cut at its newlines, each with the carriage return right before it.
There is one paragraph more than there are newlines, no piece holds a newline, and the pieces with
the boundaries between them are the text again.  The paragraphs are the pieces, except that a
carriage return at the end of the last piece is lost.  So the paragraphs are exactly the pieces if
and only if the text does not end with a carriage return. -/
theorem texts_eq_pieces_iff {source : String} (h : source ≠ "") :
    (∃ pieces boundaries, Cut source.toList pieces boundaries) ∧
    ∀ pieces boundaries, Cut source.toList pieces boundaries →
      (split source).length = source.toList.count '\n' + 1 ∧
      (∀ piece ∈ pieces, '\n' ∉ piece) ∧
      interleave pieces boundaries = source.toList ∧
      (∃ front last, pieces = front ++ [last] ∧
        texts source = front ++ [Text.dropReturn last]) ∧
      (texts source = pieces ↔ source.toList.getLast? ≠ some '\r') := by
  refine ⟨Text.exists_cut source.toList, fun pieces boundaries hcut => ?_⟩
  obtain ⟨front, last, rfl, hmap⟩ := hcut.exists_map_dropReturn
  rw [← texts_eq h] at hmap
  have hends : last.getLast? = some '\r' ↔ source.toList.getLast? = some '\r' := by
    rw [← hcut.endsWithReturn_iff, List.getLast?_concat, Option.bind_some]
  refine ⟨?_, hcut.not_mem, hcut.interleave_eq, ⟨front, last, rfl, hmap⟩, ?_⟩
  · calc (split source).length
        = (texts source).length := (List.length_map _).symm
      _ = (front ++ [last]).length := by rw [hmap, List.length_append, List.length_append]; rfl
      _ = source.toList.count '\n' + 1 := by rw [hcut.length_pieces, hcut.length_boundaries]
  · rw [hmap, List.append_right_inj, List.singleton_inj, Text.dropReturn_eq_self_iff, ne_eq, hends]

/-- Carriage returns in front of a newline, doubled, alone in a line and at the end of the text. -/
theorem texts_eq_pieces_doubled :
    "a\r\r\n\rb\n\r\nc".toList.getLast? ≠ some '\r' ∧
      Cut "a\r\r\n\rb\n\r\nc".toList ["a\r".toList, "\rb".toList, [], ['c']]
        [['\r', '\n'], ['\n'], ['\r', '\n']] ∧
      texts "a\r\r\n\rb\n\r\nc" = ["a\r".toList, "\rb".toList, [], ['c']] := by
  have hends : "a\r\r\n\rb\n\r\nc".toList.getLast? ≠ some '\r' := by decide
  have hcut : Cut "a\r\r\n\rb\n\r\nc".toList ["a\r".toList, "\rb".toList, [], ['c']]
      [['\r', '\n'], ['\n'], ['\r', '\n']] :=
    @Cut.returnNewline "a\r".toList _ _ _ (by decide) <|
      @Cut.newline "\rb".toList _ _ _ (by decide) (by decide) <|
        @Cut.returnNewline [] _ _ _ (by decide) (.last (by decide))
  obtain ⟨-, hall⟩ := @texts_eq_pieces_iff "a\r\r\n\rb\n\r\nc" (by decide)
  obtain ⟨-, -, -, -, hiff⟩ := hall _ _ hcut
  exact ⟨hends, hcut, hiff.mpr hends⟩

/-- A carriage return at the end of a text without a newline is lost. -/
theorem texts_lose_last_return :
    Cut "a\r".toList ["a\r".toList] [] ∧ texts "a\r" = [['a']] ∧
      interleave (texts "a\r") [] ≠ "a\r".toList := by
  have htexts : texts "a\r" = [['a']] := by decide +kernel
  refine ⟨.last (by decide), htexts, ?_⟩
  rw [htexts]
  decide

end Paragraph
end Guest
