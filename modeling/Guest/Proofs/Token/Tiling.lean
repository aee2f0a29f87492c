import Guest.Proofs.Token.Lexical
import Mathlib.Data.List.Induction

/-!
# Tokens tile their source

The items of an iteration cover the source from its start to its end, or to the first fault: tokens
lie next to each other with nothing but blanks between them, and every position counts the lines
and columns before it.  What one step reads is a front of the text that is left; the covering
follows by induction on the steps.
-/

namespace Guest

namespace Position

variable {before rest : List Char} {p : Position}

/-- A position counts the lines of a source up to it, and the columns in its line. -/
structure CountsIn (source : List Char) (p : Position) : Prop where
  offset : p.offset ≤ source.length
  line : p.line = 1 + (source.take p.offset).count '\n'
  column : p.column = 1 + ((source.take p.offset).reverse.takeWhile (· ≠ '\n')).length

theorem offset_start_advance (before : List Char) :
    (start.advance before).offset = before.length := by
  rw [offset_advance]
  exact Nat.zero_add _

theorem line_start_advance (before : List Char) :
    (start.advance before).line = 1 + before.count '\n' := by
  induction before using List.reverseRecOn with
  | nil => rfl
  | append_singleton before c ih =>
      rw [advance_concat, step, List.count_append]
      by_cases hc : c = '\n'
      · subst hc
        rw [if_pos rfl, ih]
        rfl
      · rw [if_neg hc, List.count_singleton, ih]
        simp [hc]

theorem column_start_advance (before : List Char) :
    (start.advance before).column = 1 + (before.reverse.takeWhile (· ≠ '\n')).length := by
  induction before using List.reverseRecOn with
  | nil => rfl
  | append_singleton before c ih =>
      rw [advance_concat, step, List.reverse_append]
      by_cases hc : c = '\n'
      · subst hc
        rw [if_pos rfl]
        rfl
      · rw [if_neg hc, ih, List.reverse_singleton, List.singleton_append,
          List.takeWhile_cons_of_pos (by simpa using hc), List.length_cons]
        rfl

theorem countsIn_start_advance : CountsIn (before ++ rest) (start.advance before) := by
  have htake : (before ++ rest).take (start.advance before).offset = before := by
    rw [offset_start_advance, List.take_left]
  refine ⟨?_, ?_, ?_⟩
  · rw [offset_start_advance, List.length_append]
    exact Nat.le_add_right _ _
  · rw [htake, line_start_advance]
  · rw [htake, column_start_advance]

end Position

namespace Lexeme

variable {d : Dialect} {s gap w rest : List Char} {t : Token}

/-- A text has a token in front of it, or a character from which no token can be read. -/
theorem front_or_fault (d : Dialect) (s : List Char) :
    (∃ gap w rest t, Front d s gap w rest t) ∨
      ∃ gap c rest fault, s = gap ++ c :: rest ∧ (∀ a ∈ gap, Text.isBlank a = true) ∧
        Text.isBlank c = false ∧ (scan d (c :: rest)).outcome = .error fault := by
  have hsplit : s.takeWhile Text.isBlank ++ s.dropWhile Text.isBlank = s :=
    List.takeWhile_append_dropWhile
  have hblank : ∀ a ∈ s.takeWhile Text.isBlank, Text.isBlank a = true :=
    List.all_eq_true.mp List.all_takeWhile
  have hvisible := List.head?_dropWhile_not Text.isBlank s
  generalize s.takeWhile Text.isBlank = gap at *
  cases hrest : s.dropWhile Text.isBlank with
  | nil =>
      rw [hrest] at hsplit
      exact .inl ⟨gap, [], [], .endOfText, hsplit.symm, hblank, starts_nil, rfl⟩
  | cons c rest =>
      rw [hrest] at hsplit hvisible
      have hc : Text.isBlank c = false := hvisible
      cases hscan : scan d (c :: rest) with
      | mk n outcome =>
          cases outcome with
          | ok t =>
              obtain ⟨w, tail, p, hword, rfl, -, -⟩ := exists_spells hscan
              rw [hword] at hsplit hscan
              refine .inl ⟨gap, w, tail, t, hsplit.symm, hblank, ?_, hscan⟩
              rw [← hword]
              exact starts_cons.mpr hc
          | error fault =>
              refine .inr ⟨gap, c, rest, fault, hsplit.symm, hblank, hc, ?_⟩
              rw [hscan]

theorem Front.nil_of_endOfText (h : Front d s gap w rest .endOfText) : w = [] ∧ rest = [] := by
  have hscan := h.scan
  cases hvisible : w ++ rest with
  | nil => exact List.append_eq_nil_iff.mp hvisible
  | cons c more =>
      rw [hvisible] at hscan
      exact absurd rfl (scan_proper _ (congrArg Lexeme.outcome hscan)).1

theorem Front.ne_nil (h : Front d s gap w rest t) (ht : t ≠ .endOfText) : w ≠ [] := by
  rintro rfl
  have hscan := h.scan
  cases rest with
  | nil => exact ht (Except.ok.inj (congrArg Lexeme.outcome hscan)).symm
  | cons c more =>
      have hproper := (scan_proper _ (congrArg Lexeme.outcome hscan)).2
      rw [List.nil_append] at hscan
      rw [hscan] at hproper
      exact absurd hproper (Nat.lt_irrefl 0)

end Lexeme

namespace Lexer

open Lexeme Position

variable {d : Dialect} {lexer : Lexer} {before s gap rest source : List Char} {c : Char}
  {i : Nat} {items : List (Except LexError Spanned)}

/-! ## What the steps of an iteration read -/

/-- The items that are read off the text `s` behind the text `before`, with their places. -/
inductive Scans (d : Dialect) :
    List Char → List Char → List (Except LexError Spanned) → Prop where
  | token {before s gap w rest : List Char} {t : Token} {items : List (Except LexError Spanned)} :
      Front d s gap w rest t → t ≠ .endOfText → Scans d (before ++ gap ++ w) rest items →
      Scans d before s
        (.ok ⟨t, start.advance (before ++ gap), start.advance (before ++ gap ++ w)⟩ :: items)
  | endOfText {before gap : List Char} :
      (∀ a ∈ gap, Text.isBlank a = true) →
      Scans d before gap
        [.ok ⟨.endOfText, start.advance (before ++ gap), start.advance (before ++ gap)⟩]
  | fault {before gap rest : List Char} {c : Char} {fault : Fault} :
      (∀ a ∈ gap, Text.isBlank a = true) → Text.isBlank c = false →
      (scan d (c :: rest)).outcome = .error fault →
      Scans d before (gap ++ c :: rest) [.error ⟨fault, start.advance (before ++ gap)⟩]

theorem next_of_fault {fault : Fault} (hs : lexer.rest = gap ++ c :: rest)
    (hgap : ∀ a ∈ gap, Text.isBlank a = true) (hc : Text.isBlank c = false)
    (hscan : (scan lexer.dialect (c :: rest)).outcome = .error fault) :
    lexer.next.1 = .error ⟨fault, lexer.position.advance gap⟩ := by
  have hvisible : Visible (c :: rest) := starts_cons.mpr hc
  have htake : lexer.rest.takeWhile Text.isBlank = gap := by
    rw [hs, takeWhile_append_of_starts hgap hvisible]
  have hdrop : lexer.rest.dropWhile Text.isBlank = c :: rest := by
    rw [hs, dropWhile_append_of_starts hgap hvisible]
  unfold next
  simp only [htake, hdrop, hscan]

theorem takeItems_of_last {count : Nat} (h : isLast lexer.next.1 = true) :
    takeItems (count + 1) lexer = [lexer.next.1] :=
  if_pos h

theorem takeItems_of_more {count : Nat} (h : isLast lexer.next.1 = false) :
    takeItems (count + 1) lexer = lexer.next.1 :: takeItems count lexer.next.2 :=
  if_neg (Bool.eq_false_iff.mp h)

theorem scans_takeItems {count : Nat} (hdialect : lexer.dialect = d)
    (hcount : lexer.rest.length < count) (hposition : lexer.position = start.advance before) :
    Scans d before lexer.rest (takeItems count lexer) := by
  induction count generalizing lexer before with
  | zero => exact absurd hcount (Nat.not_lt_zero _)
  | succ count ih =>
      subst hdialect
      rcases front_or_fault lexer.dialect lexer.rest with
        ⟨gap, w, rest, t, hfront⟩ | ⟨gap, c, rest, fault, hsplit, hgap, hc, hscan⟩
      · have hnext := next_of_front hfront
        rw [hposition, ← advance_append, ← advance_append] at hnext
        by_cases ht : t = .endOfText
        · subst ht
          obtain ⟨rfl, rfl⟩ := hfront.nil_of_endOfText
          have hgap : lexer.rest = gap := by simpa using hfront.split
          rw [takeItems_of_last (by rw [hnext]; rfl), hnext, hgap, List.append_nil]
          exact .endOfText hfront.blank
        · have hless : lexer.next.2.rest.length < count := by
            have hlength := congrArg List.length hfront.split
            have hpos := List.length_pos_iff.mpr (hfront.ne_nil ht)
            simp only [List.length_append] at hlength
            rw [hnext]
            dsimp only
            omega
          have hplace : lexer.next.2.position = start.advance (before ++ gap ++ w) := by
            rw [hnext]
          have hmore := ih (by rw [hnext]) hless hplace
          rw [takeItems_of_more (by simpa [hnext, isLast] using ht)]
          rw [hnext] at hmore ⊢
          exact .token hfront ht hmore
      · have hnext := next_of_fault hsplit hgap hc hscan
        rw [hposition, ← advance_append] at hnext
        rw [takeItems_of_last (by rw [hnext]; rfl), hnext, hsplit]
        exact .fault hgap hc hscan

theorem scans_items (d : Dialect) (source : List Char) :
    Scans d [] source (ofChars d source).items := by
  have hposition : (ofChars d source).position = start.advance [] := rfl
  exact scans_takeItems rfl (Nat.lt_succ_self _) hposition

/-! ## Tilings -/

/-- The characters of a source between two offsets are blanks. -/
def BlankBetween (source : List Char) (i j : Nat) : Prop :=
  i ≤ j ∧ ∀ c ∈ (source.take j).drop i, Text.isBlank c = true

/-- Items that cover a source from an offset on: tokens in order with blanks between them, and then
the end of the source or the first character from which no token can be read. -/
inductive Tiles (source : List Char) : Nat → List (Except LexError Spanned) → Prop where
  | token {i : Nat} {spanned : Spanned} {items : List (Except LexError Spanned)} :
      spanned.token ≠ .endOfText → BlankBetween source i spanned.start.offset →
      spanned.start.offset < spanned.stop.offset →
      spanned.start.CountsIn source → spanned.stop.CountsIn source →
      Tiles source spanned.stop.offset items → Tiles source i (.ok spanned :: items)
  | endOfText {i : Nat} {p : Position} :
      BlankBetween source i p.offset → p.offset = source.length → p.CountsIn source →
      Tiles source i [.ok ⟨.endOfText, p, p⟩]
  | fault {i : Nat} {e : LexError} {c : Char} :
      BlankBetween source i e.position.offset → source[e.position.offset]? = some c →
      Text.isBlank c = false → e.position.CountsIn source → Tiles source i [.error e]

theorem blankBetween_append (hgap : ∀ a ∈ gap, Text.isBlank a = true) :
    BlankBetween (before ++ gap ++ rest) before.length (before ++ gap).length := by
  refine ⟨?_, ?_⟩
  · rw [List.length_append]
    exact Nat.le_add_right _ _
  · rwa [List.take_left, List.drop_left]

theorem Scans.tiles (h : Scans d before s items) :
    Tiles (before ++ s) before.length items := by
  induction h with
  | @token before s gap w rest t items hfront ht _ ih =>
      have hsplit : before ++ s = before ++ gap ++ w ++ rest := by
        rw [hfront.split, List.append_assoc, List.append_assoc]
      have hpos := List.length_pos_iff.mpr (hfront.ne_nil ht)
      have hlength : (before ++ gap ++ w).length = (before ++ gap).length + w.length :=
        List.length_append
      rw [hsplit]
      refine .token ht ?_ ?_ ?_ countsIn_start_advance ?_
      · rw [offset_start_advance, List.append_assoc]
        exact blankBetween_append hfront.blank
      · rw [offset_start_advance, offset_start_advance, hlength]
        exact Nat.lt_add_of_pos_right hpos
      · rw [List.append_assoc]
        exact countsIn_start_advance
      · rw [offset_start_advance]
        exact ih
  | @endOfText before gap hgap =>
      have hsplit : before ++ gap = before ++ gap ++ [] := (List.append_nil _).symm
      refine .endOfText ?_ (offset_start_advance _) ?_
      · rw [offset_start_advance]
        nth_rewrite 1 [hsplit]
        exact blankBetween_append hgap
      · nth_rewrite 1 [hsplit]
        exact countsIn_start_advance
  | @fault before gap rest c fault hgap hc =>
      rw [← List.append_assoc]
      refine .fault ?_ ?_ hc countsIn_start_advance
      · rw [offset_start_advance]
        exact blankBetween_append hgap
      · rw [offset_start_advance, List.getElem?_append_right (Nat.le_refl _), Nat.sub_self]
        rfl

/-- A tiling has no more items than characters to cover and one for the end. -/
theorem Tiles.length_le (h : Tiles source i items) : items.length + i ≤ source.length + 1 := by
  induction h with
  | @token i spanned items _ hblank hless _ hstop _ ih =>
      have hstart := hblank.1
      have hle := hstop.offset
      rw [List.length_cons]
      omega
  | endOfText hblank hend =>
      have hstart := hblank.1
      rw [List.length_singleton]
      omega
  | fault hblank hc =>
      have hstart := hblank.1
      have hless := (List.getElem?_eq_some_iff.mp hc).1
      rw [List.length_singleton]
      omega

/-! ## The iteration -/

/-- The results of so many calls of the iteration. -/
def results : Nat → Lexer → List (Option (Except LexError Spanned))
  | 0, _ => []
  | count + 1, lexer => lexer.iterate.1 :: results count lexer.iterate.2

theorem results_of_finished {count : Nat} (h : lexer.finished = true) :
    results count lexer = List.replicate count none := by
  induction count with
  | zero => rfl
  | succ count ih =>
      have hiterate : lexer.iterate = (none, lexer) := if_pos h
      rw [results, hiterate, List.replicate_succ, ih]

theorem iterate_of_not_finished (h : lexer.finished = false) :
    lexer.iterate =
      (some lexer.next.1, { lexer.next.2 with finished := isLast lexer.next.1 }) :=
  if_neg (by simp [h])

theorem finished_next (lexer : Lexer) : lexer.next.2.finished = lexer.finished := by
  unfold next
  dsimp only
  split
  · rfl
  · rfl

/-- Iteration gives its items one after the other, and nothing from then on. -/
theorem results_takeItems {count more : Nat} (hcount : lexer.rest.length < count)
    (hfinished : lexer.finished = false) :
    results ((takeItems count lexer).length + more) lexer =
      (takeItems count lexer).map some ++ List.replicate more none := by
  induction count generalizing lexer with
  | zero => exact absurd hcount (Nat.not_lt_zero _)
  | succ count ih =>
      cases hlast : isLast lexer.next.1 with
      | true =>
          rw [takeItems_of_last hlast, List.length_singleton, Nat.add_comm, results,
            iterate_of_not_finished hfinished, results_of_finished hlast]
          rfl
      | false =>
          have hless : lexer.next.2.rest.length < count := by
            cases hnext : lexer.next with
            | mk item moved =>
                rw [hnext] at hlast
                cases item with
                | error => cases hlast
                | ok spanned =>
                    rcases next_progress hnext with ⟨htoken, -⟩ | ⟨-, hless⟩
                    · simp [isLast, htoken] at hlast
                    · dsimp only
                      omega
          have hmoved : { lexer.next.2 with finished := false } = lexer.next.2 := by
            rw [← hfinished, ← finished_next lexer]
          rw [takeItems_of_more hlast, List.length_cons, Nat.add_right_comm, results,
            iterate_of_not_finished hfinished, hlast, hmoved,
            ih hless ((finished_next lexer).trans hfinished)]
          rfl

/-- Tokens tile their source.  The items of an iteration cover the source without a gap but blanks,
each with its exact place; there is at most one item more than there are characters; and iteration
gives these items and then nothing. -/
theorem items_tile (d : Dialect) (source : List Char) :
    Tiles source 0 (ofChars d source).items ∧
      (ofChars d source).items.length ≤ source.length + 1 ∧
      ∀ count, results ((ofChars d source).items.length + count) (ofChars d source) =
        (ofChars d source).items.map some ++ List.replicate count none := by
  have htiles : Tiles source 0 (ofChars d source).items := (scans_items d source).tiles
  exact ⟨htiles, htiles.length_le, fun _ => results_takeItems (Nat.lt_succ_self _) rfl⟩

end Lexer
end Guest
