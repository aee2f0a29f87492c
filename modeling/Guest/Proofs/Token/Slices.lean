import Guest.Proofs.Token.Tiling

/-!
# The tokens of a part of a source

The items that are read off a text are those of a lexer that stands in front of it.  They can be
divided at every token: what stands behind a token is read off what is left of the text, and the
blanks in front of a token may as well belong to the text before.
-/

namespace Guest
namespace Lexer

open Lexeme Position

variable {d : Dialect} {before s source : List Char} {items : List (Except LexError Spanned)}
  {spans : List Spanned} {spanned : Spanned} {lexer : Lexer} {count : Nat}

/-- What is read off a text are the items of a lexer in front of it. -/
theorem Scans.takeItems_eq (h : Scans d before s items) (hdialect : lexer.dialect = d)
    (hrest : lexer.rest = s) (hposition : lexer.position = start.advance before)
    (hcount : s.length < count) : takeItems count lexer = items := by
  induction h generalizing count lexer with
  | @token before s gap w rest t items hfront ht _ ih =>
      obtain ⟨count, rfl⟩ : ∃ n, count = n + 1 := ⟨count - 1, by omega⟩
      have hless : rest.length < count := by
        have hlength := congrArg List.length hfront.split
        have hpos := List.length_pos_iff.mpr (hfront.ne_nil ht)
        simp only [List.length_append] at hlength
        omega
      rw [← hrest, ← hdialect] at hfront
      have hnext := next_of_front hfront
      rw [hposition, ← advance_append, ← advance_append] at hnext
      rw [takeItems_of_more (by simpa [hnext, isLast] using ht), hnext]
      exact congrArg _ (ih hdialect rfl rfl hless)
  | @endOfText before gap hblank =>
      obtain ⟨count, rfl⟩ : ∃ n, count = n + 1 := ⟨count - 1, by omega⟩
      have hfront : Front lexer.dialect lexer.rest gap [] [] .endOfText :=
        ⟨by simp [hrest], hblank, starts_nil, rfl⟩
      have hnext := next_of_front hfront
      rw [hposition, ← advance_append, ← advance_append, List.append_nil] at hnext
      rw [takeItems_of_last (by rw [hnext]; rfl), hnext]
  | @fault before gap rest c fault hgap hc hscan =>
      obtain ⟨count, rfl⟩ : ∃ n, count = n + 1 := ⟨count - 1, by omega⟩
      rw [← hdialect] at hscan
      have hnext := next_of_fault hrest hgap hc hscan
      rw [hposition, ← advance_append] at hnext
      rw [takeItems_of_last (by rw [hnext]; rfl), hnext]

theorem items_eq_iff_scans : (ofChars d source).items = items ↔ Scans d [] source items := by
  constructor
  · rintro rfl
    exact scans_items d source
  · intro h
    exact h.takeItems_eq rfl rfl rfl (Nat.lt_succ_self _)

/-! ## Division at a token -/

/-- Behind some tokens the items are read off what is left of the text. -/
theorem Scans.exists_rest {more : List (Except LexError Spanned)}
    (h : Scans d before s (spans.map .ok ++ more)) (hmore : more ≠ []) :
    ∃ taken rest, s = taken ++ rest ∧ Scans d (before ++ taken) rest more := by
  induction spans generalizing before s with
  | nil => exact ⟨[], s, rfl, by simpa using h⟩
  | cons spanned spans ih =>
      rw [List.map_cons, List.cons_append] at h
      generalize hitems : _ :: _ = items at h
      cases h with
      | @token _ _ gap w rest _ _ hfront _ hrest =>
          obtain ⟨-, rfl⟩ := List.cons.inj hitems
          obtain ⟨taken, rest, rfl, hmore⟩ := ih hrest
          refine ⟨gap ++ w ++ taken, rest, ?_, ?_⟩
          · rw [hfront.split, List.append_assoc, List.append_assoc]
          · simpa only [List.append_assoc] using hmore
      | endOfText =>
          have hnil := (List.cons.inj hitems).2
          exact absurd (List.append_eq_nil_iff.mp hnil).2 hmore
      | fault => exact absurd (List.cons.inj hitems).1 (by simp)

/-- A token starts where its text does: the blanks in front of it belong to the text before. -/
theorem Scans.exists_visible (h : Scans d before s (.ok spanned :: items))
    (ht : spanned.token ≠ .endOfText) :
    ∃ gap rest, s = gap ++ rest ∧ spanned.start = start.advance (before ++ gap) ∧
      Scans d (before ++ gap) rest (.ok spanned :: items) := by
  generalize hitems : _ :: _ = all at h
  cases h with
  | @token _ _ gap w rest t _ hfront ht hrest =>
      obtain ⟨hspanned, rfl⟩ := List.cons.inj hitems
      obtain rfl := Except.ok.inj hspanned
      have hhere : Front d (w ++ rest) [] w rest t :=
        ⟨rfl, List.forall_mem_nil _, hfront.visible, hfront.scan⟩
      refine ⟨gap, w ++ rest, hfront.split, rfl, ?_⟩
      have hscans := @Scans.token d (before ++ gap) _ _ _ _ _ _ hhere ht
        (by rw [List.append_nil]; exact hrest)
      rwa [List.append_nil] at hscans
  | endOfText =>
      obtain rfl := Except.ok.inj (List.cons.inj hitems).1
      exact absurd rfl ht
  | fault => exact absurd (List.cons.inj hitems).1 (by simp)

end Lexer
end Guest
