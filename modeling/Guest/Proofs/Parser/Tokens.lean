import Guest.Proofs.Parser.Reading
import Guest.Proofs.Token.Progress

/-!
# The tokens in front of a parser

A parser reads the tokens that its lexer yields.  How many of them are left bounds how far it can
still go.
-/

namespace Guest
namespace Parser

open Parse

variable {p q : Parser} {ts : List Token} {lexer : Lexer} {count : Nat}

/-- A list without the end of a text. -/
def Endless (ts : List Token) : Prop := Token.endOfText ∉ ts

/-- More than the number of tokens up to the end of the text: one for the next token, and one for
each character that has not been read. -/
def left (p : Parser) : Nat :=
  if p.current.token = .endOfText then 0 else p.lexer.rest.length + 1

theorem left_le_depth (p : Parser) : 24 * p.left + 72 ≤ p.depth := by
  unfold left depth
  split <;> omega

theorem gives_advance :
    Gives advance p () q ↔ ∃ spanned moved, p.lexer.next = (.ok spanned, moved) ∧
      q = ⟨moved, spanned, p.current.stop.offset⟩ := by
  unfold Gives advance
  split
  · next spanned moved hnext =>
      constructor
      · intro h
        cases h
        exact ⟨_, _, hnext, rfl⟩
      · rintro ⟨spanned', moved', hnext', rfl⟩
        rw [hnext] at hnext'
        cases hnext'
        rfl
  · next error moved hnext => simp [hnext]

theorem left_lt_of_advance (h : Gives advance p () q) (hp : p.current.token ≠ .endOfText) :
    q.left < p.left := by
  obtain ⟨spanned, moved, hnext, rfl⟩ := gives_advance.mp h
  obtain ⟨hend, -⟩ | ⟨htoken, hless⟩ := Lexer.next_progress hnext
  · simp [left, hend, hp]
  · simp [left, htoken, hp, hless]

theorem left_add_length_le (h : Reads p ts q) (hts : Endless ts) :
    q.left + ts.length ≤ p.left := by
  induction h with
  | nil p => simp
  | cons ha _ ih =>
      simp only [Endless, List.mem_cons, not_or] at hts
      have hq := left_lt_of_advance ha (Ne.symm hts.1)
      have hr := ih hts.2
      simp only [List.length_cons]
      omega

/-! ## The end of the text -/

/-- A parser at the end has no text left. -/
def Aligned (p : Parser) : Prop := p.current.token = .endOfText → p.lexer.rest = []

theorem aligned_of_next {spanned : Spanned} {moved : Lexer} {consumed : Nat}
    (h : lexer.next = (.ok spanned, moved)) : Aligned ⟨moved, spanned, consumed⟩ := by
  intro hend
  obtain ⟨-, hrest⟩ | ⟨htoken, -⟩ := Lexer.next_progress h
  · exact hrest
  · exact absurd hend htoken

theorem aligned_of_advance (h : Gives advance p () q) : q.Aligned := by
  obtain ⟨spanned, moved, hnext, rfl⟩ := gives_advance.mp h
  exact aligned_of_next hnext

theorem aligned_of_reads (h : Reads p ts q) (hp : p.Aligned) : q.Aligned := by
  induction h with
  | nil p => exact hp
  | cons ha _ ih => exact ih (aligned_of_advance ha)

theorem ofLexer_eq_ok :
    ofLexer lexer = .ok p ↔ ∃ spanned moved, lexer.next = (.ok spanned, moved) ∧
      p = ⟨moved, spanned, 0⟩ := by
  unfold ofLexer
  split
  · next spanned moved hnext =>
      constructor
      · intro h
        cases h
        exact ⟨_, _, hnext, rfl⟩
      · rintro ⟨spanned', moved', hnext', rfl⟩
        rw [hnext] at hnext'
        cases hnext'
        rfl
  · next error moved hnext => simp [hnext]

theorem aligned_of_ofLexer (h : ofLexer lexer = .ok p) : p.Aligned := by
  obtain ⟨spanned, moved, hnext, rfl⟩ := ofLexer_eq_ok.mp h
  exact aligned_of_next hnext

/-- The end of the text can be consumed, though nothing follows it. -/
theorem reads_endOfText (h : p.Aligned) (hp : p.current.token = .endOfText) :
    ∃ q, Reads p [.endOfText] q := by
  have hnext := Lexer.next_of_rest_nil (h hp)
  exact ⟨_, reads_singleton.mpr ⟨hp, gives_advance.mpr ⟨_, _, hnext, rfl⟩⟩⟩

/-! ## The tokens that the lexer yields -/

/-- The next token and at most `count` tokens behind it. -/
def ahead (count : Nat) (p : Parser) : List (Except LexError Token) :=
  if p.current.token = .endOfText then [.ok .endOfText]
  else .ok p.current.token :: Lexer.itemTokens count p.lexer

theorem ahead_of_endOfText (hp : p.current.token = .endOfText) :
    ahead count p = [.ok .endOfText] := by
  rw [ahead, if_pos hp]

theorem itemTokens_of_next {spanned : Spanned} {moved : Lexer} {consumed : Nat}
    (h : lexer.next = (.ok spanned, moved)) :
    Lexer.itemTokens (count + 1) lexer = ahead count ⟨moved, spanned, consumed⟩ := by
  by_cases hend : spanned.token = .endOfText
  · simp [Lexer.itemTokens, Lexer.takeItems, h, ahead, Lexer.isLast, hend, Except.map]
  · simp [Lexer.itemTokens, Lexer.takeItems, h, ahead, Lexer.isLast, hend, Except.map]

theorem ahead_of_advance (h : Gives advance p () q) (hp : p.current.token ≠ .endOfText) :
    ahead (count + 1) p = .ok p.current.token :: ahead count q := by
  obtain ⟨spanned, moved, hnext, rfl⟩ := gives_advance.mp h
  rw [ahead, if_neg hp, itemTokens_of_next hnext]

theorem ahead_of_reads (h : Reads p ts q) (hts : Endless ts) :
    ahead (ts.length + count) p = ts.map .ok ++ ahead count q := by
  induction h with
  | nil p => simp
  | @cons p q r ts ha _ ih =>
      simp only [Endless, List.mem_cons, not_or] at hts
      rw [show (p.current.token :: ts).length + count = ts.length + count + 1 by
        simp only [List.length_cons]; omega]
      rw [ahead_of_advance ha (Ne.symm hts.1), ih hts.2]
      rfl

/-- Where the lexer yields more tokens, the parser can move on. -/
theorem exists_advance (h : Lexer.itemTokens count p.lexer = ts.map .ok ++ [.ok .endOfText]) :
    ∃ q, Gives advance p () q ∧ ∃ count', ahead count' q = ts.map .ok ++ [.ok .endOfText] := by
  cases count with
  | zero => simp [Lexer.itemTokens, Lexer.takeItems] at h
  | succ count =>
      cases hnext : p.lexer.next with
      | mk item moved =>
          cases item with
          | ok spanned =>
              refine ⟨_, gives_advance.mpr ⟨spanned, moved, hnext, rfl⟩, count, ?_⟩
              rw [← h, itemTokens_of_next hnext]
          | error error =>
              simp only [Lexer.itemTokens, Lexer.takeItems, hnext, Lexer.isLast, if_true] at h
              cases ts <;> simp [Except.map] at h

/-- A parser reads all tokens in front of it up to the end of the text. -/
theorem reads_of_ahead (h : ahead count p = ts.map .ok ++ [.ok .endOfText]) :
    ∃ q, Reads p ts q ∧ q.current.token = .endOfText := by
  induction ts generalizing p count with
  | nil =>
      refine ⟨p, .nil p, ?_⟩
      by_cases hp : p.current.token = .endOfText
      · exact hp
      · rw [ahead, if_neg hp] at h
        simp only [List.map_nil, List.nil_append, List.cons.injEq, Except.ok.injEq] at h
        exact h.1
  | cons t ts ih =>
      have hp : p.current.token ≠ .endOfText := by
        intro hp
        rw [ahead_of_endOfText hp] at h
        simp at h
      rw [ahead, if_neg hp, List.map_cons, List.cons_append, List.cons.injEq] at h
      obtain ⟨ht, hrest⟩ := h
      obtain ⟨q, ha, count', hq⟩ := exists_advance hrest
      obtain ⟨r, hr, hend⟩ := ih hq
      exact ⟨r, reads_cons.mpr ⟨Except.ok.inj ht, q, ha, hr⟩, hend⟩

end Parser
end Guest
