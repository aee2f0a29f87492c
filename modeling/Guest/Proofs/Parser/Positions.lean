import Guest.Proofs.Parser.Invariants
import Guest.Proofs.Token.Tiling

/-!
# Positions lie in the text

Whatever a parser tells about its text, it tells about places of the text: each position is the one
behind some first characters.  This is kept where a token is consumed, hence by every step, and it
holds of the errors of the lexer and of those at the next token.
-/

namespace Guest

namespace Position

variable {s : List Char} {p : Position}

/-- The position behind some first characters of a text. -/
def On (s : List Char) (p : Position) : Prop := ∃ u, u <+: s ∧ p = start.advance u

theorem On.offset_le (h : On s p) : p.offset ≤ s.length := by
  obtain ⟨u, hu, rfl⟩ := h
  rw [offset_start_advance]
  exact hu.length_le

/-- In a text of one line the columns count the characters. -/
theorem start_advance_of_not_mem {u : List Char} (h : '\n' ∉ u) :
    start.advance u = ⟨u.length, 1, u.length + 1⟩ := by
  induction u using List.reverseRecOn with
  | nil => rfl
  | append_singleton u c ih =>
      obtain ⟨hu, hc⟩ := not_or.mp (List.mem_append.not.mp h)
      have hne : c ≠ '\n' := fun heq => hc (List.mem_singleton.mpr heq.symm)
      rw [advance_concat, ih hu, step, if_neg hne, List.length_append]
      rfl

end Position

namespace ParseError

/-- Tells the faults that a line has as a whole; a fault of an interpolation is found where its
expression is parsed. -/
def isStructural : ParseError → Bool
  | messageForm _ fault => fault != .unclosedInterpolation
  | _ => false

end ParseError

open Position

namespace Lexer

/-- The lexer stands in a text, in front of what it has not read. -/
def Stands (s : List Char) (lexer : Lexer) : Prop :=
  ∃ read, s = read ++ lexer.rest ∧ lexer.position = start.advance read

variable {s : List Char} {lexer moved : Lexer}

/-- Where the lexer reads a token or fails to, all positions are in the text. -/
theorem Stands.next (h : lexer.Stands s) :
    ∃ begin stop, begin.On s ∧ stop.On s ∧ lexer.next.2.Stands s ∧
      (∀ spanned, lexer.next.1 = .ok spanned → spanned.start = begin ∧ spanned.stop = stop) ∧
      ∀ e, lexer.next.1 = .error e → e.position = begin := by
  obtain ⟨read, rfl, hposition⟩ := h
  unfold Lexer.next
  dsimp only
  have hsplit := List.takeWhile_append_dropWhile (p := Text.isBlank) (l := lexer.rest)
  generalize lexer.rest.takeWhile Text.isBlank = gap at *
  generalize lexer.rest.dropWhile Text.isBlank = visible at *
  generalize Lexeme.scan lexer.dialect visible = lexeme
  have hword := List.take_append_drop lexeme.length visible
  generalize visible.take lexeme.length = w at *
  generalize visible.drop lexeme.length = rest at *
  rw [hposition, ← advance_append, ← advance_append, ← hsplit, ← hword]
  refine ⟨start.advance (read ++ gap), start.advance (read ++ gap ++ w), ?_, ?_, ?_, ?_, ?_⟩
  · exact ⟨read ++ gap, ⟨w ++ rest, by simp⟩, rfl⟩
  · exact ⟨read ++ gap ++ w, ⟨rest, by simp⟩, rfl⟩
  · split
    · exact ⟨read ++ gap ++ w, by simp, rfl⟩
    · exact ⟨read ++ gap ++ w, by simp, rfl⟩
  · intro spanned hspanned
    split at hspanned
    · cases hspanned
      exact ⟨rfl, rfl⟩
    · cases hspanned
  · intro e he
    split at he
    · cases he
    · cases he
      rfl

theorem stands_ofChars (d : Dialect) (s : List Char) : (ofChars d s).Stands s := ⟨[], rfl, rfl⟩

end Lexer

namespace Parser

open Parse

variable {α : Type} {s : List Char} {d : Dialect} {step : Parse α} {e : ParseError} {p : Parser}

/-- The positions of a parser are in a text. -/
structure Stands (s : List Char) (p : Parser) : Prop where
  lexer : p.lexer.Stands s
  start : p.current.start.On s
  stop : p.current.stop.On s

/-- An error is found in a text, and it is none of a line as a whole. -/
def FoundIn (s : List Char) (e : ParseError) : Prop := e.position.On s ∧ e.isStructural = false

theorem stands_of_next {lexer moved : Lexer} {spanned : Spanned} {consumed : Nat}
    (h : lexer.Stands s) (hnext : lexer.next = (.ok spanned, moved)) :
    Stands s ⟨moved, spanned, consumed⟩ := by
  obtain ⟨begin, stop, hbegin, hstop, hmoved, hspanned, -⟩ := h.next
  rw [hnext] at hmoved hspanned
  obtain ⟨hbegin', hstop'⟩ := hspanned spanned rfl
  exact ⟨hmoved, hbegin' ▸ hbegin, hstop' ▸ hstop⟩

theorem foundIn_of_next {lexer moved : Lexer} {error : LexError} (h : lexer.Stands s)
    (hnext : lexer.next = (.error error, moved)) : FoundIn s (.lex error) := by
  obtain ⟨begin, -, hbegin, -, -, -, herror⟩ := h.next
  rw [hnext] at herror
  have hposition : error.position.On s := herror error rfl ▸ hbegin
  exact ⟨hposition, rfl⟩

theorem invariant_stands (s : List Char) : Invariant (Stands s) fun e _ => FoundIn s e := by
  refine ⟨?_, ?_, ?_⟩
  · intro p q hp ha
    obtain ⟨spanned, moved, hnext, rfl⟩ := gives_advance.mp ha
    exact stands_of_next hp.lexer hnext
  · intro p e moved hp hnext _
    exact foundIn_of_next hp.lexer hnext
  · intro p expected hp
    exact ⟨hp.start, rfl⟩

/-- The parser at the first token of a text stands in it. -/
theorem stands_of_ofLexer (h : ofLexer (.ofChars d s) = .ok p) : Stands s p := by
  obtain ⟨spanned, moved, hnext, rfl⟩ := ofLexer_eq_ok.mp h
  exact stands_of_next (Lexer.stands_ofChars d s) hnext

/-- The errors of a step that is run on a text are found in the text. -/
theorem foundIn_of_run (hstep : Keeps (Stands s) (fun e _ => FoundIn s e) step)
    (h : run step d s = .error e) : FoundIn s e := by
  unfold run at h
  split at h
  · next p hp =>
      cases hresult : step p with
      | ok a q =>
          rw [hresult] at h
          cases h
      | error e' q =>
          rw [hresult] at h
          cases h
          exact hstep.fails (stands_of_ofLexer hp) hresult
  · next e' hp =>
      cases h
      unfold ofChars ofLexer at hp
      split at hp
      · cases hp
      · next error moved hnext =>
          cases hp
          exact foundIn_of_next (Lexer.stands_ofChars d s) hnext

end Parser
end Guest
