import Guest.Proofs.Expr.Depth

/-!
# Exactness of the parser of expressions

A text is read as a tree exactly if the lexer reads the whole text and its tokens derive the tree.
The main statement joins the soundness and the completeness of the rules to the tokens that the
lexer yields; that a text has one tree then follows, since a parser has one result.
-/

namespace Guest

open Guest.Parser Grammar

namespace Parse

variable {p q : Parser} {e : Expr} {ts : List Token}

/-- A parser at a text's start that reads an expression up to the end of the text. -/
theorem gives_wholeExpression :
    Gives wholeExpression p e q ↔
      ∃ r, Gives expression p e r ∧ Reads r [.endOfText] q := by
  unfold wholeExpression
  constructor
  · intro h
    obtain ⟨e', r, he, h⟩ := gives_bind.mp h
    obtain ⟨_, q', hend, h⟩ := gives_bind.mp h
    obtain ⟨rfl, rfl⟩ := gives_pure.mp h
    exact ⟨r, he, gives_expect_endOfText.mp hend⟩
  · rintro ⟨r, he, hend⟩
    exact he.bind ((gives_expect_endOfText.mpr hend).bind (gives_pure.mpr ⟨rfl, rfl⟩))

theorem gives_expression : Gives expression p e q ↔ Gives (expressionIn p.depth) p e q := by
  unfold Gives expression
  exact Iff.rfl

theorem sound_expression : Sound expression Expression := by
  intro p e q h
  rw [gives_expression] at h
  exact (soundAt p.depth).expression h

/-- What derives an expression up to the end of the text is read as that expression. -/
theorem complete_expression (h : Expression ts e) (hr : Reads p ts q)
    (hq : q.current.token.grip = 0) : Gives expression p e q := by
  rw [gives_expression]
  refine (completeAt p.depth).expression h hr (by omega) ?_
  have hlength := left_add_length_le hr (endless_expression h)
  have hdepth := left_le_depth p
  omega

end Parse

namespace Parser

open Parse

variable {α : Type} {step : Parse α} {lexer : Lexer} {p : Parser} {a : α}

theorem result_eq_ok : result (step p) = .ok a ↔ ∃ q, Gives step p a q := by
  unfold result Gives
  cases step p with
  | ok b q => simp
  | error e q => simp

theorem run_eq_ok {dialect : Dialect} {source : List Char} :
    run step dialect source = .ok a ↔
      ∃ p q, ofLexer (.ofChars dialect source) = .ok p ∧ Gives step p a q := by
  unfold run ofChars
  cases ofLexer (.ofChars dialect source) with
  | ok p => simp [result_eq_ok]
  | error e => simp

/-- The items of a lexer from which a parser starts: its first token and those behind it. -/
theorem items_of_ofLexer (h : ofLexer lexer = .ok p) :
    lexer.items.map (Except.map Spanned.token) = ahead lexer.rest.length p := by
  obtain ⟨spanned, moved, hnext, rfl⟩ := ofLexer_eq_ok.mp h
  exact itemTokens_of_next hnext

theorem left_le_of_ofLexer (h : ofLexer lexer = .ok p) : p.left ≤ lexer.rest.length := by
  obtain ⟨spanned, moved, hnext, rfl⟩ := ofLexer_eq_ok.mp h
  obtain ⟨hend, -⟩ | ⟨htoken, hless⟩ := Lexer.next_progress hnext
  · simp [left, hend]
  · simp only [left, htoken, if_false]
    omega

/-- A parser at the start of a text reads some tokens and then stands at the end exactly if the
lexer yields these tokens. -/
theorem yields_iff {ts : List Token} (hts : Endless ts) :
    lexer.Yields ts ↔
      ∃ p q, ofLexer lexer = .ok p ∧ Reads p ts q ∧ q.current.token = .endOfText := by
  constructor
  · intro h
    rw [Lexer.Yields] at h
    cases hnext : lexer.next with
    | mk item moved =>
        cases item with
        | ok spanned =>
            have hp : ofLexer lexer = .ok ⟨moved, spanned, 0⟩ :=
              ofLexer_eq_ok.mpr ⟨spanned, moved, hnext, rfl⟩
            rw [items_of_ofLexer hp] at h
            obtain ⟨q, hr, hq⟩ := reads_of_ahead h
            exact ⟨_, q, hp, hr, hq⟩
        | error error =>
            simp only [Lexer.items, Lexer.takeItems, hnext, Lexer.isLast, if_true] at h
            cases ts <;> simp [Except.map] at h
  · rintro ⟨p, q, hp, hr, hq⟩
    have hlength := left_add_length_le hr hts
    have hleft := left_le_of_ofLexer hp
    obtain ⟨count, hcount⟩ := Nat.exists_eq_add_of_le (show ts.length ≤ lexer.rest.length by omega)
    rw [Lexer.Yields, items_of_ofLexer hp, hcount, ahead_of_reads hr hts, ahead_of_endOfText hq]

/-- A parser at the start of a text that denotes an expression reads it and then the end. -/
theorem gives_wholeExpression_of_yields {ts : List Token} {e : Expr} (hy : lexer.Yields ts)
    (h : Expression ts e) : ∃ p q, ofLexer lexer = .ok p ∧ Gives wholeExpression p e q := by
  obtain ⟨p, q, hp, hr, hq⟩ := (yields_iff (endless_expression h)).mp hy
  have hgrip : q.current.token.grip = 0 := by simp [hq]
  obtain ⟨r, hend⟩ := reads_endOfText (aligned_of_reads hr (aligned_of_ofLexer hp)) hq
  exact ⟨p, r, hp, gives_wholeExpression.mpr ⟨q, complete_expression h hr hgrip, hend⟩⟩

end Parser

namespace Expr

open Parse Guest.Parser

variable {dialect : Dialect} {source : String} {ts : List Token} {e e' : Expr}

theorem exists_derivation_of_parse (h : parse dialect source = .ok e) :
    ∃ ts, (Lexer.ofString dialect source).Yields ts ∧ Expression ts e := by
  obtain ⟨p, q, hp, hgives⟩ := run_eq_ok.mp h
  obtain ⟨r, he, hend⟩ := gives_wholeExpression.mp hgives
  obtain ⟨ts, hr, hts⟩ := sound_expression he
  have htoken : r.current.token = .endOfText := (reads_singleton.mp hend).1
  exact ⟨ts, (yields_iff (endless_expression hts)).mpr ⟨p, r, hp, hr, htoken⟩, hts⟩

theorem parse_of_derivation (hy : (Lexer.ofString dialect source).Yields ts)
    (h : Expression ts e) : parse dialect source = .ok e :=
  run_eq_ok.mpr (gives_wholeExpression_of_yields hy h)

theorem eq_of_derivations (hy : (Lexer.ofString dialect source).Yields ts)
    (h : Expression ts e) (h' : Expression ts e') : e = e' := by
  have heq := parse_of_derivation hy h
  rw [parse_of_derivation hy h'] at heq
  exact (Except.ok.inj heq).symm

/-- Parsing is exact: a text is read as a tree if and only if the lexer reads the whole text and
its tokens derive the tree; these tokens derive no other tree; and the bound on the depth of the
recursion never decides what a parser does. -/
theorem parse_exact (dialect : Dialect) (source : String) :
    (∀ e, parse dialect source = .ok e ↔
      ∃ ts, (Lexer.ofString dialect source).Yields ts ∧ Expression ts e) ∧
    (∀ ts e e', (Lexer.ofString dialect source).Yields ts → Expression ts e →
      Expression ts e' → e = e') ∧
    (∀ (parser : Parser) (depth : Nat), parser.depth ≤ depth →
      expressionIn depth parser = expression parser) := by
  refine ⟨fun e => ⟨exists_derivation_of_parse, ?_⟩, ?_, ?_⟩
  · rintro ⟨ts, hy, h⟩
    exact parse_of_derivation hy h
  · intro ts e e' hy h h'
    exact eq_of_derivations hy h h'
  · intro parser depth hdepth
    exact expressionIn_sameAt_expression hdepth

end Expr
end Guest
