import Guest.Proofs.Expr.Viability
import Guest.Proofs.Parser.Cuts
import Guest.Proofs.Parser.Spans

/-!
# Syntax errors are reported at the first impossible token

A text that is not read because of a token is read up to that token as the beginning of another text
that denotes an expression, and no list of tokens that denotes an expression begins with the tokens
up to that one.  So the error names the first token at which the text cannot be saved any more.
-/

namespace Guest

open Lexeme Parse

variable {α : Type} {d : Dialect} {s x : List Char} {t : Token} {ts more : List Token}
  {text : String}

/-! ## The texts of fillers -/

namespace Lexeme

theorem scan_filler (h : Filler t text) :
    scan d (text.toList ++ []) = ⟨text.toList.length, .ok t⟩ := by
  cases h <;> cases d <;> rfl

theorem visible_filler (h : Filler t text) : Visible (text.toList ++ s) := by
  cases h
  all_goals exact starts_cons.mpr (by decide)

/-- Fillers have a text that is read in front of nothing and behind everything. -/
theorem exists_words_of_fills (h : Fills ts) :
    ∃ s, Words d s ts ∧ Starts (fun c => Text.isBlank c = true) s := by
  induction ts with
  | nil => exact ⟨[], .nil (List.forall_mem_nil _), starts_nil⟩
  | cons t ts ih =>
      obtain ⟨⟨text, htext⟩, hts⟩ := fills_cons.mp h
      obtain ⟨s, hwords, hstarts⟩ := ih hts
      have hblank : Text.isBlank ' ' = true := by decide
      have hne : text.toList ≠ [] := by cases htext <;> decide
      have hneutral : Starts (fun c => c ∈ ([] : List Char).head? ∨ Neutral c) s :=
        fun c hc => .inr (neutral_of_isBlank (hstarts c hc))
      have hfront : Front d (' ' :: (text.toList ++ s)) [' '] text.toList s t :=
        ⟨rfl, by simp [hblank], visible_filler htext,
          scan_congr (scan_filler htext) hne hneutral⟩
      have hend : t ≠ .endOfText := by
        rintro rfl
        cases htext
      exact ⟨_, .cons hfront hend hwords, starts_cons.mpr hblank⟩

/-- Words that are cut off in front of other words are words together with them. -/
theorem Cut.words_append (h : Cut d x ts s) (hs : Words d s more) :
    Words d (x ++ s) (ts ++ more) := by
  induction h with
  | nil => exact hs
  | cons hfront ht _ ih => exact .cons hfront ht (ih hs)

end Lexeme

namespace Parse

open Guest.Parser Grammar

variable {p q : Parser} {us : List Token} {e : Expr} {source : List Char}

/-! ## What is in front of a refused token -/

theorem viable_wholeExpression (h : Refuses wholeExpression p q) : Viable Expression p q := by
  unfold wholeExpression at h
  rcases refuses_bind.mp h with h | ⟨e, r, he, h⟩
  · exact viable_expression h
  rcases refuses_bind.mp h with h | ⟨_, r', -, h⟩
  · obtain ⟨-, rfl⟩ := refuses_expect.mp h
    obtain ⟨ts, hr, hts⟩ := sound_expression he
    exact viable_of_reads hr fills_nil ⟨e, by simpa using hts⟩
  · exact absurd h not_refuses_pure

/-- What a parser has read from the start of a source can be completed to another source. -/
theorem exists_source_of_viable (hp : ofLexer (.ofChars d source) = .ok p)
    (h : Viable Expression p q) :
    ∃ ts more source' e, Reads p ts q ∧ (Lexer.ofChars d source').Yields (ts ++ more) ∧
      Expression (ts ++ more) e := by
  obtain ⟨ts, more, e, hr, hmore, he⟩ := h
  have hends := (endless_append.mp (endless_expression he)).1
  obtain ⟨x, tail, -, hcut, -⟩ := (facesFront_of_ofLexer hp).exists_cut hr hends
  obtain ⟨s, hwords, hstarts⟩ := exists_words_of_fills (d := d) hmore
  have hcut := hcut.congr fun c hc => .inr (neutral_of_isBlank (hstarts c hc))
  exact ⟨ts, more, x ++ s, e, hr, Lexer.yields_iff_words.mpr (hcut.words_append hwords), he⟩

/-! ## What does not go on -/

/-- Where the whole parser stops in front of a token, the parser of expressions stops there. -/
theorem halts_expression_of_refuses (h : Refuses wholeExpression p q) : Halts expression p q := by
  unfold wholeExpression at h
  rcases refuses_bind.mp h with h | ⟨e, r, he, h⟩
  · exact .inr h
  rcases refuses_bind.mp h with h | ⟨_, r', -, h⟩
  · obtain ⟨-, rfl⟩ := refuses_expect.mp h
    exact .inl ⟨e, he⟩
  · exact absurd h not_refuses_pure

/-- A refused token goes on no expression. -/
theorem not_expression_of_refuses (h : Refuses wholeExpression p q) (hr : Reads p ts q) :
    ¬Expression (ts ++ q.current.token :: more) e := by
  intro he
  have hends := (endless_append.mp (endless_expression he)).2
  have hpasses := passes_expression he (shares_of_reads hr)
  obtain ⟨t, us, hself⟩ := hpasses (halts_expression_of_refuses h)
  exact not_reads_self (endless_cons.mp hends).1 hself

/-- At the end of a text nothing is refused that is an expression. -/
theorem not_expression_of_refuses_end (h : Refuses wholeExpression p q) (hr : Reads p ts q)
    (hp : p.Aligned) (hend : q.current.token = .endOfText) : ¬Expression ts e := by
  intro he
  have hgives := complete_expression he hr (by simp [hend])
  obtain ⟨r, hr⟩ := reads_endOfText (aligned_of_reads hr hp) hend
  obtain ⟨position, expected, found, h⟩ := h
  have hwhole : Gives wholeExpression p e r := gives_wholeExpression.mpr ⟨q, hgives, hr⟩
  rw [Gives, h] at hwhole
  cases hwhole

/-- No list of an expression begins with the tokens up to a refused one. -/
theorem not_prefix_of_refuses (h : Refuses wholeExpression p q) (hr : Reads p ts q)
    (hp : p.Aligned) (he : Expression us e) :
    ¬ts ++ [q.current.token] <+: us ++ [.endOfText] := by
  rintro ⟨rest, heq⟩
  rcases List.eq_nil_or_concat rest with rfl | ⟨more, t, rfl⟩
  · rw [List.append_nil] at heq
    obtain ⟨rfl, hend⟩ := List.append_inj' heq rfl
    exact not_expression_of_refuses_end h hr hp (List.singleton_inj.mp hend) he
  · rw [List.concat_eq_append, ← List.append_assoc] at heq
    obtain ⟨rfl, -⟩ := List.append_inj' heq rfl
    rw [List.append_assoc] at he
    exact not_expression_of_refuses h hr he

/-- A text that is not read because of a token is refused by the parser that starts it. -/
theorem exists_refusal_of_run {step : Parse α} {position : Position} {expected : Expected}
    {found : Token} (h : run step d source = .error (.unexpected position expected found)) :
    ∃ p q, ofLexer (.ofChars d source) = .ok p ∧
      step p = .error (.unexpected position expected found) q := by
  unfold run ofChars at h
  cases hp : ofLexer (.ofChars d source) with
  | ok p =>
      rw [hp] at h
      cases hstep : step p with
      | ok a q =>
          simp only [hstep, result] at h
          cases h
      | error error q =>
          simp only [hstep, result] at h
          cases h
          exact ⟨p, q, rfl, hstep⟩
  | error error =>
      rw [hp] at h
      cases h
      unfold ofLexer at hp
      split at hp <;> cases hp

end Parse

namespace Expr

open Guest.Parser Grammar

variable {dialect : Dialect} {source : String} {position : Position} {expected : Expected}
  {found : Token} {e : Expr}

/-- A list of tokens that parses: the tokens of a text that denotes an expression. -/
def Parses (dialect : Dialect) (ts : List Token) : Prop :=
  ∃ source e, (Lexer.ofString dialect source).Yields ts ∧ parse dialect source = .ok e

theorem Parses.exists_derivation (h : Parses dialect ts) : ∃ e, Expression ts e := by
  obtain ⟨source, e, hy, hparse⟩ := h
  obtain ⟨ts', hy', he⟩ := exists_derivation_of_parse hparse
  have htokens := hy.symm.trans hy'
  have heq : ts.map (Except.ok (ε := LexError)) = ts'.map .ok := List.append_cancel_right htokens
  obtain rfl := (List.map_inj_right fun _ _ => Except.ok.inj).mp heq
  exact ⟨e, he⟩

/-- A token of a text, which may be its end, is the first impossible one: the tokens before it begin
a list that parses, and no list that parses, nor any other list that derives an expression, begins
with the tokens up to it. -/
structure FirstImpossible (dialect : Dialect) (source : String) (before : List Spanned)
    (token : Spanned) : Prop where
  items : ∃ rest, (Lexer.ofString dialect source).items = before.map .ok ++ .ok token :: rest
  possible : ∃ more, Parses dialect (before.map Spanned.token ++ more)
  impossible : ∀ ts, Parses dialect ts →
    ¬before.map Spanned.token ++ [token.token] <+: ts ++ [.endOfText]
  underivable : ∀ ts e, Expression ts e →
    ¬before.map Spanned.token ++ [token.token] <+: ts ++ [.endOfText]

/-- A syntax error is reported at the first impossible token of the text. -/
theorem error_at_first_impossible
    (h : parse dialect source = .error (.unexpected position expected found)) :
    ∃ before token, FirstImpossible dialect source before token ∧
      token.start = position ∧ token.token = found := by
  obtain ⟨p, q, hp, hwhole⟩ := exists_refusal_of_run h
  have hrefuses : Refuses wholeExpression p q := ⟨_, _, _, hwhole⟩
  obtain ⟨hposition, hfound, -⟩ := orderly_wholeExpression.refuses hwhole
  obtain ⟨ts, more, source', e, hr, hy, he⟩ :=
    exists_source_of_viable hp (viable_wholeExpression hrefuses)
  obtain ⟨before, rfl, hwalks⟩ := exists_walks_of_reads hr
  have hends := (endless_append.mp (endless_expression he)).1
  have hunderivable : ∀ ts e, Expression ts e →
      ¬before.map Spanned.token ++ [q.current.token] <+: ts ++ [.endOfText] :=
    fun ts e he => not_prefix_of_refuses hrefuses hr (aligned_of_ofLexer hp) he
  rw [← String.toList_ofList (l := source')] at hy
  refine ⟨before, q.current, ⟨?_, ?_, ?_, hunderivable⟩, hposition.symm, hfound.symm⟩
  · exact exists_items_eq hp hwalks hends
  · exact ⟨more, String.ofList source', e, hy, parse_of_derivation hy he⟩
  · intro ts hts
    obtain ⟨e, he⟩ := hts.exists_derivation
    exact hunderivable ts e he

/-- The second of two commas in a call is the first impossible token. -/
theorem error_at_first_impossible_comma :
    let source := "f(1,, 2)"
    parse .extended source = .error (.unexpected ⟨4, 1, 5⟩ .expression (.sign .comma)) ∧
      ∃ before token, FirstImpossible .extended source before token ∧
        token.start = ⟨4, 1, 5⟩ ∧ token.token = .sign .comma := by
  intro source
  have herror : (parse .extended source).map (fun _ => ()) =
      .error (.unexpected ⟨4, 1, 5⟩ .expression (.sign .comma)) := by decide +kernel
  cases h : parse .extended source with
  | ok e =>
      rw [h] at herror
      cases herror
  | error error =>
      rw [h] at herror
      cases herror
      exact ⟨rfl, error_at_first_impossible h⟩

end Expr
end Guest
