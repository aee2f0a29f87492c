import Guest.Proofs.Parser.Cuts

/-!
# Where expressions end

No list of tokens that derives an expression ends with a question mark.  So a delimiter behind an
expression makes no longer token of its last one, not even a colon, and as no expression goes on at
a colon or a closing bracket, its source is read as the expression in front of any of them.
-/

namespace Guest
namespace Grammar

variable {t : Token} {ts us : List Token}

/-- The last token of a list, if there is one, is no question mark. -/
def NoQuestion (ts : List Token) : Prop := ∀ t ∈ ts.getLast?, t ≠ .sign .question

theorem noQuestion_nil : NoQuestion [] := fun _ h => nomatch h

theorem noQuestion_singleton (ht : t ≠ .sign .question) : NoQuestion [t] := by
  intro u hu
  rwa [← Option.some.inj hu]

theorem NoQuestion.append (h : NoQuestion ts) (h' : NoQuestion us) : NoQuestion (ts ++ us) := by
  intro t ht
  rw [List.getLast?_append] at ht
  cases hus : us.getLast? with
  | none =>
      rw [hus] at ht
      exact h t ht
  | some u =>
      rw [hus] at ht
      exact h' t (hus.trans ht)

theorem NoQuestion.cons (ht : t ≠ .sign .question) (h : NoQuestion ts) : NoQuestion (t :: ts) :=
  (noQuestion_singleton ht).append h

/-- What stands in front of a token that is no question mark does not matter. -/
theorem noQuestion_append_cons (ht : t ≠ .sign .question) (h : NoQuestion us) :
    NoQuestion (ts ++ t :: us) := by
  intro u hu
  rw [List.getLast?_append, List.getLast?_cons] at hu
  refine h.cons ht u ?_
  rw [List.getLast?_cons]
  exact hu

theorem noQuestion_prefixes {ops : List UnaryOp} (h : Prefixes ts ops) : NoQuestion ts := by
  induction h with
  | nil => exact noQuestion_nil
  | cons hop _ ih =>
      refine ih.cons ?_
      rintro rfl
      cases hop

theorem noQuestion_primary {e : Expr} (h : Primary ts e) : NoQuestion ts := by
  cases h with
  | number | string | boolean | null | identifier =>
      exact noQuestion_singleton Token.noConfusion
  | call =>
      refine .cons Token.noConfusion ?_
      exact (noQuestion_append_cons (by decide) noQuestion_nil).cons (by decide)
  | group | array | object =>
      exact (noQuestion_append_cons (by decide) noQuestion_nil).cons (by decide)

mutual

theorem noQuestion_expression {ts : List Token} {e : Expr} : Expression ts e → NoQuestion ts
  | .chain h => noQuestion_chain h
  | .conditional _ _ hfalse => by
      rw [List.append_cons, ← List.append_assoc]
      exact noQuestion_append_cons (by decide) (noQuestion_expression hfalse)
  | .elvis _ hfalse => noQuestion_append_cons (by decide) (noQuestion_expression hfalse)

theorem noQuestion_chain {level : Nat} {ts : List Token} {e : Expr} :
    Chain level ts e → NoQuestion ts
  | .operands _ hhead htail => (noQuestion_chain hhead).append (noQuestion_tail htail)
  | .unary h => noQuestion_unary h

theorem noQuestion_tail {level : Nat} {ts : List Token} {tail : List (BinaryOp × Expr)} :
    Tail level ts tail → NoQuestion ts
  | .nil => noQuestion_nil
  | .cons hop _ hright htail =>
      ((noQuestion_chain hright).append (noQuestion_tail htail)).cons (by rintro rfl; cases hop)

theorem noQuestion_unary {ts : List Token} {e : Expr} : Unary ts e → NoQuestion ts
  | .prefixes hops hpower => (noQuestion_prefixes hops).append (noQuestion_power hpower)

theorem noQuestion_power {ts : List Token} {e : Expr} : Power ts e → NoQuestion ts
  | .base h => noQuestion_access h
  | .power _ hexponent => noQuestion_append_cons (by decide) (noQuestion_unary hexponent)

theorem noQuestion_access {ts : List Token} {e : Expr} : Access ts e → NoQuestion ts
  | .keys hbase hkeys => (noQuestion_primary hbase).append (noQuestion_keys hkeys)

theorem noQuestion_keys {ts : List Token} {keys : List Key} : Keys ts keys → NoQuestion ts
  | .nil => noQuestion_nil
  | .dot hkeys => ((noQuestion_keys hkeys).cons Token.noConfusion).cons (by decide)
  | .text _ hkeys => (noQuestion_append_cons (by decide) (noQuestion_keys hkeys)).cons (by decide)
  | .computed _ _ hkeys =>
      (noQuestion_append_cons (by decide) (noQuestion_keys hkeys)).cons (by decide)

end

end Grammar

namespace Lexeme

variable {d : Dialect} {gap rest : List Char} {c : Char} {sign : Sign}

/-- A delimiter behind blanks. -/
theorem front_delimiter (h : Delimiter c sign) (hgap : ∀ a ∈ gap, Text.isBlank a = true) :
    Front d (gap ++ c :: rest) gap [c] rest (.sign sign) := by
  refine ⟨rfl, hgap, ?_, ?_⟩
  · cases h <;> exact starts_cons.mpr rfl
  · cases h <;> rfl

theorem isPlain_delimiter (h : Delimiter c sign) : IsPlain (.sign sign) := by
  cases h <;> decide

theorem starts_mayFollow_delimiter {t : Token} (h : Delimiter c sign)
    (hgap : ∀ a ∈ gap, Text.isBlank a = true) (ht : t ≠ .sign .question) :
    Starts (MayFollow d t) (gap ++ c :: rest) := by
  refine starts_append (fun a ha => ?_) (starts_cons.mpr (mayFollow_delimiter h ht))
  exact mayFollow_of_neutral (neutral_of_isBlank (hgap a (List.mem_of_mem_head? ha)))

end Lexeme

namespace Expr

open Lexeme Parse Guest.Parser Grammar

variable {e : Expr} {body rest : List Char} {c : Char} {sign : Sign}

/-- The source of an expression is read as the expression in front of a delimiter at which no
expression goes on, and the parser is left at the delimiter. -/
theorem exists_gives_of_parse (h : Expr.parse .extended (String.ofList body) = .ok e)
    (hdelimiter : Delimiter c sign) (hgrip : (Token.sign sign).grip = 0) :
    ∃ x gap p r, body = x ++ gap ∧ ofLexer (.ofChars .extended (body ++ c :: rest)) = .ok p ∧
      Gives expression p e r ∧ FacesFront .extended x (gap ++ c :: rest) r ∧
      r.current.token = .sign sign ∧ r.lexer.rest = rest ∧
      r.current.stop.offset = body.length + 1 := by
  obtain ⟨ts, hyields, hts⟩ := Expr.exists_derivation_of_parse h
  rw [Lexer.ofString, String.toList_ofList] at hyields
  obtain ⟨x, gap, rfl, hgap, hcut⟩ := words_iff_cut.mp (Lexer.yields_iff_words.mp hyields)
  have hfront : Front .extended (gap ++ c :: rest) gap [c] rest (.sign sign) :=
    front_delimiter hdelimiter hgap
  have hcut' : Cut .extended x ts (gap ++ c :: rest) := hcut.congr_of_mayFollow fun t ht a ha =>
    .inr (starts_mayFollow_delimiter hdelimiter hgap (noQuestion_expression hts t ht) a ha)
  have hready : Ready .extended (gap ++ c :: rest) := ⟨_, _, _, _, hfront⟩
  obtain ⟨p, hofLexer, hp⟩ := exists_faces_of_ready (hcut'.ready hready)
  obtain ⟨r, hreads, hr⟩ := hp.exists_reads hcut' hready
  obtain ⟨htoken, hrest⟩ := hr.current_eq hfront
  obtain ⟨gap', w, hshows, hstart, hstop⟩ := hr.current
  obtain ⟨rfl, -, -⟩ := hshows.unique hfront (isPlain_delimiter hdelimiter)
  have hword : [c] ++ rest = w ++ r.lexer.rest := List.append_cancel_left hshows.split
  rw [hrest] at hword
  rw [← htoken] at hgrip
  rw [← List.append_assoc] at hofLexer
  refine ⟨x, gap', p, r, rfl, hofLexer, complete_expression hts hreads hgrip, hr, htoken, hrest, ?_⟩
  rw [hstop, hstart, ← List.append_cancel_right hword, List.length_append, List.length_append,
    List.length_nil, Nat.zero_add, List.length_singleton]

end Expr
end Guest
