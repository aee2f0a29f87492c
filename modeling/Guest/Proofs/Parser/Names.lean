import Guest.Proofs.Parser.Places

/-!
# The names that a parser meets

A name in front of a parser was read by its lexer.  No step invents one: a step that consumes a
token reads the next one, and a step that replaces a token puts no name there.
-/

namespace Guest

open Lexeme

/-- A dialect reads a name somewhere. -/
def Dialect.Reads (d : Dialect) (name : String) : Prop :=
  ∃ s, (scan d s).outcome = .ok (.identifier name)

namespace Lexer

variable {lexer moved : Lexer} {spanned : Spanned}

theorem scan_of_next (h : lexer.next = (.ok spanned, moved)) :
    (scan lexer.dialect lexer.visible).outcome = .ok spanned.token ∧
      moved.dialect = lexer.dialect := by
  cases hscan : (scan lexer.dialect lexer.visible).outcome with
  | ok token =>
      obtain ⟨read, after, hnext, htoken, hdialect, -⟩ := next_of_scan_ok hscan
      rw [hnext] at h
      cases h
      exact ⟨congrArg Except.ok htoken.symm, hdialect⟩
  | error fault =>
      obtain ⟨error, after, hnext⟩ := next_of_scan_error hscan
      rw [hnext] at h
      cases h

end Lexer

namespace Parser

open Parse

variable {d : Dialect} {p q : Parser} {ts : List Token} {source : List Char}

/-- A parser of a dialect whose next token, where it is a name, was read. -/
structure Names (d : Dialect) (p : Parser) : Prop where
  dialect : p.lexer.dialect = d
  name : ∀ name, p.current.token = .identifier name → d.Reads name

theorem names_of_next {lexer moved : Lexer} {spanned : Spanned} {consumed : Nat}
    (hdialect : lexer.dialect = d) (h : lexer.next = (.ok spanned, moved)) :
    Names d ⟨moved, spanned, consumed⟩ := by
  obtain ⟨hscan, hmoved⟩ := Lexer.scan_of_next h
  refine ⟨hmoved.trans hdialect, ?_⟩
  intro name hname
  refine ⟨lexer.visible, ?_⟩
  rw [← hname, ← hdialect]
  exact hscan

theorem Names.advance (hp : Names d p) (h : Gives advance p () q) : Names d q := by
  obtain ⟨spanned, moved, hnext, rfl⟩ := gives_advance.mp h
  exact names_of_next hp.dialect hnext

theorem Names.reads (hp : Names d p) (h : Reads p ts q) : Names d q := by
  induction h with
  | nil p => exact hp
  | cons ha _ ih => exact ih (hp.advance ha)

theorem names_of_ofLexer (h : ofLexer (.ofChars d source) = .ok p) : Names d p := by
  obtain ⟨spanned, moved, hnext, rfl⟩ := ofLexer_eq_ok.mp h
  exact names_of_next rfl hnext

end Parser

/-! ## Steps that keep names read -/

namespace Parse

open Guest.Parser

variable {α β : Type} {d : Dialect} {P : α → Prop} {Q : β → Prop} {x : Parse α}

/-- From a place whose name was read, a step gives results with a property and stops at such a
place. -/
def Meets (d : Dialect) (step : Parse α) (P : α → Prop) : Prop :=
  ∀ ⦃p a q⦄, Names d p → Gives step p a q → P a ∧ Names d q

theorem Meets.bind {f : α → Parse β} (hx : Meets d x P) (hf : ∀ a, P a → Meets d (f a) Q) :
    Meets d (x >>= f) Q := by
  intro p b r hp h
  obtain ⟨a, q, hgives, hrest⟩ := gives_bind.mp h
  obtain ⟨ha, hq⟩ := hx hp hgives
  exact hf a ha hq hrest

theorem meets_pure {a : α} (ha : P a) : Meets d (pure a) P := by
  intro p b q hp h
  obtain ⟨rfl, rfl⟩ := gives_pure.mp h
  exact ⟨ha, hp⟩

theorem meets_unexpected {expected : Expected} : Meets d (unexpected expected) P :=
  fun _ _ _ _ h => absurd h not_gives_unexpected

theorem meets_advance : Meets d advance fun _ => True :=
  fun _ _ _ hp h => ⟨trivial, hp.advance h⟩

/-- A token that is looked at was read, if it is a name. -/
theorem meets_peek : Meets d peek fun t => ∀ name, t = .identifier name → d.Reads name := by
  intro p t q hp h
  cases h
  exact ⟨hp.name, hp⟩

theorem meets_accept {s : Sign} : Meets d (accept s) fun _ => True := by
  intro p b q hp h
  rcases gives_accept.mp h with ⟨-, hreads⟩ | ⟨-, -, rfl⟩
  · exact ⟨trivial, hp.reads hreads⟩
  · exact ⟨trivial, hp⟩

theorem meets_expect_sign {s : Sign} : Meets d (expect (.sign s)) fun _ => True :=
  fun _ _ _ hp h => ⟨trivial, hp.reads (gives_expect_sign.mp h)⟩

end Parse

/-! ## What a name is -/

namespace Parser

/-- What a dialect reads as a name has characters, and all of them are parts of names. -/
theorem isNamePart_of_reads {d : Dialect} {name : String} (h : d.Reads name) :
    name.toList ≠ [] ∧ ∀ c ∈ name.toList, isNamePart c = true := by
  obtain ⟨s, hscan⟩ := h
  obtain ⟨c, rest, rfl, hstart, hword⟩ := word_of_scan hscan
  obtain ⟨htake, -⟩ := takeWhile_of_word hword
  rw [← htake]
  constructor
  · rw [List.takeWhile_cons_of_pos (isNamePart_of_isNameStart hstart)]
    exact List.cons_ne_nil _ _
  · exact List.all_eq_true.mp List.all_takeWhile

/-- What the full language reads as a name is one as a whole. -/
theorem isName_of_reads {name : String} (h : Dialect.extended.Reads name) :
    Token.IsName name := by
  have hpart : ∀ a ∈ name.toList, isNamePart a = true := (isNamePart_of_reads h).2
  obtain ⟨s, hscan⟩ := h
  obtain ⟨c, rest, rfl, hstart, hword⟩ := word_of_scan hscan
  obtain ⟨hnot, htake, htoken⟩ := wordToken_of_word hword
  have hhead : name.toList = c :: rest.takeWhile isNamePart := by
    rw [← htake, List.takeWhile_cons_of_pos (isNamePart_of_isNameStart hstart)]
  have hnegation : Text.startsWith ['N', 'O', 'T'] name.toList = false := by
    by_contra hstarts
    have hfront := Text.startsWith_iff.mp (Bool.of_not_eq_false hstarts)
    rw [← htake] at hfront
    rw [Text.startsWith_iff.mpr (hfront.trans (List.takeWhile_prefix _))] at hnot
    cases hnot
  have hisWord : IsWord name.toList :=
    ⟨⟨c, _, hhead, hstart, not_isBlank_of_isNameStart hstart⟩, hpart, hnegation⟩
  have hlexes := @lexes_isWord .extended _ [] hisWord closes_nil
  rw [List.append_nil, String.ofList_toList, htoken] at hlexes
  exact yields_of_lexes hlexes

end Parser
end Guest
