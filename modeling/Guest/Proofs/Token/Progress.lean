import Guest.Token.Lexer

/-!
# Progress of the lexer

Every token but the end of the text has a character of its own, so reading it leaves less of the
text.  Hence iteration over the tokens of a text ends by itself, and the bound in its definition is
never what ends it.
-/

namespace Guest

namespace Lexeme

variable {d : Dialect} {s rest : List Char} {c : Char} {t : Token} {n : Nat}

/-- A lexeme is proper if a token in it is not the end of the text and has a character. -/
def Proper (lexeme : Lexeme) : Prop :=
  ∀ t, lexeme.outcome = .ok t → t ≠ .endOfText ∧ 0 < lexeme.length

theorem malformed_proper : (malformed s n).Proper := by
  intro t h
  cases h

theorem numberOf_proper {x : Number} (hn : 0 < n) : (numberOf s n x).Proper := by
  intro t h
  unfold numberOf at h ⊢
  split at h
  · split at h
    · cases h
    · cases h
      simp_all
  · cases h
    simp_all

theorem radixNumber_proper {radix : Nat} : (radixNumber radix s).Proper := by
  rw [radixNumber]
  split
  · exact malformed_proper
  · exact numberOf_proper (by omega)

theorem decimalOf_proper {whole fraction exponent : List Char} (hn : 0 < n) :
    (decimalOf s whole fraction exponent n).Proper := by
  unfold decimalOf
  split
  · exact numberOf_proper hn
  · exact malformed_proper

theorem exponentPart_proper {whole fraction after : List Char} (hn : 0 < n) :
    (exponentPart s whole fraction n after).Proper := by
  unfold exponentPart
  dsimp only
  split
  · split
    · split
      · exact malformed_proper
      · exact decimalOf_proper (by omega)
    · exact decimalOf_proper hn
  · exact decimalOf_proper hn

/-- Where a number starts there is a digit, or a point in place of it. -/
theorem digit_or_point_of_startsNumber (h : startsNumber s = true) :
    0 < (Number.spanDigits s).1.length ∨ ∃ rest, (Number.spanDigits s).2 = '.' :: rest := by
  unfold startsNumber at h
  split at h
  · next c rest =>
      exact .inr ⟨c :: rest, by simp [Number.spanDigits, Numeral.isDecimalDigit]⟩
  · exact .inl (by simp [Number.spanDigits, h])
  · cases h

theorem decimalNumber_proper (h : startsNumber s = true) : (decimalNumber s).Proper := by
  unfold decimalNumber
  dsimp only
  split
  · exact malformed_proper
  · apply exponentPart_proper
    obtain hdigit | ⟨rest, hpoint⟩ := digit_or_point_of_startsNumber h
    · omega
    · simp only [hpoint, fractionPart]
      omega

theorem number_proper (h : startsNumber s = true) : (number d s).Proper := by
  unfold number
  split
  · split
    · exact radixNumber_proper
    split
    · exact radixNumber_proper
    · exact decimalNumber_proper h
  · exact decimalNumber_proper h

theorem quotedText_proper : (quotedText c s).Proper := by
  intro t h
  unfold quotedText at h ⊢
  split at h
  · cases h
    simp
  · cases h

theorem wordToken_ne_endOfText {w : String} : wordToken d w ≠ .endOfText := by
  unfold wordToken
  repeat' split
  all_goals simp

theorem isNamePart_of_isNameStart (h : isNameStart c = true) : isNamePart c = true := by
  simp only [isNameStart, isNamePart, Text.isAlphanumeric, Bool.or_eq_true] at h ⊢
  grind

theorem word_proper (h : isNameStart c = true) : (word d (c :: rest)).Proper := by
  intro t ht
  unfold word at ht ⊢
  split at ht
  · next hnot =>
      cases ht
      simp [hnot]
  · next hnot =>
      cases ht
      simp only [hnot, if_false]
      exact ⟨wordToken_ne_endOfText, by simp [isNamePart_of_isNameStart h]⟩

theorem sign?_pos {sign : Sign} (h : sign? d s = some (sign, n)) : 0 < n := by
  unfold sign? at h
  grind

/-- What is read at the front of a text that is not empty is proper. -/
theorem scan_proper : (scan d (c :: rest)).Proper := by
  unfold scan
  split
  · next heq => cases heq
  · next heq =>
      cases heq
      split
      · next hnum => exact number_proper hnum
      split
      · next hsign =>
          intro t ht
          cases ht
          exact ⟨by simp, sign?_pos hsign⟩
      split
      · exact quotedText_proper
      split
      · next hname => exact word_proper hname
      · intro t ht
        cases ht

end Lexeme

namespace Lexer

variable {lexer moved : Lexer} {spanned : Spanned}

/-- Reading a token leaves less of the text, unless nothing is left. -/
theorem next_progress (h : lexer.next = (.ok spanned, moved)) :
    (spanned.token = .endOfText ∧ moved.rest = []) ∨
      (spanned.token ≠ .endOfText ∧ moved.rest.length < lexer.rest.length) := by
  unfold next at h
  cases hvisible : lexer.rest.dropWhile Text.isBlank with
  | nil =>
      left
      simp only [hvisible, Lexeme.scan] at h
      cases h
      exact ⟨rfl, rfl⟩
  | cons c rest =>
      right
      simp only [hvisible] at h
      split at h
      · next token hscan =>
          obtain ⟨htoken, hlength⟩ := Lexeme.scan_proper token hscan
          have hle : (c :: rest).length ≤ lexer.rest.length := by
            rw [← hvisible]
            exact (List.dropWhile_sublist _).length_le
          cases h
          refine ⟨htoken, ?_⟩
          simp only [List.length_drop, List.length_cons] at hle ⊢
          omega
      · cases h

/-- At the end of the text there is nothing but the end. -/
theorem next_of_rest_nil (h : lexer.rest = []) :
    lexer.next = (.ok ⟨.endOfText, lexer.position, lexer.position⟩, lexer) := by
  unfold next
  cases lexer
  simp_all [Lexeme.scan, Position.advance]

/-- The kinds of the items of an iteration, without their places in the text. -/
def itemTokens (count : Nat) (lexer : Lexer) : List (Except LexError Token) :=
  (takeItems count lexer).map (Except.map Spanned.token)

/-- The lexer reads the whole text: these tokens and then the end. -/
def Yields (lexer : Lexer) (tokens : List Token) : Prop :=
  lexer.items.map (Except.map Spanned.token) = tokens.map .ok ++ [.ok .endOfText]

end Lexer
end Guest
