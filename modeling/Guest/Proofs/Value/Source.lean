import Guest.Proofs.Parser.Places
import Guest.Proofs.Token.Writing

/-!
# The tokens of a value's source text

The source text of a value has the same tokens in every dialect: a key is a name only where no
dialect takes it for anything else, and numbers that no literal denotes are names of constants.  A
number with a minus sign has two tokens.
-/

namespace Guest

namespace Source

/-- The token of an entry's key. -/
def keyToken (name : String) : Token :=
  if isPlainKey name.toList then .identifier name else .string name

/-- The tokens of a number. -/
def numberTokens : Number → List Token
  | .nan => [.identifier (String.ofList nanName)]
  | .infinite negative => [.identifier (String.ofList (infinityName negative))]
  | .finite negative units h =>
    if negative ∧ units ≠ 0 then [.sign .minus, .number (.finite false units h)]
    else [.number (.finite false units h)]

end Source

namespace Value

mutual

/-- The tokens of a value's source text. -/
def sourceTokens : Value → List Token
  | null => [.null]
  | boolean b => [.boolean b]
  | number x => Source.numberTokens x
  | string s => [.string s]
  | array items => .sign .leftBracket :: (itemTokens items ++ [.sign .rightBracket])
  | object fields => .sign .leftBrace :: (fieldTokens fields ++ [.sign .rightBrace])

/-- The tokens of the items of an array. -/
def itemTokens : List Value → List Token
  | [] => []
  | [item] => sourceTokens item
  | item :: rest => sourceTokens item ++ .sign .comma :: itemTokens rest

/-- The tokens of the fields of an object. -/
def fieldTokens : List (String × Value) → List Token
  | [] => []
  | [(name, value)] => Source.keyToken name :: .sign .colon :: sourceTokens value
  | (name, value) :: rest =>
    Source.keyToken name :: .sign .colon :: (sourceTokens value ++ .sign .comma :: fieldTokens rest)

end

end Value

open Lexeme

namespace Source

variable {d : Dialect} {w tail : List Char}

/-! ## Names -/

/-- A plain key is read as a name in every dialect. -/
theorem lexes_plainKey (h : isPlainKey w = true) (htail : Closes tail) :
    Lexes d (w ++ tail) [.identifier (String.ofList w)] tail := by
  rw [← wordToken_of_isPlainKey h]
  exact lexes_isWord (isWord_of_isPlainKey h) htail

/-! ## Texts and numbers -/

theorem escapes_escaped : Escapes '"' escaped := by
  intro c
  simp only [escaped, Token.escapeIn, or_comm]

theorem lexes_stringLiteral (s : String) :
    Lexes d (stringLiteral s.toList ++ tail) [.string s] tail := by
  have h := @lexes_quoted d tail '"' escaped rfl escapes_escaped s.toList
  rw [String.ofList_toList] at h
  simpa [stringLiteral] using h

theorem lexes_key (name : String) (htail : Closes tail) :
    Lexes d (key name.toList ++ tail) [keyToken name] tail := by
  unfold key keyToken
  by_cases hplain : isPlainKey name.toList = true
  · have h := @lexes_plainKey d _ tail hplain htail
    rw [String.ofList_toList] at h
    rwa [if_pos hplain, if_pos hplain]
  · rw [if_neg hplain, if_neg hplain]
    exact lexes_stringLiteral name

theorem lexes_number (x : Number) (htail : Closes tail) :
    Lexes d (number x ++ tail) (numberTokens x) tail := by
  cases x with
  | nan => exact lexes_plainKey rfl htail
  | infinite negative =>
      cases negative with
      | false => exact lexes_plainKey rfl htail
      | true => exact lexes_plainKey rfl htail
  | finite negative units h =>
      obtain ⟨l, hl⟩ := Number.exists_denotes_text h
      have htext : Lexes d ((Number.finite false units h).text ++ tail)
          [.number (.finite false units h)] tail := by
        rw [← hl.text_eq, ← hl.value_eq]
        exact Lexeme.lexes_number hl.proper htail
      by_cases hminus : negative ∧ units ≠ 0
      · obtain ⟨rfl, hunits⟩ := hminus
        have hdigit : Starts (· ≠ '-') ((Number.finite false units h).text ++ tail) := by
          have hc : ∀ c, Numeral.isDecimalDigit c = true → c ≠ '-' := by
            rintro c hc rfl
            exact absurd hc (by decide)
          rw [← hl.text_eq]
          exact starts_text hl.proper hc
        rw [number, Number.text_finite, if_pos ⟨rfl, hunits⟩, numberTokens, if_pos ⟨rfl, hunits⟩]
        exact (lexes_minus hdigit).append htext
      · rw [number, Number.text_finite, if_neg hminus, numberTokens, if_neg hminus]
        exact htext

end Source

namespace Value

variable {d : Dialect} {tail : List Char}

theorem numberTokens_ne_nil (x : Number) : Source.numberTokens x ≠ [] := by
  unfold Source.numberTokens
  split
  · exact List.cons_ne_nil _ _
  · exact List.cons_ne_nil _ _
  · split
    · exact List.cons_ne_nil _ _
    · exact List.cons_ne_nil _ _

theorem sourceTokens_ne_nil (v : Value) : v.sourceTokens ≠ [] := by
  cases v with
  | number x =>
      rw [sourceTokens]
      exact numberTokens_ne_nil x
  | null => simp [sourceTokens]
  | boolean b => simp [sourceTokens]
  | string s => simp [sourceTokens]
  | array items => simp [sourceTokens]
  | object fields => simp [sourceTokens]

theorem itemTokens_ne_nil (item : Value) (rest : List Value) : itemTokens (item :: rest) ≠ [] := by
  cases rest with
  | nil =>
      rw [itemTokens]
      exact sourceTokens_ne_nil item
  | cons next more => simp [itemTokens]

theorem fieldTokens_ne_nil (field : String × Value) (rest : Fields) :
    fieldTokens (field :: rest) ≠ [] := by
  cases rest <;> simp [fieldTokens]

theorem isBlank_space : Text.isBlank ' ' = true := rfl

mutual

/-- Every dialect reads the tokens of a value off its source text. -/
theorem lexes_source {tail : List Char} (htail : Closes tail) :
    ∀ v : Value, Lexes d (v.source ++ tail) v.sourceTokens tail
  | null => by
      rw [source, sourceTokens]
      exact lexes_isWord isWord_null htail
  | boolean true => by
      rw [source, sourceTokens]
      exact lexes_isWord isWord_true htail
  | boolean false => by
      rw [source, sourceTokens]
      exact lexes_isWord isWord_false htail
  | number x => by
      rw [source, sourceTokens]
      exact Source.lexes_number x htail
  | string s => by
      rw [source, sourceTokens]
      exact Source.lexes_stringLiteral s
  | array items => by
      rw [source, sourceTokens, List.append_assoc]
      apply (lexes_delimiter .leftBracket).append
      apply (lexes_itemsSource (closes_delimiter .rightBracket) items).append
      exact lexes_delimiter .rightBracket
  | object fields => by
      rw [source, sourceTokens, List.append_assoc]
      apply (lexes_delimiter .leftBrace).append
      apply (lexes_fieldsSource (closes_delimiter .rightBrace) fields).append
      exact lexes_delimiter .rightBrace

theorem lexes_itemsSource {tail : List Char} (htail : Closes tail) :
    ∀ items : List Value, Lexes d (itemsSource items ++ tail) (itemTokens items) tail
  | [] => .nil tail
  | [item] => by
      rw [itemsSource, itemTokens]
      exact lexes_source htail item
  | item :: next :: more => by
      have hmore := lexes_itemsSource htail (next :: more)
      have hblank := hmore.blank isBlank_space (itemTokens_ne_nil next more)
      rw [itemsSource, itemTokens, List.append_assoc]
      · apply (lexes_source (closes_delimiter .comma) item).append
        exact (lexes_delimiter .comma).append hblank
      · simp
      · simp

theorem lexes_fieldsSource {tail : List Char} (htail : Closes tail) :
    ∀ fields : List (String × Value),
      Lexes d (fieldsSource fields ++ tail) (fieldTokens fields) tail
  | [] => .nil tail
  | [(name, value)] => by
      have hvalue := (lexes_source htail value).blank isBlank_space (sourceTokens_ne_nil value)
      rw [fieldsSource, fieldTokens, List.append_assoc]
      apply (Source.lexes_key name (closes_delimiter .colon)).append
      exact (lexes_delimiter .colon).append hvalue
  | (name, value) :: next :: more => by
      have hmore := lexes_fieldsSource htail (next :: more)
      have hnext := hmore.blank isBlank_space (fieldTokens_ne_nil next more)
      have hrest := (lexes_delimiter .comma).append hnext
      have hvalue := (lexes_source (closes_delimiter .comma) value).append hrest
      have hblank := hvalue.blank isBlank_space (by simp)
      rw [fieldsSource, fieldTokens, List.append_assoc, List.append_assoc]
      · apply (Source.lexes_key name (closes_delimiter .colon)).append
        exact (lexes_delimiter .colon).append hblank
      · simp
      · simp

end

end Value
end Guest
