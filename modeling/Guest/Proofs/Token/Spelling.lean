import Guest.Proofs.Token.Literals

/-!
# The spelling of tokens

Each token has a spelling: numbers have their canonical text, texts stand between quotes with the
quote and the backslash escaped, and words and signs stand for themselves.  A text between quotes
is read back whatever follows it, and a word is read where no part of a name follows.
-/

namespace Guest

namespace Token

/-- A character of a text between quotes. -/
def escapeIn (quote c : Char) : List Char := if c = quote ∨ c = '\\' then ['\\', c] else [c]

/-- The spelling of a token. -/
def spell : Token → List Char
  | number x => x.text
  | string s => '\x27' :: (s.toList.flatMap (escapeIn '\x27') ++ ['\x27'])
  | boolean b => (if b then "true" else "false").toList
  | null => "null".toList
  | identifier name => name.toList
  | word w => w.text.toList
  | sign s => s.text.toList
  | endOfText => []

/-- The spellings of tokens with a blank between neighbours. -/
def spellAll (ts : List Token) : List Char := Text.join [' '] (ts.map spell)

/-- A name is what the full language reads as one identifier. -/
def IsName (name : String) : Prop := (Lexer.ofString .extended name).Yields [.identifier name]

/-- The tokens that the full language reads back from their spelling. -/
inductive Spellable : Token → Prop where
  | number {units : Nat} (h : Representable units) :
      Spellable (.number (.finite false units h))
  | string (s : String) :
      Spellable (.string s)
  | boolean (b : Bool) :
      Spellable (.boolean b)
  | null :
      Spellable .null
  | identifier {name : String} :
      IsName name → Spellable (.identifier name)
  | sign {s : Sign} :
      s ≠ .assign → Spellable (.sign s)

/-- Tokens that are read back from their spelling. -/
def AllSpellable (ts : List Token) : Prop := ∀ t ∈ ts, t.Spellable

variable {t : Token} {ts us : List Token}

theorem allSpellable_nil : AllSpellable [] := fun _ h => nomatch h

theorem allSpellable_cons (ht : t.Spellable) (hts : AllSpellable ts) : AllSpellable (t :: ts) :=
  List.forall_mem_cons.mpr ⟨ht, hts⟩

theorem allSpellable_append (hts : AllSpellable ts) (hus : AllSpellable us) :
    AllSpellable (ts ++ us) :=
  List.forall_mem_append.mpr ⟨hts, hus⟩

end Token

namespace Lexeme

variable {s rest tail : List Char} {c : Char}

/-! ## Texts -/

theorem quotedBody_quote {quote : Char} : quotedBody quote (quote :: rest) = some ([], 1) := by
  rw [quotedBody.eq_def]
  simp

theorem quotedBody_escaped {quote : Char} (hquote : quote ≠ '\\') (hc : c = quote ∨ c = '\\') :
    quotedBody quote ('\\' :: c :: rest) =
      (quotedBody quote rest).map fun (body, length) => (c :: body, length + 2) := by
  rw [quotedBody.eq_def]
  simp [hc, hquote.symm]

theorem quotedBody_plain {quote : Char} (hc : ¬(c = quote ∨ c = '\\')) :
    quotedBody quote (c :: rest) =
      (quotedBody quote rest).map fun (body, length) => (c :: body, length + 1) := by
  rw [not_or] at hc
  rw [quotedBody.eq_def]
  simp [hc]

/-- A backslash stands before the quote and before another backslash, and nowhere else. -/
def Escapes (quote : Char) (escape : Char → List Char) : Prop :=
  ∀ c, escape c = Token.escapeIn quote c

variable {quote : Char} {escape : Char → List Char}

theorem quotedBody_escape (hquote : quote ≠ '\\') (hescape : Escapes quote escape)
    (body : List Char) :
    quotedBody quote (body.flatMap escape ++ quote :: tail) =
      some (body, (body.flatMap escape).length + 1) := by
  induction body with
  | nil => exact quotedBody_quote
  | cons c body ih =>
      rw [List.flatMap_cons, List.append_assoc, List.length_append, hescape c,
        Token.escapeIn]
      by_cases hc : c = quote ∨ c = '\\'
      · rw [if_pos hc, List.cons_append, List.cons_append, List.nil_append,
          quotedBody_escaped hquote hc, ih]
        simp only [Option.map_some, List.length_cons, List.length_nil]
        congr 2
        omega
      · rw [if_neg hc, List.cons_append, List.nil_append, quotedBody_plain hc, ih]
        simp only [Option.map_some, List.length_cons, List.length_nil]
        congr 2
        omega

theorem scan_quote {d : Dialect} (hquote : isQuote quote = true) :
    scan d (quote :: tail) = quotedText quote tail := by
  simp only [isQuote, Bool.or_eq_true, beq_iff_eq] at hquote
  rcases hquote with (rfl | rfl) | rfl
  all_goals rfl

theorem scan_quoted {d : Dialect} (hquote : isQuote quote = true) (hescape : Escapes quote escape)
    (body : List Char) :
    scan d (quote :: (body.flatMap escape ++ quote :: tail)) =
      ⟨(body.flatMap escape).length + 2, .ok (.string (String.ofList body))⟩ := by
  have hslash : quote ≠ '\\' := by
    rintro rfl
    exact absurd hquote (by decide)
  rw [scan_quote hquote, quotedText, quotedBody_escape hslash hescape]

/-! ## Words -/

theorem not_isAlphabetic_of_lt (h : c.toNat < 65) : Text.isAlphabetic c = false := by
  have hall : ∀ n < 65, Text.inRanges Text.alphabeticRanges n = false := by decide
  exact hall _ h

theorem not_isDecimalDigit_of_isNameStart (h : isNameStart c = true) :
    Numeral.isDecimalDigit c = false := by
  by_contra hdigit
  have hle : c.toNat ≤ 57 := by
    rw [Bool.not_eq_false, Numeral.isDecimalDigit, Bool.and_eq_true] at hdigit
    exact of_decide_eq_true hdigit.2
  rw [isNameStart, not_isAlphabetic_of_lt (by omega)] at h
  simp only [Bool.false_or, Bool.or_eq_true, beq_iff_eq] at h
  rcases h with rfl | rfl
  · exact absurd hle (by decide)
  · exact hdigit (by decide)

theorem sign?_eq_none {d : Dialect} (h : isNameStart c = true) : sign? d (c :: rest) = none := by
  unfold sign?
  split
  all_goals first
    | rfl
    | next heq =>
        cases heq
        exact absurd h (by decide)

theorem startsNumber_eq_false (h : isNameStart c = true) : startsNumber (c :: rest) = false := by
  unfold startsNumber
  split
  · next heq =>
      cases heq
      exact absurd h (by decide)
  · next heq =>
      cases heq
      exact not_isDecimalDigit_of_isNameStart h
  · rfl

theorem isQuote_eq_false (h : isNameStart c = true) : isQuote c = false := by
  by_contra hquote
  rw [Bool.not_eq_false] at hquote
  simp only [isQuote, Bool.or_eq_true, beq_iff_eq] at hquote
  rcases hquote with (rfl | rfl) | rfl
  all_goals exact absurd h (by decide)

theorem scan_of_isNameStart {d : Dialect} (h : isNameStart c = true) :
    scan d (c :: rest) = word d (c :: rest) := by
  rw [scan]
  simp only [startsNumber_eq_false h, sign?_eq_none h, isQuote_eq_false h, h, if_true]
  rfl

/-- A text at whose front a word before it ends. -/
def EndsWord (tail : List Char) : Prop := Starts (fun c => isNamePart c = false) tail

theorem Closes.endsWord (h : Closes tail) : EndsWord tail :=
  starts_of_closes h fun _ hc _ => hc

/-- A word that the full language does not take for `NOT` and what follows it. -/
structure IsWord (w : List Char) : Prop where
  start : ∃ c rest, w = c :: rest ∧ isNameStart c = true ∧ Text.isBlank c = false
  part : ∀ c ∈ w, isNamePart c = true
  not_negation : Text.startsWith ['N', 'O', 'T'] w = false

variable {w : List Char}

/-- Behind the end of a word nothing matters for what the word starts with. -/
theorem startsWith_append_endsWord {front : List Char} (hfront : ∀ c ∈ front, isNamePart c = true)
    (htail : EndsWord tail) : Text.startsWith front (w ++ tail) = Text.startsWith front w := by
  rw [Bool.eq_iff_iff, Text.startsWith_iff, Text.startsWith_iff]
  constructor
  · intro h
    rcases List.prefix_or_prefix_of_prefix h (List.prefix_append w tail) with hw | ⟨more, rfl⟩
    · exact hw
    · cases more with
      | nil => exact ⟨[], by simp⟩
      | cons c more =>
          obtain ⟨rest, htail'⟩ := (List.prefix_append_right_inj w).mp h
          have hc : isNamePart c = false := htail c (by rw [← htail']; rfl)
          rw [hfront c (by simp)] at hc
          cases hc
  · intro h
    exact h.trans (List.prefix_append w tail)

theorem takeWhile_append_endsWord (h : ∀ c ∈ w, isNamePart c = true) (htail : EndsWord tail) :
    (w ++ tail).takeWhile isNamePart = w :=
  takeWhile_append_of_starts h htail

/-- A word ends where no part of a name follows. -/
theorem scan_word_append {d : Dialect} (hc : isNameStart c = true)
    (hpart : ∀ a ∈ c :: rest, isNamePart a = true)
    (hnot : d = .extended → Text.startsWith ['N', 'O', 'T'] (c :: rest) = false)
    (htail : EndsWord tail) :
    scan d (c :: rest ++ tail) =
      ⟨(c :: rest).length, .ok (wordToken d (String.ofList (c :: rest)))⟩ := by
  have hnegation : ¬(d = .extended ∧ Text.startsWith ['N', 'O', 'T'] (c :: rest) = true) := by
    rintro ⟨hd, hstarts⟩
    rw [hnot hd] at hstarts
    cases hstarts
  rw [List.cons_append, scan_of_isNameStart hc, ← List.cons_append, word,
    startsWith_append_endsWord (List.all_eq_true.mp rfl) htail, if_neg hnegation,
    takeWhile_append_endsWord hpart htail]

theorem scan_word {d : Dialect} (h : IsWord w) (htail : Closes tail) :
    scan d (w ++ tail) = ⟨w.length, .ok (wordToken d (String.ofList w))⟩ := by
  obtain ⟨c, rest, rfl, hc, -⟩ := h.start
  exact scan_word_append hc h.part (fun _ => h.not_negation) htail.endsWord

/-! ## Names -/

/-- A lexeme that holds no token but numbers. -/
def Numeric (lexeme : Lexeme) : Prop := ∀ t, lexeme.outcome = .ok t → ∃ x, t = .number x

variable {n : Nat}

theorem malformed_numeric : (malformed s n).Numeric := by
  intro t h
  cases h

theorem numberOf_numeric {x : Number} : (numberOf s n x).Numeric := by
  intro t h
  unfold numberOf at h
  split at h
  · split at h
    · cases h
    · cases h
      exact ⟨x, rfl⟩
  · cases h
    exact ⟨x, rfl⟩

theorem radixNumber_numeric {radix : Nat} : (radixNumber radix s).Numeric := by
  rw [radixNumber]
  split
  · exact malformed_numeric
  · exact numberOf_numeric

theorem decimalOf_numeric {whole fraction exponent : List Char} :
    (decimalOf s whole fraction exponent n).Numeric := by
  unfold decimalOf
  split
  · exact numberOf_numeric
  · exact malformed_numeric

theorem exponentPart_numeric {whole fraction after : List Char} :
    (exponentPart s whole fraction n after).Numeric := by
  unfold exponentPart
  dsimp only
  split
  · split
    · split
      · exact malformed_numeric
      · exact decimalOf_numeric
    · exact decimalOf_numeric
  · exact decimalOf_numeric

theorem decimalNumber_numeric : (decimalNumber s).Numeric := by
  unfold decimalNumber
  dsimp only
  split
  · exact malformed_numeric
  · exact exponentPart_numeric

theorem number_numeric {d : Dialect} : (number d s).Numeric := by
  unfold number
  split
  · split
    · exact radixNumber_numeric
    split
    · exact radixNumber_numeric
    · exact decimalNumber_numeric
  · exact decimalNumber_numeric

/-- Identifiers are read as words. -/
theorem word_of_scan {d : Dialect} {name : String}
    (h : (scan d s).outcome = .ok (.identifier name)) :
    ∃ c rest, s = c :: rest ∧ isNameStart c = true ∧
      (word d s).outcome = .ok (.identifier name) := by
  unfold scan at h
  split at h
  · cases h
  · next c rest =>
      split at h
      · obtain ⟨x, hx⟩ := number_numeric _ h
        cases hx
      split at h
      · cases h
      split at h
      · unfold quotedText at h
        split at h
        · cases h
        · cases h
      split at h
      · next hstart => exact ⟨c, rest, rfl, hstart, h⟩
      · cases h

theorem eq_of_wordToken {d : Dialect} {word name : String}
    (h : wordToken d word = .identifier name) : word = name := by
  unfold wordToken at h
  repeat' split at h
  all_goals first
    | exact absurd h Token.noConfusion
    | exact Token.identifier.inj h

/-- A word that is read as an identifier is the name itself. -/
theorem takeWhile_of_word {d : Dialect} {name : String}
    (h : (word d s).outcome = .ok (.identifier name)) :
    s.takeWhile isNamePart = name.toList ∧ wordToken d name = .identifier name := by
  unfold word at h
  split at h
  · cases h
  · have htoken := Except.ok.inj h
    have hname := eq_of_wordToken htoken
    rw [hname] at htoken
    refine ⟨?_, htoken⟩
    rw [← hname, String.toList_ofList]

/-- In the full language a name does not start with a negation. -/
theorem wordToken_of_word {name : String}
    (h : (word .extended s).outcome = .ok (.identifier name)) :
    Text.startsWith ['N', 'O', 'T'] s = false ∧ s.takeWhile isNamePart = name.toList ∧
      wordToken .extended name = .identifier name := by
  refine ⟨?_, takeWhile_of_word h⟩
  unfold word at h
  split at h
  · cases h
  · next hnot => simpa using hnot

end Lexeme

namespace Lexer

open Lexeme

variable {lexer : Lexer} {t : Token} {ts : List Token}

/-- What the next lexeme of a lexer is read from. -/
def visible (lexer : Lexer) : List Char := lexer.rest.dropWhile Text.isBlank

theorem next_of_scan_ok (h : (scan lexer.dialect lexer.visible).outcome = .ok t) :
    ∃ spanned moved, lexer.next = (.ok spanned, moved) ∧ spanned.token = t ∧
      moved.dialect = lexer.dialect ∧
      moved.rest = lexer.visible.drop (scan lexer.dialect lexer.visible).length := by
  unfold visible at h ⊢
  unfold next
  simp only [h]
  exact ⟨_, _, rfl, rfl, rfl, rfl⟩

theorem next_of_scan_error {fault : Fault}
    (h : (scan lexer.dialect lexer.visible).outcome = .error fault) :
    ∃ error moved, lexer.next = (.error error, moved) := by
  unfold visible at h
  unfold next
  simp only [h]
  exact ⟨_, _, rfl⟩

/-- The first token that a lexer yields is the one in front of it. -/
theorem scan_of_yields (h : lexer.Yields (t :: ts)) :
    (scan lexer.dialect lexer.visible).outcome = .ok t := by
  unfold Yields items at h
  rw [takeItems] at h
  cases hscan : (scan lexer.dialect lexer.visible).outcome with
  | ok token =>
      obtain ⟨spanned, moved, hnext, htoken, -⟩ := next_of_scan_ok hscan
      rw [hnext] at h
      dsimp only at h
      split at h
      · injection h with hhead
        rw [← htoken]
        exact congrArg Except.ok (Except.ok.inj hhead)
      · injection h with hhead
        rw [← htoken]
        exact congrArg Except.ok (Except.ok.inj hhead)
  | error fault =>
      obtain ⟨error, moved, hnext⟩ := next_of_scan_error hscan
      rw [hnext] at h
      injection h with hhead
      cases hhead

end Lexer

namespace Lexeme

/-- A name is a word, and not one with a meaning of its own. -/
theorem isWord_of_isName {name : String} (h : Token.IsName name) :
    IsWord name.toList ∧ wordToken .extended name = .identifier name := by
  obtain ⟨c, rest, hvisible, hstart, hword⟩ := word_of_scan (Lexer.scan_of_yields h)
  obtain ⟨hnot, htake, htoken⟩ := wordToken_of_word hword
  have hprefix := List.takeWhile_prefix isNamePart (l := name.toList.dropWhile Text.isBlank)
  have hsuffix := List.dropWhile_suffix Text.isBlank (l := name.toList)
  change name.toList.dropWhile Text.isBlank = _ at hvisible
  change Text.startsWith _ (name.toList.dropWhile Text.isBlank) = _ at hnot
  change (name.toList.dropWhile Text.isBlank).takeWhile _ = _ at htake
  rw [htake] at hprefix
  have hwhole : name.toList.dropWhile Text.isBlank = name.toList :=
    hsuffix.eq_of_length_le hprefix.length_le
  have hblank := List.head?_dropWhile_not Text.isBlank name.toList
  rw [hvisible] at hblank
  rw [hwhole] at hvisible hnot htake
  refine ⟨⟨⟨c, rest, hvisible, hstart, by simpa using hblank⟩, ?_, hnot⟩, htoken⟩
  rw [← htake]
  exact List.all_eq_true.mp List.all_takeWhile

/-! ## Spellings -/

variable {t : Token}

theorem isWord_true : IsWord "true".toList :=
  ⟨⟨_, _, rfl, rfl, rfl⟩, List.all_eq_true.mp rfl, rfl⟩

theorem isWord_false : IsWord "false".toList :=
  ⟨⟨_, _, rfl, rfl, rfl⟩, List.all_eq_true.mp rfl, rfl⟩

theorem isWord_null : IsWord "null".toList :=
  ⟨⟨_, _, rfl, rfl, rfl⟩, List.all_eq_true.mp rfl, rfl⟩

end Lexeme
end Guest
