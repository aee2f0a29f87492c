import Guest.Proofs.Token.Tiling
import Guest.Value.Source

/-!
# Writing tokens

A text consists of words if it can be cut into blanks and words that are read as tokens; the lexer
yields exactly these tokens.  So tokens are read back from any text that writes each of them in one
of its forms and sets blanks between neighbours, and a word that is cut out of a source is read as
the token it was in the source.
-/

namespace Guest

namespace Source

open Lexeme

variable {d : Dialect} {w : List Char}

theorem isWord_of_isPlainKey (h : isPlainKey w = true) : IsWord w := by
  cases w with
  | nil => cases h
  | cons c rest =>
      simp only [isPlainKey, Bool.and_eq_true, Bool.not_eq_true'] at h
      obtain ⟨⟨⟨hstart, hpart⟩, -⟩, hnegation⟩ := h
      refine ⟨⟨c, rest, rfl, hstart, not_isBlank_of_isNameStart hstart⟩, ?_, hnegation⟩
      exact List.forall_mem_cons.mpr
        ⟨isNamePart_of_isNameStart hstart, List.all_eq_true.mp hpart⟩

theorem wordToken_of_isPlainKey (h : isPlainKey w = true) :
    wordToken d (String.ofList w) = .identifier (String.ofList w) := by
  have hne {s : String} (hs : isPlainKey s.toList = false) : String.ofList w ≠ s := by
    rintro rfl
    rw [String.toList_ofList, h] at hs
    cases hs
  have htrue : String.ofList w ≠ "true" := hne rfl
  have hfalse : String.ofList w ≠ "false" := hne rfl
  have hnull : String.ofList w ≠ "null" := hne rfl
  have hnot : String.ofList w ≠ "NOT" := hne rfl
  have hand : String.ofList w ≠ "AND" := hne rfl
  have hor : String.ofList w ≠ "OR" := hne rfl
  simp [wordToken, htrue, hfalse, hnull, hnot, hand, hor]

theorem isPlainKey_of_isWord (h : IsWord w)
    (htoken : wordToken .extended (String.ofList w) = .identifier (String.ofList w)) :
    isPlainKey w = true := by
  have hreserved : w ∉ reserved := by
    intro hmem
    simp only [reserved, List.mem_cons, List.not_mem_nil, or_false] at hmem
    rcases hmem with rfl | rfl | rfl | rfl | rfl
    all_goals exact absurd htoken (by decide)
  obtain ⟨⟨c, rest, rfl, hstart, -⟩, hpart, hnegation⟩ := h
  have hrest : rest.all isNamePart = true :=
    List.all_eq_true.mpr fun a ha => hpart a (List.mem_cons_of_mem _ ha)
  have hcontains : reserved.contains (c :: rest) = false := by simpa using hreserved
  rw [isPlainKey, hstart, hrest, hcontains, negation, hnegation]
  rfl

end Source

namespace Lexeme

variable {d : Dialect} {s gap w rest tail : List Char} {t : Token} {ts : List Token}

/-- A text consists of words that are read as these tokens, with blanks between them. -/
inductive Words (d : Dialect) : List Char → List Token → Prop where
  | nil {s : List Char} :
      (∀ a ∈ s, Text.isBlank a = true) → Words d s []
  | cons {s gap w rest : List Char} {t : Token} {ts : List Token} :
      Front d s gap w rest t → t ≠ .endOfText → Words d rest ts → Words d s (t :: ts)

theorem Words.length_le (h : Words d s ts) : ts.length ≤ s.length := by
  induction h with
  | nil => exact Nat.zero_le _
  | cons hfront ht _ ih =>
      have hlength := congrArg List.length hfront.split
      have hpos := List.length_pos_iff.mpr (hfront.ne_nil ht)
      simp only [List.length_append, List.length_cons] at hlength ⊢
      omega

theorem front_of_blank (h : ∀ a ∈ s, Text.isBlank a = true) : Front d s s [] [] .endOfText :=
  ⟨(List.append_nil s).symm, h, starts_nil, rfl⟩

/-- A word of the dialect is read at the front of a text where what follows may follow it. -/
theorem front_of_spells {p : Char → Prop} (hgap : ∀ a ∈ gap, Text.isBlank a = true)
    (h : Spells d w t p) (hvisible : Visible (w ++ tail)) (htail : Starts p tail) :
    Front d (gap ++ (w ++ tail)) gap w tail t :=
  ⟨rfl, hgap, hvisible, scan_spells h htail⟩

/-- What stands at the front of a text is a word of the dialect, and what follows may follow it. -/
theorem Front.exists_spells (h : Front d s gap w rest t) (ht : t ≠ .endOfText) :
    ∃ p, Spells d w t p ∧ Starts p rest := by
  cases w with
  | nil => exact absurd rfl (h.ne_nil ht)
  | cons c more =>
      obtain ⟨w, rest', p, hsplit, hlength, hspells, hrest⟩ := Lexeme.exists_spells h.scan
      have hwords : c :: more ++ rest = w ++ rest' := hsplit
      obtain ⟨rfl, rfl⟩ := List.append_inj hwords hlength.symm
      exact ⟨p, hspells, hrest⟩

/-- A text that is put together from words of the dialect for these tokens and blanks. -/
inductive Renders (d : Dialect) : List Char → List Token → Prop where
  | nil {gap : List Char} :
      (∀ a ∈ gap, Text.isBlank a = true) → Renders d gap []
  | cons {gap w tail : List Char} {t : Token} {ts : List Token} {p : Char → Prop} :
      (∀ a ∈ gap, Text.isBlank a = true) → Spells d w t p → Starts p tail → Renders d tail ts →
      Renders d (gap ++ (w ++ tail)) (t :: ts)

theorem Renders.words (h : Renders d s ts) : Words d s ts := by
  induction h with
  | nil hgap => exact .nil hgap
  | cons hgap hspells htail _ ih =>
      exact .cons (front_of_spells hgap hspells hspells.visible htail) hspells.ne_endOfText ih

theorem Renders.endOfText_not_mem (h : Renders d s ts) : .endOfText ∉ ts := by
  induction h with
  | nil => exact List.not_mem_nil
  | cons _ hspells _ _ ih => exact List.not_mem_cons_of_ne_of_not_mem hspells.ne_endOfText.symm ih

theorem Renders.blank {c : Char} (hc : Text.isBlank c = true) (h : Renders d s ts) :
    Renders d (c :: s) ts := by
  cases h with
  | nil hgap => exact .nil (List.forall_mem_cons.mpr ⟨hc, hgap⟩)
  | cons hgap hspells htail hmore =>
      rw [← List.cons_append]
      exact .cons (List.forall_mem_cons.mpr ⟨hc, hgap⟩) hspells htail hmore

theorem Spells.renders {p : Char → Prop} (h : Spells d w t p) (htail : Starts p tail)
    (hmore : Renders d tail ts) : Renders d (w ++ tail) (t :: ts) := by
  change Renders d ([] ++ (w ++ tail)) _
  exact .cons (List.forall_mem_nil _) h htail hmore

/-- Tokens whose spellings are words of the dialect. -/
def AllSpelled (d : Dialect) (ts : List Token) : Prop := ∀ t ∈ ts, ∃ p, Spells d t.spell t p

/-- The spellings of tokens with a blank between neighbours are a text of these words. -/
theorem renders_spellAll (h : AllSpelled d ts) : Renders d (Token.spellAll ts) ts := by
  induction ts with
  | nil => exact .nil (List.forall_mem_nil _)
  | cons t ts ih =>
      obtain ⟨⟨p, hspells⟩, hmore⟩ := List.forall_mem_cons.mp h
      cases ts with
      | nil =>
          have hrenders := hspells.renders starts_nil (.nil (List.forall_mem_nil _))
          rwa [List.append_nil] at hrenders
      | cons u us =>
          have hblank : Text.isBlank ' ' = true := by decide
          have hend : Starts p (' ' :: Token.spellAll (u :: us)) :=
            starts_cons.mpr (hspells.neutral (neutral_of_isBlank hblank))
          have hrenders := hspells.renders hend ((ih hmore).blank hblank)
          simpa [Token.spellAll, Text.join] using hrenders

end Lexeme

namespace Lexer

open Lexeme

variable {d : Dialect} {lexer : Lexer} {before s source w : List Char} {ts : List Token}
  {spanned : Spanned} {items : List (Except LexError Spanned)}

/-- Items that end with the end of the text are those of its words. -/
theorem Scans.words (h : Scans d before s items)
    (hts : items.map (Except.map Spanned.token) = ts.map .ok ++ [.ok .endOfText]) :
    Words d s ts := by
  induction h generalizing ts with
  | token hfront ht _ ih =>
      cases ts with
      | nil => exact absurd (Except.ok.inj (List.cons.inj hts).1) ht
      | cons t ts =>
          obtain ⟨htoken, hmore⟩ := List.cons.inj hts
          obtain rfl := Except.ok.inj htoken
          exact .cons hfront ht (ih hmore)
  | endOfText hgap =>
      cases ts with
      | nil => exact .nil hgap
      | cons t ts => simp at hts
  | fault =>
      cases ts with
      | nil => cases (List.cons.inj hts).1
      | cons t ts => cases (List.cons.inj hts).1

theorem itemTokens_of_words {count : Nat} (h : Words d s ts) (hcount : ts.length < count)
    (hdialect : lexer.dialect = d) (hrest : lexer.rest = s) :
    itemTokens count lexer = ts.map .ok ++ [.ok .endOfText] := by
  induction h generalizing lexer count with
  | nil hblank =>
      cases count with
      | zero => exact absurd hcount (Nat.not_lt_zero _)
      | succ count =>
          subst hdialect hrest
          have hnext := next_of_front (front_of_blank hblank)
          rw [itemTokens, takeItems_of_last (by rw [hnext]; rfl), hnext]
          rfl
  | cons hfront ht _ ih =>
      cases count with
      | zero => exact absurd hcount (Nat.not_lt_zero _)
      | succ count =>
          subst hdialect hrest
          have hnext := next_of_front hfront
          have hmore : itemTokens count lexer.next.2 = _ :=
            ih (Nat.lt_of_succ_lt_succ hcount) (by rw [hnext]) (by rw [hnext])
          rw [itemTokens] at hmore
          rw [itemTokens, takeItems_of_more (by simpa [hnext, isLast] using ht), List.map_cons,
            hmore, hnext]
          rfl

/-- The lexer yields tokens exactly if the source consists of words that are read as them. -/
theorem yields_iff_words : (ofChars d source).Yields ts ↔ Words d source ts := by
  constructor
  · intro h
    exact (scans_items d source).words h
  · intro h
    exact itemTokens_of_words h (Nat.lt_succ_of_le h.length_le) rfl rfl

theorem yields_renders (h : Renders d source ts) : (ofChars d source).Yields ts :=
  yields_iff_words.mpr h.words

end Lexer

namespace Token

open Lexeme

variable {d : Dialect} {w tail text : List Char} {t : Token} {ts : List Token}

/-! ## Written forms -/

/-- The forms in which a token of the full language is written.  Texts stand between quotes of any
kind; all other tokens have one form. -/
inductive Written : Token → List Char → Prop where
  | number {units : Nat} (h : Representable units) :
      Written (.number (.finite false units h)) (Number.finite false units h).text
  | string {quote : Char} (s : String) :
      isQuote quote = true →
      Written (.string s) (quote :: (s.toList.flatMap (escapeIn quote) ++ [quote]))
  | boolean (b : Bool) :
      Written (.boolean b) (if b then "true" else "false").toList
  | null :
      Written .null "null".toList
  | identifier {name : String} :
      Source.isPlainKey name.toList = true → Written (.identifier name) name.toList
  | word (w : OperatorWord) :
      Written (.word w) w.text.toList
  | sign {s : Sign} :
      s ≠ .assign → Written (.sign s) s.text.toList

/-- A text writes tokens: each of them stands in one of its forms, and blanks follow it unless the
text ends there. -/
inductive Writes : List Char → List Token → Prop where
  | nil {gap : List Char} :
      (∀ a ∈ gap, Text.isBlank a = true) → Writes gap []
  | cons {gap w tail : List Char} {t : Token} {ts : List Token} :
      (∀ a ∈ gap, Text.isBlank a = true) → Written t w →
      Starts (fun c => Text.isBlank c = true) tail → Writes tail ts →
      Writes (gap ++ (w ++ tail)) (t :: ts)

theorem quotedText_escapeIn {quote : Char} (body : List Char) :
    QuotedText quote (body.flatMap (escapeIn quote) ++ [quote]) body := by
  induction body with
  | nil => exact .close
  | cons c body ih =>
      rw [List.flatMap_cons, List.append_assoc, escapeIn]
      by_cases hc : c = quote ∨ c = '\\'
      · rw [if_pos hc]
        exact .escaped hc ih
      · rw [if_neg hc]
        exact .plain hc ih

theorem spells_word (h : IsWord w) :
    Spells d w (wordToken d (String.ofList w)) fun c => isNamePart c = false := by
  obtain ⟨⟨c, rest, rfl, hstart, -⟩, hpart, hnegation⟩ := h
  exact .word hstart hpart fun _ => hnegation

theorem isWord_and : IsWord "AND".toList :=
  ⟨⟨_, _, rfl, rfl, rfl⟩, List.all_eq_true.mp rfl, rfl⟩

theorem isWord_or : IsWord "OR".toList :=
  ⟨⟨_, _, rfl, rfl, rfl⟩, List.all_eq_true.mp rfl, rfl⟩

/-- A plain key is a name in every dialect. -/
theorem spells_identifier {name : String} (h : Source.isPlainKey name.toList = true) :
    Spells d name.toList (.identifier name) fun c => isNamePart c = false := by
  have hspells := spells_word (d := d) (Source.isWord_of_isPlainKey h)
  rwa [Source.wordToken_of_isPlainKey h, String.ofList_toList] at hspells

/-- The text of a number without a sign is a word in every dialect. -/
theorem spells_number {units : Nat} (h : Representable units) :
    ∃ p, Spells d (Number.finite false units h).text (.number (.finite false units h)) p := by
  obtain ⟨l, hl⟩ := Number.exists_denotes_text h
  rw [← hl.text_eq, ← hl.value_eq]
  exact ⟨_, .number (numberText_text hl.proper)⟩

/-- A text between quotes is a word in every dialect. -/
theorem spells_string {quote : Char} (hquote : isQuote quote = true) (s : String) :
    Spells d (quote :: (s.toList.flatMap (escapeIn quote) ++ [quote])) (.string s)
      fun _ => True := by
  have hspells := Spells.string (d := d) hquote (quotedText_escapeIn s.toList)
  rwa [String.ofList_toList] at hspells

theorem spells_boolean (b : Bool) :
    ∃ p, Spells d (if b then "true" else "false").toList (.boolean b) p := by
  cases b with
  | true => exact ⟨_, spells_word isWord_true⟩
  | false => exact ⟨_, spells_word isWord_false⟩

/-- The forms of a token are words of the full language. -/
theorem Written.spells (h : Written t w) : ∃ p, Spells .extended w t p := by
  cases h with
  | number h => exact spells_number h
  | string s hquote => exact ⟨_, spells_string hquote s⟩
  | boolean b => exact spells_boolean b
  | null => exact ⟨_, spells_word isWord_null⟩
  | identifier hname => exact ⟨_, spells_identifier hname⟩
  | word operator =>
      cases operator with
      | and => exact ⟨_, spells_word isWord_and⟩
      | or => exact ⟨_, spells_word isWord_or⟩
      | not => exact ⟨_, .negation rfl⟩
  | sign hsign =>
      refine ⟨_, .sign ?_⟩
      unfold Sign.knownTo
      split
      · rfl
      · exact absurd rfl hsign
      · rfl

/-- A text that writes tokens consists of their words. -/
theorem Writes.renders (h : Writes text ts) : Renders .extended text ts := by
  induction h with
  | nil hgap => exact .nil hgap
  | cons hgap hwritten htail _ ih =>
      obtain ⟨p, hspells⟩ := hwritten.spells
      have hend : Starts p _ := fun c hc => hspells.neutral (neutral_of_isBlank (htail c hc))
      exact .cons hgap hspells hend ih

/-! ## Spellings -/

theorem Writes.blank {c : Char} (hc : Text.isBlank c = true) (h : Writes text ts) :
    Writes (c :: text) ts := by
  cases h with
  | nil hgap => exact .nil (List.forall_mem_cons.mpr ⟨hc, hgap⟩)
  | cons hgap hwritten htail hmore =>
      rw [← List.cons_append]
      exact .cons (List.forall_mem_cons.mpr ⟨hc, hgap⟩) hwritten htail hmore

theorem Written.writes (h : Written t w) (htail : Starts (fun c => Text.isBlank c = true) tail)
    (hmore : Writes tail ts) : Writes (w ++ tail) (t :: ts) := by
  change Writes ([] ++ (w ++ tail)) _
  exact .cons (List.forall_mem_nil _) h htail hmore

/-- A spelling is one of the forms of a token. -/
theorem Spellable.written (h : t.Spellable) : Written t t.spell := by
  cases h with
  | number h => exact .number h
  | string s => exact .string s rfl
  | boolean b => exact .boolean b
  | null => exact .null
  | @identifier name hname =>
      obtain ⟨hword, htoken⟩ := isWord_of_isName hname
      have hchars : wordToken .extended (String.ofList name.toList) =
          .identifier (String.ofList name.toList) := by rwa [String.ofList_toList]
      exact .identifier (Source.isPlainKey_of_isWord hword hchars)
  | sign hsign => exact .sign hsign

theorem allSpelled_of_allSpellable (h : AllSpellable ts) : AllSpelled .extended ts :=
  fun t ht => (h t ht).written.spells

end Token

namespace Lexer

open Lexeme

variable {d : Dialect} {before s source : List Char} {ts : List Token} {spanned : Spanned}
  {items : List (Except LexError Spanned)}

theorem yields_writes (h : Token.Writes s ts) : (ofChars .extended s).Yields ts :=
  yields_renders h.renders

/-- The full language reads the tokens of a text back from their spelling. -/
theorem yields_spellAll (hts : Token.AllSpellable ts) :
    (ofChars .extended (Token.spellAll ts)).Yields ts :=
  yields_renders (renders_spellAll (Token.allSpelled_of_allSpellable hts))

/-! ## Words cut out of a source -/

/-- Between the places of a token stands the word from which it is read. -/
theorem Scans.exists_word (h : Scans d before s items) (hmem : .ok spanned ∈ items)
    (ht : spanned.token ≠ .endOfText) :
    ∃ w rest, ((before ++ s).take spanned.stop.offset).drop spanned.start.offset = w ∧ w ≠ [] ∧
      Visible (w ++ rest) ∧ scan d (w ++ rest) = ⟨w.length, .ok spanned.token⟩ := by
  induction h with
  | @token before s gap w rest t items hfront hend _ ih =>
      rcases List.mem_cons.mp hmem with heq | hmore
      · obtain rfl := Except.ok.inj heq
        refine ⟨w, rest, ?_, hfront.ne_nil hend, hfront.visible, hfront.scan⟩
        rw [Position.offset_start_advance, Position.offset_start_advance, hfront.split,
          ← List.append_assoc, ← List.append_assoc, List.take_left, List.drop_left]
      · rw [hfront.split, ← List.append_assoc, ← List.append_assoc]
        exact ih hmore
  | endOfText =>
      obtain rfl := Except.ok.inj (List.mem_singleton.mp hmem)
      exact absurd rfl ht
  | fault => cases List.mem_singleton.mp hmem

/-- A word that is cut out of a source is read as the token that it is in the source. -/
theorem yields_slice (hmem : .ok spanned ∈ (ofChars d source).items)
    (ht : spanned.token ≠ .endOfText) :
    (ofChars d ((ofChars d source).slice spanned.start.offset spanned.stop.offset)).Yields
      [spanned.token] := by
  obtain ⟨w, rest, hslice, hw, hvisible, hscan⟩ := (scans_items d source).exists_word hmem ht
  have halone : scan d (w ++ []) = ⟨w.length, .ok spanned.token⟩ := scan_congr hscan hw starts_nil
  have hstarts : Visible (w ++ []) := by
    cases w with
    | nil => exact absurd rfl hw
    | cons c more => exact starts_cons.mpr (starts_cons.mp hvisible)
  have hfront : Front d w [] w [] spanned.token :=
    ⟨(List.append_nil w).symm, List.forall_mem_nil _, hstarts, halone⟩
  have hwords : Words d w [spanned.token] := .cons hfront ht (.nil (List.forall_mem_nil _))
  unfold slice
  change Yields (ofChars d ((([] ++ source).take _).drop _)) _
  rw [hslice]
  exact yields_iff_words.mpr hwords

/-- Lexing inverts writing.  The tokens of the full language are read back from every text that
writes them, and every token of a source is read back from its own part of the source. -/
theorem yields_of_writes :
    (∀ ts text, Token.Writes text ts → (ofChars .extended text).Yields ts) ∧
      ∀ d source spanned, .ok spanned ∈ (ofChars d source).items → spanned.token ≠ .endOfText →
        (ofChars d ((ofChars d source).slice spanned.start.offset spanned.stop.offset)).Yields
          [spanned.token] := by
  refine ⟨?_, ?_⟩
  · intro ts text h
    exact yields_writes h
  · intro d source spanned hmem ht
    exact yields_slice hmem ht

/-- A shift next to a text with a quote in it, and an assignment cut out of a filter. -/
theorem yields_of_writes_shift :
    let text := ">>>\t 'it\\'s' \n".toList
    let ts := [.sign .shiftRightZero, .string "it's"]
    let spanned : Spanned := ⟨.sign .assign, ⟨1, 1, 2⟩, ⟨2, 1, 3⟩⟩
    Token.Writes text ts ∧ (ofChars .extended text).Yields ts ∧
      .ok spanned ∈ (ofChars .filter "a=b".toList).items ∧
      (ofChars .filter ((ofChars .filter "a=b".toList).slice 1 2)).Yields [.sign .assign] := by
  intro text ts spanned
  have hquote : isQuote '\x27' = true := rfl
  have hstring : Token.Written (.string "it's") "'it\\'s'".toList := .string "it's" hquote
  have hsign : Token.Written (.sign .shiftRightZero) ">>>".toList := .sign (by decide)
  have hend : Token.Writes " \n".toList [] := .nil (List.all_eq_true.mp rfl)
  have hquoted : Token.Writes "\t 'it\\'s' \n".toList [.string "it's"] :=
    .blank (by decide) (.blank (by decide) (hstring.writes (starts_cons.mpr (by decide)) hend))
  have hwrites : Token.Writes text ts := hsign.writes (starts_cons.mpr (by decide)) hquoted
  have hmem : .ok spanned ∈ (ofChars .filter "a=b".toList).items := by decide +kernel
  exact ⟨hwrites, yields_of_writes.1 ts text hwrites, hmem,
    yields_of_writes.2 .filter _ spanned hmem (by decide)⟩

end Lexer
end Guest
