import Guest.Proofs.Token.Spelling

/-!
# The front of a text

`Lexes` says that a lexer reads tokens off the front of a text and what it leaves.  The text that
follows is always in sight, because the end of a number or of a word depends on it; so a statement
about a printed text is a statement about this text in front of any other one that closes it.
-/

namespace Guest
namespace Lexeme

variable {d : Dialect} {s gap w rest tail middle : List Char} {c : Char} {t : Token}
  {ts us : List Token} {gap' w' rest' : List Char} {t' : Token}

/-- A text that does not start with a blank. -/
abbrev Visible (s : List Char) : Prop := Starts (fun c => Text.isBlank c = false) s

/-- A text starts with blanks and with a word that is read as a token. -/
structure Front (d : Dialect) (s gap w rest : List Char) (t : Token) : Prop where
  split : s = gap ++ (w ++ rest)
  blank : ∀ c ∈ gap, Text.isBlank c = true
  visible : Visible (w ++ rest)
  scan : Lexeme.scan d (w ++ rest) = ⟨w.length, .ok t⟩

theorem Front.dropWhile_eq (h : Front d s gap w rest t) :
    s.dropWhile Text.isBlank = w ++ rest := by
  rw [h.split, dropWhile_append_of_starts h.blank h.visible]

theorem Front.takeWhile_eq (h : Front d s gap w rest t) : s.takeWhile Text.isBlank = gap := by
  rw [h.split, takeWhile_append_of_starts h.blank h.visible]

/-- The first word of a text and its token are unique. -/
theorem Front.unique (h : Front d s gap w rest t) (h' : Front d s gap' w' rest' t') :
    gap = gap' ∧ rest = rest' ∧ t = t' := by
  have hvisible : w ++ rest = w' ++ rest' := h.dropWhile_eq.symm.trans h'.dropWhile_eq
  have hscan := h.scan
  rw [hvisible, h'.scan] at hscan
  obtain ⟨hlength, htoken⟩ := Lexeme.mk.inj hscan
  exact ⟨h.takeWhile_eq.symm.trans h'.takeWhile_eq, (List.append_inj hvisible hlength.symm).2,
    (Except.ok.inj htoken).symm⟩

/-- A token that is neither the end of a text nor starts with a closing angle bracket. -/
def IsPlain (t : Token) : Prop :=
  t ∉ [.endOfText, .sign .greater, .sign .greaterEqual, .sign .shiftRight, .sign .shiftRightZero]

instance : DecidablePred IsPlain := fun _ => inferInstanceAs (Decidable (_ ∉ _))

/-- The lexer reads plain tokens off the front of a text and leaves the rest. -/
inductive Lexes (d : Dialect) : List Char → List Token → List Char → Prop where
  | nil (rest : List Char) :
      Lexes d rest [] rest
  | cons {s gap w rest tail : List Char} {t : Token} {ts : List Token} :
      Front d s gap w rest t → IsPlain t → Lexes d rest ts tail → Lexes d s (t :: ts) tail

theorem Lexes.append (h : Lexes d s ts middle) (h' : Lexes d middle us tail) :
    Lexes d s (ts ++ us) tail := by
  induction h with
  | nil rest => exact h'
  | cons hfront ht _ ih => exact .cons hfront ht (ih h')

/-- Blanks in front of a token are passed over. -/
theorem Lexes.blank (hc : Text.isBlank c = true) (h : Lexes d s ts tail) (hts : ts ≠ []) :
    Lexes d (c :: s) ts tail := by
  cases h with
  | nil => exact absurd rfl hts
  | @cons _ gap w rest _ _ _ hfront ht hrest =>
      have hgap : ∀ a ∈ c :: gap, Text.isBlank a = true :=
        List.forall_mem_cons.mpr ⟨hc, hfront.blank⟩
      have hsplit : c :: s = c :: gap ++ (w ++ rest) := by
        rw [List.cons_append, ← hfront.split]
      exact .cons ⟨hsplit, hgap, hfront.visible, hfront.scan⟩ ht hrest

/-- A word that is read as a token, with no blank before it. -/
theorem lexes_word (ht : IsPlain t) (hvisible : Visible w) (hw : w ≠ [])
    (hscan : scan d (w ++ rest) = ⟨w.length, .ok t⟩) : Lexes d (w ++ rest) [t] rest := by
  cases w with
  | nil => exact absurd rfl hw
  | cons c more =>
      have hstarts : Visible (c :: more ++ rest) := starts_cons.mpr (starts_cons.mp hvisible)
      exact .cons ⟨rfl, List.forall_mem_nil _, hstarts, hscan⟩ ht (.nil rest)

/-! ## Single tokens -/

/-- A sign of one character. -/
theorem lexes_sign {sign : Sign} (hsign : IsPlain (.sign sign)) (hc : Text.isBlank c = false)
    (hscan : scan d (c :: rest) = ⟨1, .ok (.sign sign)⟩) :
    Lexes d (c :: rest) [.sign sign] rest := by
  change Lexes d ([c] ++ rest) _ _
  exact lexes_word hsign (starts_cons.mpr hc) (List.cons_ne_nil _ _) hscan

/-- A character that is a sign whatever follows it, and that ends a number or a word. -/
inductive Delimiter : Char → Sign → Prop where
  | comma : Delimiter ',' .comma
  | colon : Delimiter ':' .colon
  | leftBracket : Delimiter '[' .leftBracket
  | rightBracket : Delimiter ']' .rightBracket
  | leftBrace : Delimiter '\x7b' .leftBrace
  | rightBrace : Delimiter '\x7d' .rightBrace

theorem lexes_delimiter {sign : Sign} (h : Delimiter c sign) :
    Lexes d (c :: rest) [.sign sign] rest := by
  cases h
  all_goals exact lexes_sign (by decide) rfl rfl

theorem closes_delimiter {sign : Sign} (h : Delimiter c sign) : Closes (c :: rest) := by
  cases h
  all_goals exact closes_cons.mpr (by decide)

theorem starts_text {p : Char → Prop} {l : Number.Literal} (h : l.Proper)
    (hp : ∀ c, Numeral.isDecimalDigit c = true → p c) : Starts p (l.text ++ tail) := by
  rw [text_append]
  cases hwhole : l.whole with
  | nil => exact absurd hwhole h.nonempty
  | cons c more => exact starts_cons.mpr (hp c (h.whole c (by rw [hwhole]; exact .head _)))

theorem lexes_number {l : Number.Literal} (h : l.Proper) (hrest : Closes rest) :
    Lexes d (l.text ++ rest) [.number l.value] rest := by
  have hvisible : Visible l.text := by
    have hstarts : Visible (l.text ++ []) :=
      starts_text h fun c => Number.not_isBlank_of_isDecimalDigit
    rwa [List.append_nil] at hstarts
  have hnonempty : l.text ≠ [] := List.append_ne_nil_of_left_ne_nil h.nonempty _
  exact lexes_word (by simp [IsPlain]) hvisible hnonempty (scan_text h hrest)

theorem lexes_minus (hrest : Starts (· ≠ '-') rest) :
    Lexes d ('-' :: rest) [.sign .minus] rest := by
  apply lexes_sign (by decide) rfl
  cases rest with
  | nil => rfl
  | cons c more =>
      have hc : c ≠ '-' := hrest c rfl
      have hnumber : startsNumber ('-' :: c :: more) = false := rfl
      have hsign : sign? d ('-' :: c :: more) = some (.minus, 1) := by simp [sign?, hc]
      rw [scan, hnumber, hsign]
      rfl

theorem lexes_quoted {quote : Char} {escape : Char → List Char} (hquote : isQuote quote = true)
    (hescape : Escapes quote escape) (body : List Char) :
    Lexes d (quote :: (body.flatMap escape ++ quote :: rest))
      [.string (String.ofList body)] rest := by
  have hvisible : Text.isBlank quote = false := by
    simp only [isQuote, Bool.or_eq_true, beq_iff_eq] at hquote
    rcases hquote with (rfl | rfl) | rfl
    all_goals decide
  have hword : quote :: (body.flatMap escape ++ quote :: rest) =
      quote :: (body.flatMap escape ++ [quote]) ++ rest := by simp
  have hscan := @scan_quoted rest _ _ d hquote hescape body
  rw [hword] at hscan ⊢
  apply lexes_word (by simp [IsPlain]) (starts_cons.mpr hvisible) (List.cons_ne_nil _ _)
  rw [hscan]
  simp

/-! ## Words -/

theorem mem_of_inRanges {ranges : List (Nat × Nat)} {code : Nat}
    (h : Text.inRanges ranges code = true) : ∃ r ∈ ranges, r.1 ≤ code ∧ code ≤ r.2 := by
  induction ranges with
  | nil => cases h
  | cons r ranges ih =>
      rw [Text.inRanges] at h
      split at h
      · cases h
      · next hfirst =>
          rcases Bool.or_eq_true _ _ |>.mp h with hlast | hmore
          · exact ⟨r, List.mem_cons_self, Nat.not_lt.mp hfirst, of_decide_eq_true hlast⟩
          · obtain ⟨r', hr', hcode⟩ := ih hmore
            exact ⟨r', List.mem_cons_of_mem _ hr', hcode⟩

theorem not_isBlank_of_isNamePart (h : isNamePart c = true) : Text.isBlank c = false := by
  by_contra hblank
  have hall : ∀ r ∈ Text.blankRanges, ∀ n < 17, r.1 + n ≤ r.2 →
      Text.inRanges Text.alphabeticRanges (r.1 + n) = false ∧
        Text.inRanges Text.numericRanges (r.1 + n) = false ∧ r.1 + n ≠ '_'.toNat ∧
        r.1 + n ≠ '$'.toNat := by decide +kernel
  have hwidth : ∀ r ∈ Text.blankRanges, r.2 < r.1 + 17 := by decide
  obtain ⟨r, hr, hfirst, hlast⟩ := mem_of_inRanges (Bool.of_not_eq_false hblank)
  obtain ⟨n, hn⟩ := Nat.exists_eq_add_of_le hfirst
  have hbound := hwidth r hr
  obtain ⟨halpha, hnumeric, hunder, hdollar⟩ := hall r hr n (by omega) (by omega)
  rw [← hn] at halpha hnumeric hunder hdollar
  simp only [isNamePart, Text.isAlphanumeric, Text.isAlphabetic, Text.isNumeric, halpha, hnumeric,
    Bool.false_or, Bool.or_eq_true, beq_iff_eq] at h
  rcases h with rfl | rfl
  · exact hunder rfl
  · exact hdollar rfl

theorem not_isBlank_of_isNameStart (h : isNameStart c = true) : Text.isBlank c = false :=
  not_isBlank_of_isNamePart (isNamePart_of_isNameStart h)

theorem isPlain_wordToken {word : String} : IsPlain (wordToken d word) := by
  unfold wordToken
  repeat' split
  all_goals simp [IsPlain]

theorem lexes_isWord (h : IsWord w) (hrest : Closes rest) :
    Lexes d (w ++ rest) [wordToken d (String.ofList w)] rest := by
  have hscan := @scan_word rest w d h hrest
  obtain ⟨c, more, rfl, -, hc⟩ := h.start
  exact lexes_word isPlain_wordToken (starts_cons.mpr hc) (List.cons_ne_nil _ _) hscan

end Lexeme

namespace Lexer

open Lexeme

variable {lexer : Lexer} {gap w rest : List Char} {t : Token}

theorem next_of_front (h : Front lexer.dialect lexer.rest gap w rest t) :
    lexer.next =
      (.ok ⟨t, lexer.position.advance gap, (lexer.position.advance gap).advance w⟩,
        { lexer with rest := rest, position := (lexer.position.advance gap).advance w }) := by
  have htake : (w ++ rest).take w.length = w := List.take_left
  have hdrop : (w ++ rest).drop w.length = rest := List.drop_left
  unfold next
  simp only [h.dropWhile_eq, h.takeWhile_eq, h.scan, htake, hdrop]

end Lexer
end Guest
