import Guest.Proofs.Token.Longest
import Guest.Proofs.Token.Writing

/-!
# Literals and conversions

A number literal is read in three ways: as a token, by the conversion of a whole text, and by the
conversion of the front of a text.  The conversions drop the padding around a literal, and the
scanner the blanks.  What is left is the same literal, and all of them read it as the same number.
-/

namespace Guest

/-! ## Padding -/

namespace Text

variable {p : Char → Bool} {before after w s : List Char}

theorem trimStartBy_append (hbefore : ∀ c ∈ before, p c = true)
    (hs : Lexeme.Starts (fun c => p c = false) s) : trimStartBy p (before ++ s) = s :=
  Lexeme.dropWhile_append_of_starts hbefore hs

theorem trimEndBy_append (hafter : ∀ c ∈ after, p c = true) (hw : ∀ c ∈ w, p c = false) :
    trimEndBy p (w ++ after) = w := by
  have hreverse := trimStartBy_append (fun c hc => hafter c (List.mem_reverse.mp hc))
    (fun c hc => hw c (List.mem_reverse.mp (List.mem_of_mem_head? hc)))
  rw [trimStartBy] at hreverse
  rw [trimEndBy, List.reverse_append, hreverse, List.reverse_reverse]

/-- What is dropped around a text is the padding. -/
theorem trimBy_append (hbefore : ∀ c ∈ before, p c = true) (hafter : ∀ c ∈ after, p c = true)
    (hw : ∀ c ∈ w, p c = false) (hnonempty : w ≠ []) :
    trimBy p (before ++ (w ++ after)) = w := by
  obtain ⟨c, rest, rfl⟩ := List.exists_cons_of_ne_nil hnonempty
  have hstart : Lexeme.Starts (fun c => p c = false) (c :: rest ++ after) :=
    Lexeme.starts_cons.mpr (hw c List.mem_cons_self)
  rw [trimBy, trimStartBy_append hbefore hstart, trimEndBy_append hafter hw]

end Text

namespace Number

open Lexeme (NumberText Closes isNamePart)

variable {d : Dialect} {w before after : List Char} {c : Char} {l : Literal} {x : Number}

theorem isPadding_of_isBlank (h : Text.isBlank c = true) : isPadding c = true := by
  rw [isPadding, h, Bool.true_or]

theorem not_isPadding_of_isNamePart (h : isNamePart c = true) : isPadding c = false := by
  have hmark : c ≠ Char.ofNat 0xFEFF := by
    rintro rfl
    exact absurd h (by decide +kernel)
  have hcode : (c.toNat == 0xFEFF) = false :=
    beq_false_of_ne fun hc => hmark (by rw [← hc, Char.ofNat_toNat])
  rw [isPadding, Lexeme.not_isBlank_of_isNamePart h, hcode, Bool.false_or]

/-- A literal ends where padding follows. -/
theorem closes_of_isPadding (h : ∀ c ∈ after, isPadding c = true) : Closes after := by
  intro c hc
  have hpadding := h c (List.mem_of_mem_head? hc)
  constructor
  · by_contra hpart
    rw [not_isPadding_of_isNamePart (Bool.of_not_eq_false hpart)] at hpadding
    cases hpadding
  · rintro rfl
    exact absurd hpadding (by decide)

/-! ## The characters of literals -/

theorem forall_mem_decimalText {p : Char → Prop}
    (hdigit : ∀ c, Numeral.isDecimalDigit c = true → p c)
    (hother : ∀ c ∈ ['.', 'e', 'E', '+', '-'], p c) (h : DecimalText w l) : ∀ c ∈ w, p c := by
  cases h with
  | @parts whole fraction digits point scale negative hwhole hpoint hsome hscale =>
      refine List.forall_mem_append.mpr ⟨fun c hc => hdigit c (hwhole c hc),
        List.forall_mem_append.mpr ⟨?_, ?_⟩⟩
      · cases hpoint with
        | none => exact List.forall_mem_nil _
        | point hfraction =>
            exact List.forall_mem_cons.mpr
              ⟨hother '.' (by decide), fun c hc => hdigit c (hfraction c hc)⟩
      · cases hscale with
        | none => exact List.forall_mem_nil _
        | scale hmark hsign hdigits hnonempty =>
            refine List.forall_mem_cons.mpr ⟨?_, List.forall_mem_append.mpr
              ⟨?_, fun c hc => hdigit c (hdigits c hc)⟩⟩
            · rcases hmark with rfl | rfl
              · exact hother 'e' (by decide)
              · exact hother 'E' (by decide)
            · cases hsign with
              | none => exact List.forall_mem_nil _
              | plus => exact List.forall_mem_singleton.mpr (hother '+' (by decide))
              | minus => exact List.forall_mem_singleton.mpr (hother '-' (by decide))

theorem not_isPadding_of_numberText (h : NumberText d w x) : ∀ c ∈ w, isPadding c = false := by
  cases h with
  | decimal htext =>
      have hother : ∀ c ∈ ['.', 'e', 'E', '+', '-'], (!isPadding c) = true :=
        List.all_eq_true.mp rfl
      exact forall_mem_decimalText (fun c hc => not_isPadding_of_isNumeric (.inl hc))
        (fun c hc => Bool.eq_false_of_not_eq_true' (hother c hc)) htext
  | @radix mark radix digits hmark hdigits hnonempty =>
      refine List.forall_mem_cons.mpr ⟨by decide, List.forall_mem_cons.mpr ⟨?_, fun c hc => ?_⟩⟩
      · rcases hmark with (rfl | rfl) | ⟨rfl | rfl, -⟩ <;> decide
      · exact not_isPadding_of_isNamePart (Lexeme.isNamePart_of_digitValue? (hdigits c hc))

theorem radixMark?_of_decimalText (h : DecimalText w l) : ∀ c ∈ w, radixMark? c = none := by
  have hother : ∀ c ∈ ['.', 'e', 'E', '+', '-'], (radixMark? c).isNone = true :=
    List.all_eq_true.mp rfl
  exact forall_mem_decimalText (fun c hc => radixMark?_of_isNumeric (.inl hc))
    (fun c hc => Option.isNone_iff_eq_none.mp (hother c hc)) h

theorem radixMark?_of_radixMark {mark : Char} {radix : Nat} (h : RadixMark d mark radix) :
    radixMark? mark = some radix := by
  rcases h with (rfl | rfl) | ⟨rfl | rfl, -⟩ <;> rfl

theorem NumberText.ne_nil (h : NumberText d w x) : w ≠ [] := by
  rintro rfl
  have hstarts : Lexeme.startsNumber ([] ++ []) = true := Lexeme.startsNumber_numberText h
  cases hstarts

/-! ## The conversions of literals -/

/-- The conversion of a text reads a literal between paddings as the scanner does. -/
theorem ofText_numberText (h : NumberText d w x) (hbefore : ∀ c ∈ before, isPadding c = true)
    (hafter : ∀ c ∈ after, isPadding c = true) : ofText (before ++ (w ++ after)) = x := by
  have htrim : Text.trimBy isPadding (before ++ (w ++ after)) = w :=
    Text.trimBy_append hbefore hafter (not_isPadding_of_numberText h) (NumberText.ne_nil h)
  cases h with
  | decimal htext =>
      have hspan := spanNumber_append htext Lexeme.closes_nil
      rw [List.append_nil] at hspan
      exact ofText_of_spanNumber htrim (radixMark?_of_decimalText htext) hspan
  | radix hmark hdigits hnonempty =>
      rw [ofText_eq, htrim]
      simp only [radixMark?_of_radixMark hmark, List.isEmpty_eq_false_iff.mpr hnonempty,
        Bool.false_eq_true, if_false]

/-- The conversion of the front of a text reads a decimal literal in front of padding as a whole. -/
theorem ofFront_decimalText (h : DecimalText w l) (hbefore : ∀ c ∈ before, isPadding c = true)
    (hafter : ∀ c ∈ after, isPadding c = true) : ofFront (before ++ (w ++ after)) = l.value := by
  have htext : NumberText .basic w l.value := .decimal h
  have hstart : Lexeme.Starts (fun c => isPadding c = false) (w ++ after) :=
    Lexeme.starts_of_startsNumber (Lexeme.startsNumber_numberText htext) (by decide)
      fun c hc => not_isPadding_of_isNumeric (.inl hc)
  rw [ofFront_eq, Text.trimStartBy_append hbefore hstart,
    spanNumber_append h (closes_of_isPadding hafter)]

end Number

namespace Lexeme

variable {d : Dialect} {w : List Char} {x : Number} {p : Char → Prop}

theorem wordToken_ne_number {word : String} : wordToken d word ≠ .number x := by
  unfold wordToken
  repeat' split
  all_goals exact Token.noConfusion

theorem Spells.numberText (h : Spells d w (.number x) p) : NumberText d w x := by
  generalize ht : Token.number x = t at h
  cases h with
  | number htext =>
      cases ht
      exact htext
  | word => exact absurd ht.symm wordToken_ne_number
  | _ => cases ht

end Lexeme

namespace Lexer

open Lexeme (NumberText)
open Number (isPadding decimal)

variable {d : Dialect} {text : List Char} {x : Number}

/-- A text has a number as its only token exactly if it is a literal of the number between blanks. -/
theorem yields_number_iff : (ofChars d text).Yields [.number x] ↔
    ∃ gap w gap', text = gap ++ (w ++ gap') ∧ (∀ c ∈ gap, Text.isBlank c = true) ∧
      (∀ c ∈ gap', Text.isBlank c = true) ∧ NumberText d w x := by
  rw [yields_iff_words]
  constructor
  · intro h
    cases h with
    | @cons _ gap w gap' t ts hfront ht hrest =>
        cases hrest with
        | nil hblank =>
            obtain ⟨p, hspells, -⟩ := hfront.exists_spells ht
            exact ⟨gap, w, gap', hfront.split, hfront.blank, hblank, hspells.numberText⟩
  · rintro ⟨gap, w, gap', rfl, hgap, hgap', htext⟩
    have hvisible : Lexeme.Visible (w ++ gap') :=
      Lexeme.not_isBlank_of_startsNumber (Lexeme.startsNumber_numberText htext)
    have hcloses : Lexeme.Closes gap' :=
      Number.closes_of_isPadding fun c hc => Number.isPadding_of_isBlank (hgap' c hc)
    exact .cons ⟨rfl, hgap, hvisible, Lexeme.scan_numberText htext hcloses⟩ Token.noConfusion
      (.nil hgap')

/-- Literals are read alike by the scanner and by the conversions, whatever padding surrounds them:
where a text has a number as its only token, it is converted to the number, and so is its front if
the literal is a decimal one. -/
theorem conversions_read_literals (h : (ofChars .extended text).Yields [.number x])
    (before after : List Char) (hbefore : ∀ c ∈ before, isPadding c = true)
    (hafter : ∀ c ∈ after, isPadding c = true) :
    Number.ofText (before ++ text ++ after) = x ∧
      (Text.trim text ∈ decimal.matches' → Number.ofFront (before ++ text ++ after) = x) := by
  obtain ⟨gap, w, gap', rfl, hgap, hgap', htext⟩ := yields_number_iff.mp h
  have hsplit : before ++ (gap ++ (w ++ gap')) ++ after =
      before ++ gap ++ (w ++ (gap' ++ after)) := by
    simp only [List.append_assoc]
  have hfront : ∀ c ∈ before ++ gap, isPadding c = true :=
    List.forall_mem_append.mpr ⟨hbefore, fun c hc => Number.isPadding_of_isBlank (hgap c hc)⟩
  have hback : ∀ c ∈ gap' ++ after, isPadding c = true :=
    List.forall_mem_append.mpr ⟨fun c hc => Number.isPadding_of_isBlank (hgap' c hc), hafter⟩
  rw [hsplit]
  refine ⟨Number.ofText_numberText htext hfront hback, fun hdecimal => ?_⟩
  have hvisible : ∀ c ∈ w, Text.isBlank c = false := by
    intro c hc
    by_contra hblank
    have hpadding := Number.isPadding_of_isBlank (Bool.of_not_eq_false hblank)
    rw [Number.not_isPadding_of_numberText htext c hc] at hpadding
    cases hpadding
  rw [Text.trim, Text.trimBy_append hgap hgap' hvisible (Number.NumberText.ne_nil htext)] at hdecimal
  obtain ⟨l, hl⟩ := Number.mem_decimal.mp hdecimal
  obtain rfl := htext.unique (.decimal hl)
  exact Number.ofFront_decimalText hl hfront hback

/-- A literal without a digit behind its point, and one that is longer than any word of bits. -/
theorem conversions_read_point_and_radix :
    (∃ x, (ofChars .extended " 1.e5".toList).Yields [.number x] ∧
      Number.ofText ("\uFEFF\t".toList ++ " 1.e5".toList ++ "\n".toList) = x ∧
      Number.ofFront ("\uFEFF\t".toList ++ " 1.e5".toList ++ "\n".toList) = x) ∧
    ∃ x, (ofChars .extended "0XFFFFFFFFFFFFFFFFFF".toList).Yields [.number x] ∧
      Number.ofText ("\uFEFF\t".toList ++ "0XFFFFFFFFFFFFFFFFFF".toList ++ "\n".toList) = x := by
  have hbefore : ∀ c ∈ "\uFEFF\t".toList, isPadding c = true := List.all_eq_true.mp rfl
  have hafter : ∀ c ∈ "\n".toList, isPadding c = true := List.all_eq_true.mp rfl
  have hblank : ∀ c ∈ [' '], Text.isBlank c = true := List.all_eq_true.mp rfl
  have hnone : ∀ c ∈ ([] : List Char), Text.isBlank c = true := List.forall_mem_nil _
  constructor
  · obtain ⟨l, hl⟩ := Number.mem_decimal.mp (by decide : "1.e5".toList ∈ decimal.matches')
    have hyields : (ofChars .extended " 1.e5".toList).Yields [.number l.value] :=
      yields_number_iff.mpr ⟨[' '], _, [], rfl, hblank, hnone, .decimal hl⟩
    obtain ⟨hwhole, hfront⟩ := conversions_read_literals hyields _ _ hbefore hafter
    exact ⟨_, hyields, hwhole, hfront (by decide)⟩
  · have hdigits : Number.AllDigitsOf 16 "FFFFFFFFFFFFFFFFFF".toList := by decide
    have hyields := yields_number_iff.mpr ⟨[], _, [], rfl, hnone, hnone,
      .radix (.hexadecimal (d := .extended) (.inr rfl)) hdigits (by decide)⟩
    exact ⟨_, hyields, (conversions_read_literals hyields _ _ hbefore hafter).1⟩

end Lexer

end Guest
