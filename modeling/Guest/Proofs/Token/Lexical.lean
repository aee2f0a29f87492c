import Guest.Proofs.Token.Fronts

/-!
# The words of a dialect

Which texts a dialect takes for a token is given by rules, each with the characters that may follow:
a longer sign, a longer number or a longer word is never cut.  The scanner reads a word in front of
a text exactly if a rule gives it and the first character behind it may follow.  So one character
decides, and a word that stands alone is read as it is in a longer text.
-/

namespace Guest

namespace Sign

/-- Tells the signs of a dialect. -/
def knownTo (d : Dialect) : Sign → Bool
  | starStar => d.isRich
  | assign => d == .filter
  | _ => true

/-- Tells the characters that make a sign in front of them a part of a longer token. -/
def grows (d : Dialect) : Sign → Char → Bool
  | plus, c => c == '+'
  | minus, c => c == '-'
  | star, c => c == '*' && d.isRich
  | less, c => c == '<' || c == '='
  | greater, c => c == '>' || c == '='
  | shiftRight, c => c == '>'
  | equal, c => c == '='
  | notEqual, c => c == '='
  | assign, c => c == '='
  | bang, c => c == '='
  | ampersand, c => c == '&'
  | bar, c => c == '|'
  | question, c => c == ':'
  | dot, c => Numeral.isDecimalDigit c
  | _, _ => false

end Sign

namespace Lexeme

variable {d : Dialect} {s w tail rest : List Char} {c : Char} {t : Token} {n : Nat}
  {p : Char → Prop}

/-! ## Signs -/

theorem exists_sign (hs : startsNumber s = false) {sign : Sign}
    (h : sign? d s = some (sign, n)) :
    ∃ tail, s = sign.text.toList ++ tail ∧ n = sign.text.toList.length ∧ sign.knownTo d = true ∧
      Starts (fun c => sign.grows d c = false) tail := by
  unfold sign? at h
  split at h
  all_goals try split at h
  all_goals first
    | exact absurd h (Option.some_ne_none _).symm
    | next =>
        cases h
        refine ⟨_, rfl, rfl, ?_, ?_⟩
        · simp_all [Sign.knownTo]
        · intro c hc
          obtain ⟨more, hmore⟩ := List.head?_eq_some_iff.mp hc
          simp_all [Sign.grows, startsNumber]

theorem sign?_text {sign : Sign} (hsign : sign.knownTo d = true)
    (htail : Starts (fun c => sign.grows d c = false) tail) :
    sign? d (sign.text.toList ++ tail) = some (sign, sign.text.toList.length) := by
  cases tail with
  | nil =>
      cases sign
      all_goals first
        | rfl
        | exact if_pos (by simpa [Sign.knownTo] using hsign)
  | cons c rest =>
      have hc : sign.grows d c = false := starts_cons.mp htail
      cases sign
      case star =>
        by_cases hstar : c = '*'
        · subst hstar
          have hrich : ¬d.isRich = true := by simpa [Sign.grows] using hc
          exact if_neg hrich
        · simp [Sign.text, sign?, hstar]
      all_goals first
        | rfl
        | exact if_pos (by simpa [Sign.knownTo] using hsign)
        | simp_all [Sign.text, Sign.knownTo, Sign.grows, sign?]

/-! ## Texts -/

/-- The texts between quotes, with the closing quote, and what they stand for.  A backslash is
dropped before the quote and before another backslash, and kept before all other characters. -/
inductive QuotedText (quote : Char) : List Char → List Char → Prop where
  | close :
      QuotedText quote [quote] []
  | escaped {c : Char} {w body : List Char} :
      c = quote ∨ c = '\\' → QuotedText quote w body → QuotedText quote ('\\' :: c :: w) (c :: body)
  | kept {c : Char} {w body : List Char} :
      ¬(c = quote ∨ c = '\\') → QuotedText quote w body →
      QuotedText quote ('\\' :: c :: w) ('\\' :: c :: body)
  | plain {c : Char} {w body : List Char} :
      ¬(c = quote ∨ c = '\\') → QuotedText quote w body → QuotedText quote (c :: w) (c :: body)

variable {quote : Char} {body : List Char}

theorem exists_quotedText (h : quotedBody quote s = some (body, n)) :
    ∃ w tail, s = w ++ tail ∧ w.length = n ∧ QuotedText quote w body := by
  fun_induction quotedBody quote s generalizing body n with
  | case1 => cases h
  | case2 rest =>
      cases h
      exact ⟨[quote], rest, rfl, rfl, .close⟩
  | case3 => cases h
  | case4 c rest _ ih =>
      obtain ⟨⟨body', n'⟩, hbody, heq⟩ := Option.map_eq_some_iff.mp h
      obtain ⟨w, tail, rfl, rfl, htext⟩ := ih hbody
      dsimp only at heq
      split at heq
      · next hc =>
          cases heq
          exact ⟨'\\' :: c :: w, tail, rfl, rfl, .escaped hc htext⟩
      · next hc =>
          cases heq
          exact ⟨'\\' :: c :: w, tail, rfl, rfl, .kept hc htext⟩
  | case5 c rest hquote hslash ih =>
      obtain ⟨⟨body', n'⟩, hbody, heq⟩ := Option.map_eq_some_iff.mp h
      obtain ⟨w, tail, rfl, rfl, htext⟩ := ih hbody
      cases heq
      exact ⟨c :: w, tail, rfl, rfl, .plain (not_or.mpr ⟨hquote, hslash⟩) htext⟩

theorem quotedBody_kept (hquote : quote ≠ '\\') (hc : ¬(c = quote ∨ c = '\\')) :
    quotedBody quote ('\\' :: c :: rest) =
      (quotedBody quote rest).map fun (body, length) => ('\\' :: c :: body, length + 2) := by
  rw [quotedBody.eq_def]
  simp [hc, hquote.symm]

theorem quotedBody_quotedText (hquote : quote ≠ '\\') (h : QuotedText quote w body) :
    quotedBody quote (w ++ tail) = some (body, w.length) := by
  induction h with
  | close => exact quotedBody_quote
  | escaped hc _ ih =>
      rw [List.cons_append, List.cons_append, quotedBody_escaped hquote hc, ih]
      rfl
  | kept hc _ ih =>
      rw [List.cons_append, List.cons_append, quotedBody_kept hquote hc, ih]
      rfl
  | plain hc _ ih =>
      rw [List.cons_append, quotedBody_plain hc, ih]
      rfl

theorem ne_backslash_of_isQuote (h : isQuote quote = true) : quote ≠ '\\' := by
  rintro rfl
  exact absurd h (by decide)

/-! ## All words -/

/-- The texts that a dialect takes for a token, with the characters that may follow. -/
inductive Spells (d : Dialect) : List Char → Token → (Char → Prop) → Prop where
  | number {w : List Char} {x : Number} :
      NumberText d w x → Spells d w (.number x) fun c => isNamePart c = false ∧ c ≠ '.'
  | sign {sign : Sign} :
      sign.knownTo d = true → Spells d sign.text.toList (.sign sign) fun c => sign.grows d c = false
  | string {quote : Char} {w body : List Char} :
      isQuote quote = true → QuotedText quote w body →
      Spells d (quote :: w) (.string (String.ofList body)) fun _ => True
  | word {c : Char} {rest : List Char} :
      isNameStart c = true → (∀ a ∈ c :: rest, isNamePart a = true) →
      (d = .extended → Text.startsWith ['N', 'O', 'T'] (c :: rest) = false) →
      Spells d (c :: rest) (wordToken d (String.ofList (c :: rest))) fun c => isNamePart c = false
  | negation :
      d = .extended → Spells d ['N', 'O', 'T'] (.word .not) fun _ => True

theorem endsWord_dropWhile (s : List Char) : EndsWord (s.dropWhile isNamePart) := by
  intro c hc
  have hend := List.head?_dropWhile_not isNamePart s
  rw [hc] at hend
  exact hend

/-- What the scanner reads at the front of a text is a word of the dialect, and what follows may
follow it. -/
theorem exists_spells (h : scan d (c :: rest) = ⟨n, .ok t⟩) :
    ∃ w tail p, c :: rest = w ++ tail ∧ w.length = n ∧ Spells d w t p ∧ Starts p tail := by
  unfold scan at h
  dsimp only at h
  split at h
  · next hnumber =>
      obtain ⟨w, tail, x, hsplit, hn, htext, htail, rfl⟩ := exists_numberText hnumber h
      exact ⟨w, tail, _, hsplit, hn, .number htext, htail⟩
  · next hnumber =>
      split at h
      · next sign length hsign =>
          cases h
          obtain ⟨tail, hsplit, hn, hknown, htail⟩ :=
            exists_sign (Bool.eq_false_of_not_eq_true hnumber) hsign
          exact ⟨_, tail, _, hsplit, hn.symm, .sign hknown, htail⟩
      split at h
      · next hquote =>
          unfold quotedText at h
          split at h
          · next body length hbody =>
              cases h
              obtain ⟨w, tail, rfl, rfl, htext⟩ := exists_quotedText hbody
              exact ⟨c :: w, tail, _, rfl, rfl, .string hquote htext, fun _ _ => trivial⟩
          · cases h
      split at h
      · next hstart =>
          unfold word at h
          split at h
          · next hnot =>
              cases h
              obtain ⟨tail, htail⟩ := Text.startsWith_iff.mp hnot.2
              exact ⟨_, tail, _, htail.symm, rfl, .negation hnot.1, fun _ _ => trivial⟩
          · next hnot =>
              cases h
              have hword : (c :: rest).takeWhile isNamePart = c :: rest.takeWhile isNamePart :=
                List.takeWhile_cons_of_pos (isNamePart_of_isNameStart hstart)
              have hpart : ∀ a ∈ c :: rest.takeWhile isNamePart, isNamePart a = true :=
                hword ▸ List.all_eq_true.mp List.all_takeWhile
              have hsplit :
                  c :: rest = c :: rest.takeWhile isNamePart ++ rest.dropWhile isNamePart := by
                rw [List.cons_append, List.takeWhile_append_dropWhile]
              rw [hword]
              refine ⟨_, _, _, hsplit, rfl, .word hstart hpart fun hd => ?_,
                endsWord_dropWhile rest⟩
              rw [hsplit, startsWith_append_endsWord (List.all_eq_true.mp rfl)
                (endsWord_dropWhile rest)] at hnot
              exact Bool.eq_false_of_not_eq_true fun hfront => hnot ⟨hd, hfront⟩
      · cases h

theorem startsNumber_sign {sign : Sign} (htail : Starts (fun c => sign.grows d c = false) tail) :
    startsNumber (sign.text.toList ++ tail) = false := by
  cases sign
  case dot =>
    cases tail with
    | nil => rfl
    | cons c rest => exact starts_cons.mp htail
  all_goals rfl

/-- The scanner reads a word of the dialect where what follows may follow it. -/
theorem scan_spells (h : Spells d w t p) (htail : Starts p tail) :
    scan d (w ++ tail) = ⟨w.length, .ok t⟩ := by
  cases h with
  | number htext => exact scan_numberText htext htail
  | @sign sign hknown =>
      have hnumber := startsNumber_sign htail
      have hsign := sign?_text hknown htail
      cases hs : sign.text.toList ++ tail with
      | nil =>
          rw [hs] at hsign
          cases hsign
      | cons c rest =>
          rw [hs] at hnumber hsign
          rw [scan, hnumber, hsign]
          rfl
  | string hquote htext =>
      rw [List.cons_append, scan_quote hquote, quotedText,
        quotedBody_quotedText (ne_backslash_of_isQuote hquote) htext]
      rfl
  | word hstart hpart hnot => exact scan_word_append hstart hpart hnot htail
  | negation hd =>
      rw [List.cons_append, scan_of_isNameStart rfl, word]
      exact if_pos ⟨hd, rfl⟩

theorem not_isBlank_of_startsNumber (h : startsNumber s = true) : Visible s :=
  starts_of_startsNumber h rfl fun _ => Number.not_isBlank_of_isDecimalDigit

/-- No word of the dialect starts with a blank. -/
theorem Spells.visible (h : Spells d w t p) : Visible (w ++ tail) := by
  cases h with
  | number htext => exact not_isBlank_of_startsNumber (startsNumber_numberText htext)
  | @sign sign => cases sign <;> exact starts_cons.mpr rfl
  | string hquote =>
      simp only [isQuote, Bool.or_eq_true, beq_iff_eq] at hquote
      rcases hquote with (rfl | rfl) | rfl
      all_goals exact starts_cons.mpr rfl
  | word hstart => exact starts_cons.mpr (not_isBlank_of_isNameStart hstart)
  | negation => exact starts_cons.mpr rfl

theorem Spells.ne_endOfText (h : Spells d w t p) : t ≠ .endOfText := by
  cases h with
  | word => exact wordToken_ne_endOfText
  | _ => exact Token.noConfusion

/-- A word that is read as a name is the name itself. -/
theorem Spells.eq_of_identifier {name : String} (h : Spells d w (.identifier name) p) :
    w = name.toList := by
  generalize ht : Token.identifier name = t at h
  cases h with
  | word =>
      rw [← eq_of_wordToken ht.symm, String.toList_ofList]
  | _ => cases ht

/-! ## One character decides -/

/-- The characters that make no token in front of them longer. -/
def Neutral (c : Char) : Prop :=
  isNamePart c = false ∧ c ∉ ['.', '+', '-', '*', '<', '>', '=', '&', '|', ':']

instance : DecidablePred Neutral := fun _ => inferInstanceAs (Decidable (_ ∧ _))

theorem neutral_of_isBlank (h : Text.isBlank c = true) : Neutral c := by
  refine ⟨?_, fun hc => ?_⟩
  · by_contra hpart
    rw [not_isBlank_of_isNamePart (Bool.of_not_eq_false hpart)] at h
    cases h
  · have hall : ∀ c ∈ ['.', '+', '-', '*', '<', '>', '=', '&', '|', ':'],
        (!Text.isBlank c) = true := List.all_eq_true.mp rfl
    have hblank := hall c hc
    rw [h] at hblank
    cases hblank

theorem grows_neutral (h : Neutral c) (sign : Sign) : sign.grows d c = false := by
  obtain ⟨hpart, hsigns⟩ := h
  have hdigit : Numeral.isDecimalDigit c = false := noDigit_of_not_isNamePart hpart
  simp only [List.mem_cons, List.not_mem_nil, or_false, not_or] at hsigns
  cases sign <;> simp [Sign.grows, hsigns, hdigit]

theorem Spells.neutral (h : Spells d w t p) (hc : Neutral c) : p c := by
  cases h with
  | number => exact ⟨hc.1, fun hpoint => hc.2 (hpoint ▸ List.mem_cons_self)⟩
  | sign => exact grows_neutral hc _
  | string => trivial
  | word => exact hc.1
  | negation => trivial

/-- The character makes no word of the token longer. -/
def MayFollow (d : Dialect) (t : Token) (c : Char) : Prop := ∀ w p, Spells d w t p → p c

theorem mayFollow_of_neutral (hc : Neutral c) : MayFollow d t c := fun _ _ h => h.neutral hc

/-- A colon makes no word longer but a question mark. -/
theorem mayFollow_colon (ht : t ≠ .sign .question) : MayFollow d t ':' := by
  have hpart : isNamePart ':' = false := by decide
  intro w p h
  cases h with
  | number => exact ⟨hpart, by decide⟩
  | @sign sign =>
      cases sign
      case question => exact absurd rfl ht
      all_goals rfl
  | string => trivial
  | word => exact hpart
  | negation => trivial

theorem mayFollow_delimiter {sign : Sign} (h : Delimiter c sign) (ht : t ≠ .sign .question) :
    MayFollow d t c := by
  cases h
  case colon => exact mayFollow_colon ht
  all_goals exact mayFollow_of_neutral (by decide)

/-- A word is read in front of another text as well, if what follows starts with the same character
or with one that may follow the token. -/
theorem scan_congr_of_mayFollow (h : scan d (w ++ rest) = ⟨w.length, .ok t⟩) (hw : w ≠ [])
    (htail : Starts (fun c => c ∈ rest.head? ∨ MayFollow d t c) tail) :
    scan d (w ++ tail) = ⟨w.length, .ok t⟩ := by
  cases w with
  | nil => exact absurd rfl hw
  | cons c more =>
      obtain ⟨w, rest', p, hsplit, hlength, hspells, hrest⟩ := exists_spells h
      have hwords : c :: more ++ rest = w ++ rest' := hsplit
      obtain ⟨rfl, rfl⟩ := List.append_inj hwords hlength.symm
      refine scan_spells hspells fun a ha => ?_
      rcases htail a ha with hsame | hmay
      · exact hrest a hsame
      · exact hmay _ _ hspells

/-- A word is read in front of another text as well, if what follows starts with the same character
or with a neutral one. -/
theorem scan_congr (h : scan d (w ++ rest) = ⟨w.length, .ok t⟩) (hw : w ≠ [])
    (htail : Starts (fun c => c ∈ rest.head? ∨ Neutral c) tail) :
    scan d (w ++ tail) = ⟨w.length, .ok t⟩ :=
  scan_congr_of_mayFollow h hw fun c hc => (htail c hc).imp_right mayFollow_of_neutral

end Lexeme
end Guest
