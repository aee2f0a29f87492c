import Guest.Proofs.Text.Occurrences
import Guest.Proofs.Token.Literals

/-!
# The scanner of signed literals

Without a pattern a signed literal is read by a scanner that takes its parts one after another.
What it reads is a signed literal, and a signed literal is read to its end and converted to its
number.
-/

namespace Guest
namespace Number

open Lexeme (Starts starts_nil starts_cons starts_append NoDigit fractionPart)
open Numeral (AllDigits)

variable {s w tail after fraction digits point scale : List Char} {negative : Bool} {l : Literal}
  {x : Number}

/-- Reads a signed literal at the front of a text, `Infinity` included: its number and what follows
it. -/
def spanNumber (s : List Char) : Option (Number × List Char) :=
  let (negative, unsigned) := spanSign s
  match Text.dropFront? textInfinity unsigned with
  | some after => some (infinite negative, after)
  | none =>
    match spanLiteral unsigned with
    | some (literal, after) =>
      some (if negative then literal.value.neg else literal.value, after)
    | none => none

/-! ## Literals with signs -/

/-- The texts of numbers that are converted, and the numbers: a decimal literal or `Infinity`, with
or without a sign. -/
inductive SignedText : List Char → Number → Prop where
  | decimal {sign w : List Char} {negative : Bool} {l : Literal} :
      SignText sign negative → DecimalText w l →
      SignedText (sign ++ w) (if negative then l.value.neg else l.value)
  | infinity {sign : List Char} {negative : Bool} :
      SignText sign negative → SignedText (sign ++ textInfinity) (infinite negative)

/-! ## What is read is a literal -/

theorem exists_scaleText (s : List Char) :
    ∃ scale, ExponentText scale (spanExponent s).1 (spanExponent s).2.1 ∧
      s = scale ++ (spanExponent s).2.2 := by
  unfold spanExponent
  split
  · next mark rest =>
      split
      · next hmark =>
          obtain ⟨sign, hsign, hrest⟩ := Lexeme.exists_signText rest
          have hsplit := Lexeme.append_spanDigits (spanSign rest).2
          have hdigits := Lexeme.allDigits_spanDigits (spanSign rest).2
          dsimp only
          split
          · exact ⟨[], .none, rfl⟩
          · next hnonempty =>
              refine ⟨_, .scale hmark hsign hdigits (by simpa using hnonempty), ?_⟩
              rw [List.cons_append, List.append_assoc, hsplit, ← hrest]
      · exact ⟨[], .none, rfl⟩
  · exact ⟨[], .none, rfl⟩

theorem exists_decimalText_of_spanLiteral (h : spanLiteral s = some (l, after)) :
    ∃ w, s = w ++ after ∧ DecimalText w l := by
  rw [spanLiteral_eq] at h
  dsimp only at h
  split at h
  · cases h
  · next hsome =>
      cases h
      obtain ⟨point, hpoint, hfraction, -⟩ := Lexeme.exists_fractionText (spanDigits s).2
      obtain ⟨scale, hscale, hexponent⟩ := exists_scaleText (fractionPart (spanDigits s).2).2.2
      refine ⟨_, ?_, .parts (Lexeme.allDigits_spanDigits s) hpoint ?_ hscale⟩
      · rw [List.append_assoc, List.append_assoc, ← hexponent, ← hfraction,
          Lexeme.append_spanDigits]
      · rwa [Bool.and_eq_true, not_and_or, List.isEmpty_iff, List.isEmpty_iff] at hsome

theorem exists_signedText_of_spanNumber (h : spanNumber s = some (x, after)) :
    ∃ w, s = w ++ after ∧ SignedText w x := by
  obtain ⟨sign, hsign, hs⟩ := Lexeme.exists_signText s
  rw [spanNumber] at h
  generalize spanSign s = signed at *
  obtain ⟨negative, unsigned⟩ := signed
  dsimp only at h hsign hs
  split at h
  · next rest hinfinity =>
      cases h
      rw [Text.dropFront?_eq_some_iff] at hinfinity
      exact ⟨_, by rw [hs, hinfinity, List.append_assoc], .infinity hsign⟩
  · split at h
    · next literal rest hliteral =>
        cases h
        obtain ⟨w, rfl, htext⟩ := exists_decimalText_of_spanLiteral hliteral
        exact ⟨_, by rw [hs, List.append_assoc], .decimal hsign htext⟩
    · cases h

/-! ## Literals are read to their end -/

/-- No sign and no infinite number starts with another character. -/
theorem unsigned_of_starts {s : List Char} (h : Starts (fun c => c ∉ ['+', '-', 'I']) s) :
    spanSign s = (false, s) ∧ Text.dropFront? textInfinity s = none := by
  constructor
  · unfold spanSign
    split
    · exact absurd List.mem_cons_self (starts_cons.mp h)
    · exact absurd (List.mem_cons_of_mem _ List.mem_cons_self) (starts_cons.mp h)
    · rfl
  · cases s with
    | nil => rfl
    | cons c rest =>
        have hc : 'I' ≠ c := by
          rintro rfl
          exact starts_cons.mp h (by decide)
        exact if_neg hc

theorem starts_decimalText (h : DecimalText w l) :
    Starts (fun c => c ∉ ['+', '-', 'I']) (w ++ tail) := by
  have hnone : ∀ c ∈ ['+', '-', 'I'], (!Numeral.isDecimalDigit c) = true :=
    List.all_eq_true.mp rfl
  have hstarts : Lexeme.startsNumber (w ++ tail) = true :=
    Lexeme.startsNumber_numberText (.decimal h : Lexeme.NumberText .basic w l.value)
  refine Lexeme.starts_of_startsNumber hstarts (by decide) fun c hc hmem => ?_
  have hdigit := hnone c hmem
  rw [hc] at hdigit
  cases hdigit

theorem spanSign_append {sign : List Char} (hsign : SignText sign negative)
    (hs : spanSign s = (false, s)) : spanSign (sign ++ s) = (negative, s) := by
  cases hsign with
  | none => exact hs
  | plus => rfl
  | minus => rfl

theorem spanNumber_infinity {sign : List Char} (hsign : SignText sign negative)
    (tail : List Char) :
    spanNumber (sign ++ (textInfinity ++ tail)) = some (infinite negative, tail) := by
  have hunsigned : spanSign (textInfinity ++ tail) = (false, textInfinity ++ tail) := rfl
  have hword : Text.dropFront? textInfinity (textInfinity ++ tail) = some tail :=
    Text.dropFront?_eq_some_iff.mpr rfl
  rw [spanNumber, spanSign_append hsign hunsigned]
  simp only [hword]

theorem spanNumber_decimal {sign : List Char} (hsign : SignText sign negative)
    (h : DecimalText w l) {l' : Literal} (hread : spanLiteral (w ++ tail) = some (l', after)) :
    spanNumber (sign ++ (w ++ tail)) =
      some (if negative then l'.value.neg else l'.value, after) := by
  obtain ⟨hunsigned, hword⟩ := unsigned_of_starts (@starts_decimalText w tail l h)
  rw [spanNumber, spanSign_append hsign hunsigned]
  simp only [hword, hread]

theorem spanNumber_signedText (h : SignedText w x) : spanNumber w = some (x, []) := by
  cases h with
  | infinity hsign =>
      have hread := spanNumber_infinity hsign []
      rwa [List.append_nil] at hread
  | @decimal sign w negative l hsign htext =>
      have hwhole : spanLiteral (w ++ []) = some (l, []) :=
        spanLiteral_append htext Lexeme.closes_nil
      have hread := spanNumber_decimal hsign htext hwhole
      rwa [List.append_nil] at hread

/-! ## Nothing longer is a literal -/

theorem spanDigits_suffix (s : List Char) : (spanDigits s).2 <:+ s := List.dropWhile_suffix _

theorem fractionPart_suffix (s : List Char) : (fractionPart s).2.2 <:+ s := by
  obtain ⟨point, -, hs, -⟩ := Lexeme.exists_fractionText s
  exact ⟨point, hs.symm⟩

theorem spanExponent_suffix (s : List Char) : (spanExponent s).2.2 <:+ s := by
  obtain ⟨scale, -, hs⟩ := exists_scaleText s
  exact ⟨scale, hs.symm⟩

theorem spanDigits_snd_append (h : AllDigits digits) (s : List Char) :
    (spanDigits (digits ++ s)).2 = (spanDigits s).2 :=
  List.dropWhile_append_of_pos h

theorem spanDigits_snd_of_starts (h : Starts NoDigit s) : (spanDigits s).2 = s :=
  congrArg Prod.snd (Lexeme.spanDigits_append Numeral.allDigits_nil h)

/-- What is read as an exponent is not shorter than an exponent with which the text starts. -/
theorem spanExponent_greedy (h : ExponentText scale negative digits) (tail : List Char) :
    (spanExponent (scale ++ tail)).2.2 <:+ tail := by
  cases h with
  | none => exact spanExponent_suffix tail
  | @scale mark sign digits negative hmark hsign hdigits hnonempty =>
      have hsigned : spanSign (sign ++ (digits ++ tail)) = (negative, digits ++ tail) :=
        Lexeme.spanSign_sign hsign hdigits hnonempty
      have hread : (spanDigits (digits ++ tail)).1 ≠ [] := by
        rw [spanDigits, List.takeWhile_append_of_pos hdigits]
        exact List.append_ne_nil_of_left_ne_nil hnonempty _
      rw [List.cons_append, List.append_assoc, spanExponent, if_pos hmark, hsigned]
      dsimp only
      rw [if_neg (by simpa using hread), spanDigits_snd_append hdigits]
      exact spanDigits_suffix tail

theorem starts_scale (h : ExponentText scale negative digits) (hne : scale ≠ []) :
    Starts (fun c => NoDigit c ∧ c ≠ '.') (scale ++ tail) := by
  have hmark : Starts (fun c => NoDigit c ∧ c ≠ '.') scale := starts_exponentText h (by decide)
  obtain ⟨c, more, rfl⟩ := List.exists_cons_of_ne_nil hne
  exact starts_cons.mpr (starts_cons.mp hmark)

/-- Behind the digits the point, the fraction and the exponent are read as far as they go. -/
theorem fraction_greedy (hpoint : FractionText point fraction)
    (hscale : ExponentText scale negative digits) (tail : List Char) :
    (spanExponent (fractionPart (point ++ (scale ++ tail))).2.2).2.2 <:+ tail := by
  by_cases hne : scale = []
  · subst hne
    refine (spanExponent_suffix _).trans ?_
    cases hpoint with
    | none => exact fractionPart_suffix tail
    | point hdigits =>
        change (spanDigits (_ ++ tail)).2 <:+ tail
        rw [spanDigits_snd_append hdigits]
        exact spanDigits_suffix tail
  · rw [Lexeme.fractionPart_point hpoint (starts_scale hscale hne)]
    exact spanExponent_greedy hscale tail

/-- Behind a literal at most some more characters are read as a part of it. -/
theorem spanLiteral_greedy (h : DecimalText w l) (tail : List Char) :
    ∃ l' after, spanLiteral (w ++ tail) = some (l', after) ∧ after <:+ tail := by
  have hstarts : Lexeme.startsNumber (w ++ tail) = true :=
    Lexeme.startsNumber_numberText (.decimal h : Lexeme.NumberText .basic w l.value)
  have hdigit := Lexeme.whole_or_fraction_of_startsNumber hstarts
  rw [ne_eq, ne_eq, ← not_and_or, ← List.isEmpty_iff, ← List.isEmpty_iff, ← Bool.and_eq_true]
    at hdigit
  rw [spanLiteral_eq]
  dsimp only
  rw [if_neg hdigit]
  refine ⟨_, _, rfl, ?_⟩
  cases h with
  | @parts whole fraction digits point scale negative hwhole hpoint hsome hscale =>
      rw [List.append_assoc, List.append_assoc, spanDigits_snd_append hwhole]
      cases hpoint with
      | point hfraction =>
          have hend : Starts NoDigit ('.' :: fraction ++ (scale ++ tail)) :=
            starts_cons.mpr (by decide)
          rw [spanDigits_snd_of_starts hend]
          exact fraction_greedy (.point hfraction) hscale tail
      | none =>
          by_cases hne : scale = []
          · subst hne
            exact (spanExponent_suffix _).trans
              ((fractionPart_suffix _).trans (spanDigits_suffix tail))
          · have hend : Starts NoDigit (scale ++ tail) :=
              fun c hc => (starts_scale hscale hne c hc).1
            rw [List.nil_append, spanDigits_snd_of_starts hend]
            exact fraction_greedy .none hscale tail

/-- Behind a signed literal at most some more characters are read as a part of it. -/
theorem spanNumber_greedy (h : SignedText w x) (tail : List Char) :
    ∃ y after, spanNumber (w ++ tail) = some (y, after) ∧ after <:+ tail := by
  cases h with
  | infinity hsign =>
      rw [List.append_assoc]
      exact ⟨_, tail, spanNumber_infinity hsign tail, List.suffix_rfl⟩
  | decimal hsign htext =>
      obtain ⟨l', after, hread, hafter⟩ := spanLiteral_greedy htext tail
      rw [List.append_assoc]
      exact ⟨_, after, spanNumber_decimal hsign htext hread, hafter⟩

/-! ## Literals are converted to their numbers -/

/-- The signs of a literal are dropped, and a minus is told from the others. -/
theorem ofLiteral_sign {sign : List Char} (hsign : SignText sign negative)
    (hs : Starts (fun c => c ∉ ['+', '-', 'I']) s ∨ s = textInfinity) :
    ofLiteral (sign ++ s) =
      let magnitude := if s = textInfinity then infinite false else (ofDecimalText? s).getD nan
      if negative then magnitude.neg else magnitude := by
  have hstarts : Starts (fun c => (c == '+' || c == '-') = false) s := by
    rcases hs with hs | rfl
    · intro c hc
      have hmem := hs c hc
      simp only [List.mem_cons, not_or] at hmem
      rw [beq_false_of_ne hmem.1, beq_false_of_ne hmem.2.1]
      rfl
    · exact starts_cons.mpr rfl
  have hdrop : (sign ++ s).dropWhile (fun c => c == '+' || c == '-') = s := by
    refine Lexeme.dropWhile_append_of_starts ?_ hstarts
    cases hsign with
    | none => exact List.forall_mem_nil _
    | plus => exact List.forall_mem_singleton.mpr rfl
    | minus => exact List.forall_mem_singleton.mpr rfl
  have hminus : Text.startsWith ['-'] (sign ++ s) = negative := by
    cases hsign with
    | plus => rfl
    | minus => rfl
    | none =>
        cases s with
        | nil => rfl
        | cons c rest =>
            have hc := starts_cons.mp hstarts
            rw [Bool.or_eq_false_iff] at hc
            have hne : '-' ≠ c := (ne_of_beq_false hc.2).symm
            rw [List.nil_append, Text.startsWith, Text.dropFront?, if_neg hne]
            rfl
  rw [ofLiteral, hdrop, hminus]

theorem ofLiteral_signedText (h : SignedText w x) : ofLiteral w = x := by
  cases h with
  | @decimal sign v negative l hsign htext =>
      have hstarts := @starts_decimalText v [] l htext
      rw [List.append_nil] at hstarts
      have hword : v ≠ textInfinity := by
        rintro rfl
        exact starts_cons.mp hstarts (by decide)
      rw [ofLiteral_sign hsign (.inl hstarts), if_neg hword, ofDecimalText?,
        spanLiteral_decimalText htext]
      rfl
  | @infinity sign negative hsign =>
      rw [ofLiteral_sign hsign (.inr rfl), if_pos rfl]
      cases negative <;> rfl

end Number
end Guest
