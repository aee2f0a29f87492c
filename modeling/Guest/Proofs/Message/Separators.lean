import Guest.Proofs.Message.Speakers
import Guest.Proofs.Template.Segments

/-!
# Speakers that are text

The speaker of a line is looked for twice.  The first scan passes over the interpolations of the
whole line up to the separating colon; the second reads the trimmed speaker as a template.  Both
find the same interpolations, as an expression between braces is read the same whatever follows its
braces, so a speaker in front of a separator is always a template.
-/

namespace Guest

namespace Line

open Lexeme (Visible)
open Template (opens opens_braces opens_iff interpolation)

/-- An interpolation that the first scan passes over. -/
structure Span where
  /-- The offset of its first brace. -/
  start : Nat
  /-- The text between its braces. -/
  source : List Char
  expr : Expr

/-- The offset behind the last brace of an interpolation. -/
def Span.stop (span : Span) : Nat := span.start + span.source.length + 4

/-- From an offset on, the scan passes over a text in front of another one: over characters that
neither are colons nor open an interpolation, and over interpolations, each read off all of what is
left. -/
inductive Passes : Nat → List Char → List Char → List Span → Prop where
  | nil {i : Nat} {rest : List Char} :
      Passes i [] rest []
  | char {i : Nat} {c : Char} {text rest : List Char} {spans : List Span} :
      opens c (text ++ rest) = false → c ≠ ':' → Passes (i + 1) text rest spans →
      Passes i (c :: text) rest spans
  | span {i : Nat} {source text rest : List Char} {e : Expr} {spans : List Span} :
      interpolation (source ++ '\x7d' :: '\x7d' :: (text ++ rest)) = .ok (e, source.length + 2) →
      Passes (i + source.length + 4) text rest spans →
      Passes i ('\x7b' :: '\x7b' :: (source ++ '\x7d' :: '\x7d' :: text)) rest
        (⟨i, source, e⟩ :: spans)

/-- What the scan finds from an offset on: the separator, nothing, or an interpolation that is
malformed, each behind what it passes over. -/
inductive Separates (i : Nat) : List Char → Except ParseError (Option Nat) → Prop where
  | found {text rest : List Char} {spans : List Span} :
      Passes i text (':' :: rest) spans → Separates i (text ++ ':' :: rest) (.ok (some text.length))
  | missing {text : List Char} {spans : List Span} :
      Passes i text [] spans → Separates i text (.ok none)
  | malformed {text rest : List Char} {spans : List Span} {e : ParseError} :
      Passes i text ('\x7b' :: '\x7b' :: rest) spans → interpolation rest = .error e →
      Separates i (text ++ '\x7b' :: '\x7b' :: rest) (.error e)

variable {i n : Nat} {c : Char} {s text rest w : List Char} {spans : List Span} {e : Expr}
  {result : Except ParseError (Option Nat)}

/-- The text of an interpolation. -/
def spanChars (source : List Char) : List Char :=
  '\x7b' :: '\x7b' :: (source ++ ['\x7d', '\x7d'])

theorem spanChars_append (source text : List Char) :
    spanChars source ++ text = '\x7b' :: '\x7b' :: (source ++ '\x7d' :: '\x7d' :: text) := by
  simp [spanChars]

theorem length_spanChars (source : List Char) : (spanChars source).length = source.length + 4 := by
  simp [spanChars]

/-! ## The first scan -/

/-- An offset in a part of a text that starts at another offset. -/
def shift (n : Nat) (result : Except ParseError (Option Nat)) : Except ParseError (Option Nat) :=
  result.map fun found => found.map (· + n)

theorem shift_shift (m n : Nat) (result : Except ParseError (Option Nat)) :
    shift m (shift n result) = shift (n + m) result := by
  rcases result with error | _ | offset
  · rfl
  · rfl
  · exact congrArg (fun n => Except.ok (some n)) (Nat.add_assoc _ _ _)

theorem shift_zero (result : Except ParseError (Option Nat)) : shift 0 result = result := by
  rcases result with error | _ | offset <;> rfl

theorem separatorFrom_succ (n : Nat) (c : Char) (s : List Char) :
    separatorFrom (n + 1) (c :: s) = shift 1 (separatorFrom n s) := by
  rw [separatorFrom]
  rcases separatorFrom n s with error | found <;> rfl

theorem separatorFrom_append (w s : List Char) :
    separatorFrom w.length (w ++ s) = shift w.length (separatorFrom 0 s) := by
  induction w with
  | nil => exact (shift_zero _).symm
  | cons c w ih => rw [List.length_cons, List.cons_append, separatorFrom_succ, ih, shift_shift]

theorem separatorFrom_cons (hc : opens c s = false) (hcolon : c ≠ ':') :
    separatorFrom 0 (c :: s) = shift 1 (separatorFrom 0 s) := by
  rw [separatorFrom, hc, if_neg Bool.false_ne_true, if_neg hcolon]
  rcases separatorFrom 0 s with error | found <;> rfl

theorem separatorFrom_opens (h : interpolation s = .ok (e, n)) :
    separatorFrom 0 ('\x7b' :: '\x7b' :: s) = shift 1 (separatorFrom (n + 1) ('\x7b' :: s)) := by
  conv =>
    lhs
    rw [separatorFrom, if_pos (opens_braces s), List.tail_cons, h]
  change Except.bind (separatorFrom (n + 1) ('\x7b' :: s)) _ = _
  rcases separatorFrom (n + 1) ('\x7b' :: s) with error | found <;> rfl

/-- The scan goes on behind an interpolation. -/
theorem separatorFrom_span
    (h : interpolation (w ++ '\x7d' :: '\x7d' :: s) = .ok (e, w.length + 2)) :
    separatorFrom 0 (spanChars w ++ s) = shift (spanChars w).length (separatorFrom 0 s) := by
  have hrest : '\x7b' :: (w ++ '\x7d' :: '\x7d' :: s) = (spanChars w).tail ++ s := by
    simp [spanChars]
  have hlength : w.length + 2 + 1 = (spanChars w).tail.length := by simp [spanChars]
  calc separatorFrom 0 (spanChars w ++ s)
      = shift 1 (separatorFrom (w.length + 2 + 1) ('\x7b' :: (w ++ '\x7d' :: '\x7d' :: s))) := by
        rw [spanChars_append, separatorFrom_opens h]
    _ = shift 1 (shift (spanChars w).tail.length (separatorFrom 0 s)) := by
        rw [hrest, hlength, separatorFrom_append]
    _ = shift (spanChars w).length (separatorFrom 0 s) := shift_shift _ _ _

theorem separatorFrom_malformed {error : ParseError} (h : interpolation s = .error error) :
    separatorFrom 0 ('\x7b' :: '\x7b' :: s) = .error error := by
  rw [separatorFrom, if_pos (opens_braces s), List.tail_cons, h]
  rfl

/-- What the scan finds behind something that it passes over. -/
theorem Separates.extend (h : Separates (i + w.length) s result)
    (hw : ∀ text rest spans, text ++ rest = s → Passes (i + w.length) text rest spans →
      ∃ spans', Passes i (w ++ text) rest spans') :
    Separates i (w ++ s) (shift w.length result) := by
  cases h with
  | @found text rest spans hpasses =>
      obtain ⟨spans', h⟩ := hw _ _ _ rfl hpasses
      have hfound := Separates.found h
      rwa [List.append_assoc, List.length_append, Nat.add_comm w.length] at hfound
  | missing hpasses =>
      obtain ⟨spans', h⟩ := hw _ _ _ (List.append_nil _) hpasses
      exact .missing h
  | malformed hpasses herror =>
      obtain ⟨spans', h⟩ := hw _ _ _ rfl hpasses
      have hmalformed := Separates.malformed h herror
      rwa [List.append_assoc] at hmalformed

theorem Separates.char (hopens : opens c s = false) (hcolon : c ≠ ':')
    (h : Separates (i + 1) s result) : Separates i (c :: s) (shift 1 result) := by
  refine Separates.extend (w := [c]) h fun text rest spans heq hpasses => ?_
  subst heq
  exact ⟨spans, .char hopens hcolon hpasses⟩

theorem Separates.span {source : List Char}
    (hread : interpolation (source ++ '\x7d' :: '\x7d' :: s) = .ok (e, source.length + 2))
    (h : Separates (i + (spanChars source).length) s result) :
    Separates i (spanChars source ++ s) (shift (spanChars source).length result) := by
  refine h.extend fun text rest spans heq hpasses => ?_
  subst heq
  rw [length_spanChars, ← Nat.add_assoc] at hpasses
  rw [spanChars_append]
  exact ⟨⟨i, source, e⟩ :: spans, .span hread hpasses⟩

/-- The scan finds what it is specified to find. -/
theorem separates_separatorFrom (i : Nat) (s : List Char) : Separates i s (separatorFrom 0 s) := by
  induction hlength : s.length using Nat.strong_induction_on generalizing i s with
  | h length ih =>
      have hnext {i : Nat} {s : List Char} (hless : s.length < length) :
          Separates i s (separatorFrom 0 s) := ih s.length hless i s rfl
      cases s with
      | nil => exact .missing .nil
      | cons c s =>
          rw [List.length_cons] at hlength
          cases hopens : opens c s with
          | false =>
              by_cases hcolon : c = ':'
              · subst hcolon
                rw [separatorFrom, hopens]
                exact .found (.nil : Passes i [] (':' :: s) [])
              · rw [separatorFrom_cons hopens hcolon]
                exact .char hopens hcolon (hnext (by omega))
          | true =>
              obtain ⟨s', hs⟩ := opens_iff.mp hopens
              obtain ⟨rfl, rfl⟩ := List.cons.inj hs
              cases hread : interpolation s' with
              | error error =>
                  rw [separatorFrom_malformed hread]
                  exact .malformed (.nil : Passes i [] _ []) hread
              | ok found =>
                  obtain ⟨e, n⟩ := found
                  obtain ⟨source, rest, rfl, rfl, -⟩ := Template.exists_body_of_interpolation hread
                  simp only [List.length_cons, List.length_append] at hlength
                  rw [← spanChars_append, separatorFrom_span hread]
                  exact .span hread (hnext (by omega))

theorem exists_of_textSpeaker? (h : textSpeaker? s = .ok (some (text, n))) :
    ∃ rest spans, s = text ++ ':' :: rest ∧ n = text.length + 1 ∧
      Passes 0 text (':' :: rest) spans := by
  have hscan := separates_separatorFrom 0 s
  unfold textSpeaker? at h
  generalize separatorFrom 0 s = result at h hscan
  cases hscan with
  | found hpasses =>
      cases h
      rw [List.take_left]
      exact ⟨_, _, rfl, rfl, hpasses⟩
  | missing => cases h
  | malformed => cases h

theorem exists_of_textSpeaker?_none (h : textSpeaker? s = .ok none) :
    ∃ spans, Passes 0 s [] spans := by
  have hscan := separates_separatorFrom 0 s
  unfold textSpeaker? at h
  generalize separatorFrom 0 s = result at h hscan
  cases hscan with
  | found => cases h
  | missing hpasses => exact ⟨_, hpasses⟩
  | malformed => cases h

theorem exists_of_textSpeaker?_error {error : ParseError} (h : textSpeaker? s = .error error) :
    ∃ text rest spans, s = text ++ '\x7b' :: '\x7b' :: rest ∧
      Passes 0 text ('\x7b' :: '\x7b' :: rest) spans ∧ interpolation rest = .error error := by
  have hscan := separates_separatorFrom 0 s
  unfold textSpeaker? at h
  generalize separatorFrom 0 s = result at h hscan
  cases hscan with
  | found => cases h
  | missing => cases h
  | malformed hpasses herror =>
      cases h
      exact ⟨_, _, _, rfl, hpasses, herror⟩

/-- Every colon that the scan passes over is inside of an interpolation. -/
theorem Passes.exists_span (h : Passes i text rest spans) {k : Nat} (hk : text[k]? = some ':') :
    ∃ span ∈ spans, span.start ≤ i + k ∧ i + k < span.stop := by
  induction h generalizing k with
  | nil => cases hk
  | @char i c text rest spans _ hcolon _ ih =>
      cases k with
      | zero => exact absurd (Option.some.inj hk) hcolon
      | succ k =>
          obtain ⟨span, hspan, hstart, hstop⟩ := ih hk
          exact ⟨span, hspan, by omega, by omega⟩
  | @span i source text rest e spans _ _ ih =>
      by_cases hless : k < source.length + 4
      · exact ⟨_, List.mem_cons_self, Nat.le_add_right i k, by unfold Span.stop; dsimp only; omega⟩
      · have hcount := length_spanChars source
        rw [← spanChars_append, List.getElem?_append_right (by omega), hcount] at hk
        obtain ⟨span, hspan, hstart, hstop⟩ := ih hk
        exact ⟨span, List.mem_cons_of_mem _ hspan, by omega, by omega⟩

/-! ## The second scan -/

/-- Blanks at the front of a text are characters that the scan passes over. -/
theorem Passes.drop_blanks {gap : List Char} (h : Passes i (gap ++ text) rest spans)
    (hgap : ∀ a ∈ gap, Text.isBlank a = true) : Passes (i + gap.length) text rest spans := by
  induction gap generalizing i with
  | nil => exact h
  | cons c gap ih =>
      obtain ⟨hc, hmore⟩ := List.forall_mem_cons.mp hgap
      rw [List.length_cons, ← Nat.add_assoc, Nat.add_right_comm]
      generalize hs : c :: gap ++ text = s at h
      cases h with
      | nil => cases hs
      | char _ _ h =>
          obtain ⟨rfl, rfl⟩ := List.cons.inj hs
          exact ih h hmore
      | span =>
          obtain ⟨rfl, -⟩ := List.cons.inj hs
          cases hc

theorem Passes.eq_nil_of_blank {gap : List Char} (h : Passes i gap rest spans)
    (hgap : ∀ a ∈ gap, Text.isBlank a = true) : spans = [] := by
  rw [← List.append_nil gap] at h
  cases h.drop_blanks hgap
  rfl

/-- No interpolation ends in blanks. -/
theorem exists_of_append_eq_span {source text text' gap : List Char}
    (hgap : ∀ a ∈ gap, Text.isBlank a = true) (h : text ++ gap = spanChars source ++ text') :
    ∃ more, text = spanChars source ++ more ∧ text' = more ++ gap := by
  rcases List.append_eq_append_iff.mp h with ⟨more, hsource, hgap'⟩ | ⟨more, rfl, rfl⟩
  · rcases List.eq_nil_or_concat more with rfl | ⟨front, c, rfl⟩
    · rw [List.append_nil] at hsource
      exact ⟨[], by rw [hsource, List.append_nil], by rw [hgap']; rfl⟩
    · have hlast := congrArg List.getLast? hsource
      rw [List.concat_eq_append, ← List.append_assoc, List.getLast?_concat] at hlast
      have hbrace : (spanChars source).getLast? = some '\x7d' := by
        simp [spanChars, List.getLast?_cons, List.getLast?_append]
      rw [hbrace] at hlast
      have hblank := hgap c (by rw [hgap']; simp)
      rw [← Option.some.inj hlast] at hblank
      cases hblank
  · exact ⟨more, rfl, rfl⟩

/-- Blanks at the end of a text may be left to what follows it. -/
theorem Passes.take_blanks {gap : List Char} (h : Passes i (text ++ gap) rest spans)
    (hgap : ∀ a ∈ gap, Text.isBlank a = true) : Passes i text (gap ++ rest) spans := by
  generalize hs : text ++ gap = s at h
  induction h generalizing text with
  | nil =>
      obtain ⟨rfl, rfl⟩ := List.append_eq_nil_iff.mp hs
      exact .nil
  | @char i c text' rest spans hopens hcolon h ih =>
      cases text with
      | nil =>
          obtain rfl : gap = c :: text' := hs
          rw [h.eq_nil_of_blank (List.forall_mem_cons.mp hgap).2]
          exact .nil
      | cons a text =>
          obtain ⟨rfl, rfl⟩ := List.cons.inj hs
          rw [List.append_eq, List.append_assoc] at hopens
          exact .char hopens hcolon (ih rfl)
  | @span i source text' rest e spans hinterpolation _ ih =>
      rw [← spanChars_append] at hs
      obtain ⟨more, rfl, rfl⟩ := exists_of_append_eq_span hgap hs
      rw [List.append_assoc] at hinterpolation
      rw [spanChars_append]
      exact .span hinterpolation (ih rfl)

/-- The expressions of a template in order. -/
def expressions (template : Template) : List Expr :=
  template.filterMap fun
    | .text _ => none
    | .expr e => some e

theorem expressions_withText (text : List Char) (segments : List Segment) :
    expressions (Template.withText text segments) = expressions segments := by
  unfold Template.withText
  split
  · rfl
  · rfl

theorem opens_of_append (h : opens c (text ++ rest) = false) : opens c text = false := by
  by_contra hopens
  obtain ⟨more, hmore⟩ := opens_iff.mp (Bool.of_not_eq_false hopens)
  have hlong : opens c (text ++ rest) = true :=
    opens_iff.mpr ⟨more ++ rest, by rw [← List.cons_append, hmore]; rfl⟩
  rw [h] at hlong
  cases hlong

/-- What is read as an expression in front of two closing braces is the source of one. -/
theorem parse_of_interpolation {source rest : List Char}
    (h : interpolation (source ++ '\x7d' :: '\x7d' :: rest) = .ok (e, source.length + 2)) :
    Expr.parse .extended (String.ofList source) = .ok e := by
  obtain ⟨body, rest', hsplit, hlength, hparse⟩ := Template.exists_body_of_interpolation h
  obtain ⟨rfl, -⟩ := List.append_inj hsplit (Nat.add_right_cancel hlength)
  exact hparse

/-- What the first scan passes over is a template with the same expressions, alone as well. -/
theorem Passes.exists_template (h : Passes i text rest spans) :
    ∃ front segments, Template.segmentsFrom 0 text = .ok (front, segments) ∧
      expressions segments = spans.map Span.expr := by
  induction h with
  | nil => exact ⟨[], [], rfl, rfl⟩
  | char hopens _ _ ih =>
      obtain ⟨front, segments, hread, hexpressions⟩ := ih
      exact ⟨_, segments, Template.segmentsFrom_cons (opens_of_append hopens) hread, hexpressions⟩
  | @span i source text rest e spans hinterpolation _ ih =>
      obtain ⟨front, segments, hread, hexpressions⟩ := ih
      have hspan := Template.segmentsFrom_expr (parse_of_interpolation hinterpolation) hread
      rw [Template.Piece.chars, String.toList_ofList] at hspan
      change Template.segmentsFrom 0 (spanChars source ++ text) = _ at hspan
      rw [spanChars_append] at hspan
      refine ⟨_, _, hspan, ?_⟩
      rw [List.map_cons, ← hexpressions, ← expressions_withText front segments]
      rfl

/-- The trimmed text of a speaker is a template with the expressions of the interpolations that the
first scan passed over. -/
theorem Passes.exists_ofChars_trim (h : Passes i text rest spans) :
    ∃ template, Template.ofChars (Text.trim text) = .ok template ∧
      expressions template = spans.map Span.expr := by
  obtain ⟨gap, gap', hsplit, hgap, hgap'⟩ := Text.exists_blanks_trim text
  rw [hsplit] at h
  obtain ⟨front, segments, hread, hexpressions⟩ :=
    ((h.drop_blanks hgap).take_blanks hgap').exists_template
  refine ⟨Template.withText front segments, ?_, ?_⟩
  · rw [Template.ofChars, hread]
    rfl
  · rw [expressions_withText, hexpressions]

/-- The scan passes over a text in one way. -/
theorem Passes.unique (h : Passes i text rest spans) {spans' : List Span}
    (h' : Passes i text rest spans') : spans' = spans := by
  induction h generalizing spans' with
  | nil =>
      cases h'
      rfl
  | char hclosed _ _ ih =>
      cases h' with
      | char _ _ h' => exact ih h'
      | span =>
          rw [List.cons_append, opens_braces] at hclosed
          cases hclosed
  | @span i source text rest e spans hinterpolation _ ih =>
      generalize hs : '\x7b' :: '\x7b' :: (source ++ '\x7d' :: '\x7d' :: text) = s at h'
      cases h' with
      | nil => cases hs
      | char hclosed =>
          obtain ⟨rfl, rfl⟩ := List.cons.inj hs
          rw [List.cons_append, opens_braces] at hclosed
          cases hclosed
      | @span _ source' text' _ e' spans' hinterpolation' h' =>
          have hword : source ++ '\x7d' :: '\x7d' :: text = source' ++ '\x7d' :: '\x7d' :: text' :=
            (List.cons.inj (List.cons.inj hs).2).2
          have hline := congrArg (· ++ rest) hword
          simp only [List.append_assoc, List.cons_append] at hline
          rw [hline, hinterpolation'] at hinterpolation
          obtain ⟨rfl, hlength⟩ := Prod.mk.inj (Except.ok.inj hinterpolation)
          obtain ⟨rfl, htext⟩ := List.append_inj hword (Nat.add_right_cancel hlength).symm
          obtain ⟨-, rfl⟩ := List.cons.inj (List.cons.inj htext).2
          rw [ih h']

/-! ## The speaker of a line -/

theorem speakerIn_of_expressionSpeaker? {number : Nat} {found : Template × Nat}
    (h : expressionSpeaker? s = some found) : speakerIn number s = .ok found := by
  rw [speakerIn, h]

theorem speakerIn_of_textSpeaker? {number : Nat} {template : Template}
    (hnone : expressionSpeaker? s = none) (h : textSpeaker? s = .ok (some (text, n)))
    (hblank : ¬ ∀ a ∈ text, Text.isBlank a = true)
    (htemplate : Template.ofChars (Text.trim text) = .ok template) :
    speakerIn number s = .ok (template, n) := by
  have hempty : (Text.trim text).isEmpty = false :=
    List.isEmpty_eq_false_iff.mpr (mt Text.trim_eq_nil_iff.mp hblank)
  rw [speakerIn, hnone, h]
  change (if _ then _ else _) = _
  rw [hempty, if_neg Bool.false_ne_true, htemplate]
  rfl

theorem ofChars_of_blank_speaker {number : Nat} (hnone : expressionSpeaker? s = none)
    (h : textSpeaker? s = .ok (some (text, n))) (hblank : ∀ a ∈ text, Text.isBlank a = true) :
    ofChars number s = fault number 1 .emptySpeaker := by
  have hspeaker : speakerIn number s = fault number 1 .emptySpeaker := by
    rw [speakerIn, hnone, h]
    change (if _ then _ else _) = _
    rw [Text.trim_eq_nil_iff.mpr hblank]
    rfl
  rw [ofChars, hspeaker]
  rfl

theorem ofChars_of_no_separator {number : Nat} (hnone : expressionSpeaker? s = none)
    (h : textSpeaker? s = .ok none) :
    ofChars number s = fault number (s.length + 1) .missingSeparator := by
  have hspeaker : speakerIn number s = fault number (s.length + 1) .missingSeparator := by
    rw [speakerIn, hnone, h]
    rfl
  rw [ofChars, hspeaker]
  rfl

theorem ofChars_of_textSpeaker?_error {number : Nat} {error : ParseError}
    (hnone : expressionSpeaker? s = none) (h : textSpeaker? s = .error error) :
    ofChars number s = .error error := by
  have hspeaker : speakerIn number s = .error error := by
    rw [speakerIn, hnone, h]
    rfl
  rw [ofChars, hspeaker]
  rfl

/-- The two scans of a speaker that is text agree.  Where the first one finds the separator, it
stands in front of the offset that is found, every colon before it is inside of an interpolation
that was passed over, and the trimmed speaker is a template with the expressions of these
interpolations in order.  So the speaker is only wrong if it is blank.  A line without a speaker of
either kind is wrong at its first malformed interpolation, or for the missing separator. -/
theorem text_speaker_scans_agree (number : Nat) (s : List Char) :
    (∀ text offset, textSpeaker? s = .ok (some (text, offset)) →
      ∃ rest spans template, s = text ++ ':' :: rest ∧ offset = text.length + 1 ∧
        s[offset - 1]? = some ':' ∧
        Passes 0 text (':' :: rest) spans ∧
        (∀ spans', Passes 0 text (':' :: rest) spans' → spans' = spans) ∧
        (∀ i, text[i]? = some ':' → ∃ span ∈ spans, span.start ≤ i ∧ i < span.stop) ∧
        Template.ofChars (Text.trim text) = .ok template ∧
        expressions template = spans.map Span.expr ∧
        (∀ found, expressionSpeaker? s = some found → speakerIn number s = .ok found) ∧
        (expressionSpeaker? s = none → ¬ (∀ a ∈ text, Text.isBlank a = true) →
          speakerIn number s = .ok (template, offset)) ∧
        (expressionSpeaker? s = none → (∀ a ∈ text, Text.isBlank a = true) →
          ofChars number s = fault number 1 .emptySpeaker)) ∧
    (expressionSpeaker? s = none → (∀ found, textSpeaker? s ≠ .ok (some found)) →
      (∃ text rest spans error, s = text ++ '\x7b' :: '\x7b' :: rest ∧
        Passes 0 text ('\x7b' :: '\x7b' :: rest) spans ∧ interpolation rest = .error error ∧
        ofChars number s = .error error) ∨
      (∃ spans, Passes 0 s [] spans) ∧
        ofChars number s = fault number (s.length + 1) .missingSeparator) := by
  constructor
  · intro text offset h
    obtain ⟨rest, spans, hsplit, hoffset, hpasses⟩ := exists_of_textSpeaker? h
    obtain ⟨template, htemplate, hexpressions⟩ := hpasses.exists_ofChars_trim
    refine ⟨rest, spans, template, hsplit, hoffset, ?_, hpasses, fun _ => hpasses.unique, ?_,
      htemplate, hexpressions, fun _ => speakerIn_of_expressionSpeaker?, ?_, ?_⟩
    · rw [hsplit, hoffset, Nat.add_sub_cancel]
      simp
    · intro i hi
      obtain ⟨span, hspan, hstart, hstop⟩ := hpasses.exists_span hi
      rw [Nat.zero_add] at hstart hstop
      exact ⟨span, hspan, hstart, hstop⟩
    · exact fun hnone hblank => speakerIn_of_textSpeaker? hnone h hblank htemplate
    · exact fun hnone hblank => ofChars_of_blank_speaker hnone h hblank
  · intro hnone hmissing
    cases h : textSpeaker? s with
    | error error =>
        obtain ⟨text, rest, spans, hsplit, hpasses, herror⟩ := exists_of_textSpeaker?_error h
        exact .inl ⟨text, rest, spans, error, hsplit, hpasses, herror,
          ofChars_of_textSpeaker?_error hnone h⟩
    | ok found =>
        cases found with
        | none => exact .inr ⟨exists_of_textSpeaker?_none h, ofChars_of_no_separator hnone h⟩
        | some found => exact absurd h (hmissing found)

/-- A colon inside of an interpolation in front of the separator, a blank speaker, and an
interpolation that is malformed where no separator stands. -/
theorem text_speaker_scans_agree_title :
    (∃ (spans : List Span) (template : Template),
        Passes 0 "Dr \x7b\x7b 'x:y' \x7d\x7d ".toList ": hi".toList spans ∧
        Template.ofChars (Text.trim "Dr \x7b\x7b 'x:y' \x7d\x7d ".toList) = .ok template ∧
        expressions template = spans.map Span.expr ∧
        (∃ span ∈ spans, span.start ≤ 8 ∧ 8 < span.stop) ∧
        speakerIn 1 "Dr \x7b\x7b 'x:y' \x7d\x7d : hi".toList = .ok (template, 16)) ∧
      ofChars 1 " : hi".toList = fault 1 1 .emptySpeaker ∧
      ∃ text rest spans error, "to \x7b\x7b \x7d\x7d be".toList = text ++ '\x7b' :: '\x7b' :: rest ∧
        Passes 0 text ('\x7b' :: '\x7b' :: rest) spans ∧ interpolation rest = .error error ∧
        ofChars 1 "to \x7b\x7b \x7d\x7d be".toList = .error error := by
  refine ⟨?_, ?_, ?_⟩
  · have htext : textSpeaker? "Dr \x7b\x7b 'x:y' \x7d\x7d : hi".toList =
        .ok (some ("Dr \x7b\x7b 'x:y' \x7d\x7d ".toList, 16)) := by decide +kernel
    have hnone : expressionSpeaker? "Dr \x7b\x7b 'x:y' \x7d\x7d : hi".toList = none :=
      Option.isNone_iff_eq_none.mp (by decide +kernel)
    obtain ⟨rest, spans, template, hsplit, -, -, hpasses, -, hcolon, htemplate, hexpressions, -,
      hspeaker, -⟩ := (text_speaker_scans_agree 1 _).1 _ _ htext
    have hrest : ": hi".toList = ':' :: rest := congrArg (List.drop 15) hsplit
    rw [← hrest] at hpasses
    exact ⟨spans, template, hpasses, htemplate, hexpressions, hcolon 8 (by decide),
      hspeaker hnone (mt List.all_eq_true.mpr Bool.false_ne_true)⟩
  · have htext : textSpeaker? " : hi".toList = .ok (some ([' '], 2)) := by decide +kernel
    have hnone : expressionSpeaker? " : hi".toList = none :=
      Option.isNone_iff_eq_none.mp (by decide +kernel)
    obtain ⟨rest, spans, template, -, -, -, -, -, -, -, -, -, -, hempty⟩ :=
      (text_speaker_scans_agree 1 _).1 _ _ htext
    exact hempty hnone (List.all_eq_true.mp rfl)
  · have htext : (textSpeaker? "to \x7b\x7b \x7d\x7d be".toList).isOk = false := by decide +kernel
    have hnone : expressionSpeaker? "to \x7b\x7b \x7d\x7d be".toList = none :=
      Option.isNone_iff_eq_none.mp (by decide +kernel)
    have hseparator : (ofChars 1 "to \x7b\x7b \x7d\x7d be".toList).map (fun _ => ()) ≠
        fault 1 12 .missingSeparator := by decide +kernel
    have hrejected := (text_speaker_scans_agree 1 _).2 hnone fun found hfound => by
      rw [hfound] at htext
      cases htext
    refine hrejected.resolve_right fun hmissing => hseparator ?_
    rw [hmissing.2]
    rfl

end Line
end Guest
