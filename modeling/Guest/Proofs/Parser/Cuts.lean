import Guest.Proofs.Parser.Places
import Guest.Proofs.Token.Writing

/-!
# The words a parser consumes

What a parser consumes is a text that is cut into words, and the words depend on what follows them
by one character only.  So the same text is read in the same way at the end of a source and in front
of a closing brace, and what a parser has read can be taken out of its source.
-/

namespace Guest

namespace Lexeme

variable {d : Dialect} {s x gap w more tail tail' : List Char} {t : Token} {ts : List Token}

/-- In front of `tail`, a text is cut into words that are read as these tokens, with blanks before
each of them. -/
inductive Cut (d : Dialect) : List Char → List Token → List Char → Prop where
  | nil (tail : List Char) :
      Cut d [] [] tail
  | cons {x gap w more tail : List Char} {t : Token} {ts : List Token} :
      Front d (x ++ tail) gap w (more ++ tail) t → t ≠ .endOfText → Cut d more ts tail →
      Cut d x (t :: ts) tail

theorem Front.split_of_append (h : Front d (x ++ tail) gap w (more ++ tail) t) :
    x = gap ++ (w ++ more) := by
  have hsplit := h.split
  rw [← List.append_assoc w, ← List.append_assoc] at hsplit
  exact List.append_cancel_right hsplit

theorem Cut.ne_nil (h : Cut d x (t :: ts) tail) : x ≠ [] := by
  cases h with
  | cons hfront ht =>
      rw [hfront.split_of_append]
      exact List.append_ne_nil_of_right_ne_nil _
        (List.append_ne_nil_of_left_ne_nil (hfront.ne_nil ht) _)

/-- A text is cut in the same way in front of other texts that start with the same character or with
one that may follow the last token. -/
theorem Cut.congr_of_mayFollow (h : Cut d x ts tail)
    (htail : ∀ t ∈ ts.getLast?, Starts (fun c => c ∈ tail.head? ∨ MayFollow d t c) tail') :
    Cut d x ts tail' := by
  induction h with
  | nil => exact .nil tail'
  | @cons x gap w more tail t ts hfront ht hcut ih =>
      have hw := hfront.ne_nil ht
      have hmore :
          Starts (fun c => c ∈ (more ++ tail).head? ∨ MayFollow d t c) (more ++ tail') := by
        cases more with
        | cons c more => exact starts_cons.mpr (.inl rfl)
        | nil =>
            cases ts with
            | nil => exact htail t rfl
            | cons => exact absurd rfl hcut.ne_nil
      have hvisible : Visible (w ++ (more ++ tail')) := by
        cases w with
        | nil => exact absurd rfl hw
        | cons c rest => exact starts_cons.mpr (starts_cons.mp hfront.visible)
      have hsplit : x ++ tail' = gap ++ (w ++ (more ++ tail')) := by
        rw [hfront.split_of_append, List.append_assoc, List.append_assoc]
      refine .cons ⟨hsplit, hfront.blank, hvisible,
        scan_congr_of_mayFollow hfront.scan hw hmore⟩ ht (ih fun t' ht' => htail t' ?_)
      rw [List.getLast?_cons, Option.mem_def.mp ht']
      rfl

/-- A text is cut in the same way in front of other texts that start with the same character or with
a neutral one. -/
theorem Cut.congr (h : Cut d x ts tail)
    (htail : Starts (fun c => c ∈ tail.head? ∨ Neutral c) tail') : Cut d x ts tail' :=
  h.congr_of_mayFollow fun _ _ c hc => (htail c hc).imp_right mayFollow_of_neutral

/-- A text consists of words if it is cut into them in front of blanks at its end. -/
theorem words_iff_cut :
    Words d s ts ↔ ∃ x gap, s = x ++ gap ∧ (∀ a ∈ gap, Text.isBlank a = true) ∧ Cut d x ts gap := by
  constructor
  · intro h
    induction h with
    | @nil s hblank => exact ⟨[], s, rfl, hblank, .nil s⟩
    | @cons s gap w rest t ts hfront ht _ ih =>
        obtain ⟨x, gap', rfl, hblank, hcut⟩ := ih
        have hsplit : s = gap ++ (w ++ x) ++ gap' := by
          rw [hfront.split, List.append_assoc, List.append_assoc]
        rw [hsplit] at hfront
        exact ⟨gap ++ (w ++ x), gap', hsplit, hblank, .cons hfront ht hcut⟩
  · rintro ⟨x, gap, rfl, hgap, h⟩
    induction h with
    | nil => exact .nil hgap
    | cons hfront ht _ ih => exact .cons hfront ht (ih hgap)

theorem Cut.ready (h : Cut d x ts tail) (htail : Ready d tail) : Ready d (x ++ tail) := by
  cases h with
  | nil => exact htail
  | cons hfront => exact ⟨_, _, _, _, hfront⟩

end Lexeme

namespace Parser

open Lexeme Parse

variable {d : Dialect} {p q : Parser} {before after x gap w rest tail source : List Char}
  {t : Token} {ts : List Token}

/-- A parser moves on only if the lexer can read what follows its next token. -/
theorem Faces.ready_of_advance (hp : Faces d before after p) (h : Gives advance p () q) :
    Ready d p.lexer.rest := by
  obtain ⟨spanned, moved, hnext, -⟩ := gives_advance.mp h
  rcases front_or_fault p.lexer.dialect p.lexer.rest with
    hfront | ⟨gap, c, rest, fault, hsplit, hgap, hc, hscan⟩
  · rw [hp.dialect] at hfront
    exact hfront
  · have herror := Lexer.next_of_fault hsplit hgap hc hscan
    rw [hnext] at herror
    cases herror

theorem FacesFront.of_advance (hp : FacesFront d before after p) (h : Gives advance p () q) :
    ∃ taken, after = taken ++ p.lexer.rest ∧ FacesFront d (before ++ taken) p.lexer.rest q := by
  obtain ⟨taken, q', htaken, hadvance, hq⟩ := hp.toFaces.exists_advance (hp.ready_of_advance h)
  obtain ⟨-, rfl⟩ := h.eq_of_gives hadvance
  exact ⟨taken, htaken, hq⟩

/-- A parser at the start of a source faces all of it. -/
theorem facesFront_of_ofLexer (h : ofLexer (.ofChars d source) = .ok p) :
    FacesFront d [] source p := by
  obtain ⟨spanned, moved, hnext, -⟩ := ofLexer_eq_ok.mp h
  rcases front_or_fault d source with hfront | ⟨gap, c, rest, fault, hsplit, hgap, hc, hscan⟩
  · obtain ⟨p', hofLexer, hp⟩ := exists_faces_of_ready hfront
    rw [h] at hofLexer
    cases hofLexer
    exact hp
  · have hfault : (Lexer.ofChars d source).next.1 = _ := Lexer.next_of_fault hsplit hgap hc hscan
    rw [hnext] at hfault
    cases hfault

/-- The next token of a parser and what follows it are those of the front of what it faces. -/
theorem FacesFront.current_eq (hp : FacesFront d before after p) (h : Front d after gap w rest t) :
    p.current.token = t ∧ p.lexer.rest = rest := by
  obtain ⟨gap', w', hfront⟩ := hp.front
  obtain ⟨-, hrest, htoken⟩ := hfront.unique h
  exact ⟨htoken, hrest⟩

/-- A parser reads the words of what it faces. -/
theorem FacesFront.exists_reads (hp : FacesFront d before (x ++ tail) p) (h : Cut d x ts tail)
    (htail : Ready d tail) : ∃ q, Reads p ts q ∧ FacesFront d (before ++ x) tail q := by
  induction h generalizing p before with
  | nil tail =>
      rw [← List.append_nil before] at hp
      exact ⟨p, .nil p, hp⟩
  | @cons x gap w more tail t ts hfront ht hmore ih =>
      obtain ⟨htoken, hrest⟩ := hp.current_eq hfront
      have hready : Ready d p.lexer.rest := by
        rw [hrest]
        exact hmore.ready htail
      obtain ⟨taken, q, htaken, hadvance, hq⟩ := hp.toFaces.exists_advance hready
      rw [hrest] at htaken hq
      obtain ⟨r, hreads, hr⟩ := ih hq htail
      rw [← List.append_assoc] at htaken
      rw [List.append_assoc, ← List.append_cancel_right htaken] at hr
      exact ⟨r, reads_cons.mpr ⟨htoken, q, hadvance, hreads⟩, hr⟩

/-- What a parser reads are the words of a part of what it faces. -/
theorem FacesFront.exists_cut (hp : FacesFront d before after p) (h : Reads p ts q)
    (hts : Endless ts) :
    ∃ x tail, after = x ++ tail ∧ Cut d x ts tail ∧ FacesFront d (before ++ x) tail q := by
  induction h generalizing before after with
  | nil p =>
      rw [← List.append_nil before] at hp
      exact ⟨[], after, rfl, .nil after, hp⟩
  | @cons p q r ts hadvance _ ih =>
      simp only [Endless, List.mem_cons, not_or] at hts
      obtain ⟨taken, htaken, hq⟩ := hp.of_advance hadvance
      obtain ⟨gap, w, hfront⟩ := hp.front
      obtain ⟨x, tail, hrest, hcut, hr⟩ := ih hq hts.2
      rw [hrest, ← List.append_assoc] at htaken
      rw [hrest, htaken] at hfront
      rw [List.append_assoc] at hr
      exact ⟨taken ++ x, tail, htaken, .cons hfront (Ne.symm hts.1) hcut, hr⟩

end Parser
end Guest
