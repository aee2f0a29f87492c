import Guest.Proofs.Expr.Exactness
import Guest.Proofs.Token.Fronts

/-!
# Places in a source text

A parser stands between two parts of its source: what it has consumed, and what it faces.  Its next
token is the first one of what it faces, or the rest of a longer sign from which a closing angle
bracket has been taken.  The positions of the token are offsets in the source, so they follow from
the lengths of the parts.
-/

namespace Guest

namespace Lexeme

variable {d : Dialect} {s gap gap' w w' rest rest' tail : List Char} {t t' : Token}
  {ts : List Token}

/-! ## What a text starts with -/

/-- The lexer does not fail in front of a text. -/
def Ready (d : Dialect) (s : List Char) : Prop := ∃ gap w rest t, Front d s gap w rest t

theorem ready_nil : Ready d [] :=
  ⟨[], [], [], .endOfText, rfl, List.forall_mem_nil _, starts_nil, rfl⟩

theorem ready_of_lexes (h : Lexes d s (t :: ts) tail) : Ready d s := by
  cases h with
  | cons hfront => exact ⟨_, _, _, _, hfront⟩

theorem Lexes.ready (h : Lexes d s ts tail) (htail : Ready d tail) : Ready d s := by
  cases h with
  | nil => exact htail
  | cons hfront => exact ⟨_, _, _, _, hfront⟩

/-! ## Signs -/

theorem sign?_head {sign : Sign} {n : Nat} (h : sign? d s = some (sign, n)) :
    s.head? = sign.text.toList.head? := by
  unfold sign? at h
  split at h
  all_goals try split at h
  all_goals first
    | exact absurd h (Option.some_ne_none _).symm
    | next =>
        cases h
        rfl

theorem wordToken_ne_sign {word : String} {sign : Sign} : wordToken d word ≠ .sign sign := by
  unfold wordToken
  repeat' split
  all_goals simp

/-- A text in front of which a sign is read starts with the first character of the sign. -/
theorem head_of_scan {sign : Sign} (h : (scan d s).outcome = .ok (.sign sign)) :
    s.head? = sign.text.toList.head? := by
  cases s with
  | nil => cases h
  | cons c rest =>
      rw [scan] at h
      split at h
      · obtain ⟨x, hx⟩ := number_numeric _ h
        cases hx
      split at h
      · next hsign =>
          cases h
          exact sign?_head hsign
      split at h
      · unfold quotedText at h
        split at h
        · cases h
        · cases h
      split at h
      · unfold word at h
        split at h
        · cases h
        · exact absurd (Except.ok.inj h) wordToken_ne_sign
      · cases h

/-! ## Closing angle brackets -/

theorem not_isPlain_of_scan {n : Nat} (h : scan d ('>' :: rest) = ⟨n, .ok t⟩) : ¬IsPlain t := by
  have hnumber : startsNumber ('>' :: rest) = false := rfl
  have houtcome := congrArg Lexeme.outcome h
  rw [scan, hnumber] at houtcome
  unfold sign? at houtcome
  unfold IsPlain
  grind

/-- A closing angle bracket before no equals sign is read with up to two more of its kind. -/
theorem scan_angle (h : Starts (· ≠ '=') rest) :
    (∃ more, rest = '>' :: '>' :: more ∧
      scan d ('>' :: rest) = ⟨3, .ok (.sign .shiftRightZero)⟩) ∨
    (∃ more, rest = '>' :: more ∧ scan d ('>' :: rest) = ⟨2, .ok (.sign .shiftRight)⟩) ∨
    scan d ('>' :: rest) = ⟨1, .ok (.sign .greater)⟩ := by
  have hscan {sign : Sign} {n : Nat} (hsign : sign? d ('>' :: rest) = some (sign, n)) :
      scan d ('>' :: rest) = ⟨n, .ok (.sign sign)⟩ := by
    have hnumber : startsNumber ('>' :: rest) = false := rfl
    rw [scan, hnumber, hsign]
    rfl
  rcases rest with _ | ⟨c, more⟩
  · exact .inr (.inr rfl)
  · by_cases hc : c = '>'
    · subst hc
      rcases more with _ | ⟨c, more⟩
      · exact .inr (.inl ⟨[], rfl, rfl⟩)
      · by_cases hc : c = '>'
        · subst hc
          exact .inl ⟨more, rfl, rfl⟩
        · exact .inr (.inl ⟨c :: more, rfl, hscan (by simp [sign?, hc])⟩)
    · have hequal : c ≠ '=' := h c rfl
      exact .inr (.inr (hscan (by simp [sign?, hc, hequal])))

theorem ready_angle (h : Starts (· ≠ '=') rest) : Ready d ('>' :: rest) := by
  have hvisible {more : List Char} : Visible ('>' :: more) := starts_cons.mpr rfl
  rcases scan_angle (d := d) h with ⟨more, rfl, hscan⟩ | ⟨more, rfl, hscan⟩ | hscan
  · exact ⟨[], ['>', '>', '>'], more, _, rfl, List.forall_mem_nil _, hvisible, hscan⟩
  · exact ⟨[], ['>', '>'], more, _, rfl, List.forall_mem_nil _, hvisible, hscan⟩
  · exact ⟨[], ['>'], rest, _, rfl, List.forall_mem_nil _, hvisible, hscan⟩

/-- What a text starts with where a closing angle bracket may have been taken from the sign in
front of it. -/
inductive Shows (d : Dialect) : List Char → List Char → List Char → List Char → Token → Prop where
  | front {s gap w rest : List Char} {t : Token} :
      Front d s gap w rest t → Shows d s gap w rest t
  | greater (rest : List Char) :
      Shows d ('>' :: rest) [] ['>'] rest (.sign .greater)
  | shiftRight (rest : List Char) :
      Shows d ('>' :: '>' :: rest) [] ['>', '>'] rest (.sign .shiftRight)

theorem Shows.split (h : Shows d s gap w rest t) : s = gap ++ (w ++ rest) := by
  cases h with
  | front hfront => exact hfront.split
  | greater => rfl
  | shiftRight => rfl

/-- A closing angle bracket is shown on its own or as the first of two or three. -/
theorem Shows.angle (h : Shows d ('>' :: tail) gap w rest t) (htail : Starts (· ≠ '=') tail) :
    gap = [] ∧ (w = ['>'] ∧ t = .sign .greater ∧ tail = rest ∨
      w = ['>', '>'] ∧ t = .sign .shiftRight ∧ tail = '>' :: rest ∨
      w = ['>', '>', '>'] ∧ t = .sign .shiftRightZero ∧ tail = '>' :: '>' :: rest) := by
  cases h with
  | front hfront =>
      have hgap : [] = gap := hfront.takeWhile_eq
      have hword : '>' :: tail = w ++ rest := hfront.dropWhile_eq
      have hscan := hfront.scan
      have heq (w' : List Char) {rest' : List Char} {t' : Token}
          (hsplit : '>' :: tail = w' ++ rest')
          (hscan' : Lexeme.scan d ('>' :: tail) = ⟨w'.length, .ok t'⟩) :
          w = w' ∧ t = t' ∧ rest = rest' := by
        rw [← hword, hscan'] at hscan
        obtain ⟨hlength, htoken⟩ := Lexeme.mk.inj hscan
        obtain ⟨hw, hrest⟩ := List.append_inj (hword.symm.trans hsplit) hlength.symm
        exact ⟨hw, (Except.ok.inj htoken).symm, hrest⟩
      refine ⟨hgap.symm, ?_⟩
      rcases scan_angle (d := d) htail with ⟨more, rfl, hscan'⟩ | ⟨more, rfl, hscan'⟩ | hscan'
      · obtain ⟨hw, ht, rfl⟩ := heq ['>', '>', '>'] rfl hscan'
        exact .inr (.inr ⟨hw, ht, rfl⟩)
      · obtain ⟨hw, ht, rfl⟩ := heq ['>', '>'] rfl hscan'
        exact .inr (.inl ⟨hw, ht, rfl⟩)
      · obtain ⟨hw, ht, rfl⟩ := heq ['>'] rfl hscan'
        exact .inl ⟨hw, ht, rfl⟩
  | greater => exact ⟨rfl, .inl ⟨rfl, rfl, rfl⟩⟩
  | shiftRight => exact ⟨rfl, .inr (.inl ⟨rfl, rfl, rfl⟩)⟩

/-- What shows a sign starts with the first character of it, past blanks. -/
theorem Shows.head {sign : Sign} (h : Shows d s gap w rest (.sign sign)) :
    (s.dropWhile Text.isBlank).head? = sign.text.toList.head? := by
  cases h with
  | front hfront =>
      have houtcome := congrArg Lexeme.outcome hfront.scan
      rw [hfront.dropWhile_eq]
      exact head_of_scan houtcome
  | greater => rfl
  | shiftRight => rfl

/-- Where a plain token comes first, what a text shows is read by the lexer. -/
theorem Shows.unique (h : Shows d s gap w rest t) (h' : Front d s gap' w' rest' t')
    (ht' : IsPlain t') : gap = gap' ∧ rest = rest' ∧ t = t' := by
  have hangle {more : List Char} (h' : Front d ('>' :: more) gap' w' rest' t') : ¬IsPlain t' := by
    have hscan := h'.scan
    rw [← h'.dropWhile_eq] at hscan
    exact not_isPlain_of_scan hscan
  cases h with
  | front hfront => exact hfront.unique h'
  | greater => exact absurd ht' (hangle h')
  | shiftRight => exact absurd ht' (hangle h')

end Lexeme

open Lexeme

namespace Lexer

variable {lexer : Lexer} {gap w rest : List Char} {t : Token}

theorem exists_next_of_front (h : Front lexer.dialect lexer.rest gap w rest t) :
    ∃ spanned moved, lexer.next = (.ok spanned, moved) ∧ spanned.token = t ∧
      spanned.start.offset = lexer.position.offset + gap.length ∧
      spanned.stop.offset = spanned.start.offset + w.length ∧
      moved = { lexer with rest := rest, position := spanned.stop } :=
  ⟨_, _, next_of_front h, rfl, Position.offset_advance _ _, Position.offset_advance _ _, rfl⟩

end Lexer

namespace Parser

open Parse

variable {d : Dialect} {p q : Parser} {before after gap w rest tail : List Char} {t : Token}
  {ts : List Token}

/-- The parser stands between two parts of its source. -/
structure Faces (d : Dialect) (before after : List Char) (p : Parser) : Prop where
  dialect : p.lexer.dialect = d
  source : p.lexer.source = before ++ after
  consumed : p.consumed = before.length
  position : p.lexer.position.offset = p.current.stop.offset
  current : ∃ gap w, Shows d after gap w p.lexer.rest p.current.token ∧
    p.current.start.offset = before.length + gap.length ∧
    p.current.stop.offset = p.current.start.offset + w.length

/-- The next token of a parser is the first one of what it faces. -/
structure FacesFront (d : Dialect) (before after : List Char) (p : Parser) : Prop
    extends Faces d before after p where
  front : ∃ gap w, Front d after gap w p.lexer.rest p.current.token

/-- A parser moves on if the lexer can read what follows its next token. -/
theorem Faces.exists_advance (hp : Faces d before after p) (hrest : Ready d p.lexer.rest) :
    ∃ taken q, after = taken ++ p.lexer.rest ∧ Gives advance p () q ∧
      FacesFront d (before ++ taken) p.lexer.rest q := by
  obtain ⟨gap, w, hshows, hstart, hstop⟩ := hp.current
  obtain ⟨gap', w', rest', t', hfront⟩ := hrest
  have hfront' := hfront
  rw [← hp.dialect] at hfront'
  obtain ⟨spanned, moved, hnext, htoken, hstart', hstop', hmoved⟩ :=
    Lexer.exists_next_of_front hfront'
  have htaken : after = gap ++ w ++ p.lexer.rest := by
    rw [List.append_assoc]
    exact hshows.split
  have hconsumed : p.current.stop.offset = (before ++ (gap ++ w)).length := by
    rw [hstop, hstart, List.length_append, List.length_append]
    omega
  refine ⟨gap ++ w, _, htaken, gives_advance.mpr ⟨spanned, moved, hnext, rfl⟩, ?_⟩
  subst hmoved htoken
  refine ⟨⟨hp.dialect, ?_, hconsumed, rfl, gap', w', .front hfront, ?_, hstop'⟩, gap', w', hfront⟩
  · rw [hp.source, List.append_assoc, ← htaken]
  · rw [hstart', hp.position, hconsumed]

/-- A parser that faces a token of its own reads it. -/
theorem Faces.exists_read (hp : Faces d before after p) (hfront : Front d after gap w rest t)
    (ht : IsPlain t) (hrest : Ready d rest) :
    p.current.start.offset = before.length + gap.length ∧
      ∃ taken q, after = taken ++ rest ∧ Reads p [t] q ∧ Faces d (before ++ taken) rest q := by
  obtain ⟨gap', w', hshows, hstart, -⟩ := hp.current
  obtain ⟨rfl, hlexer, htoken⟩ := hshows.unique hfront ht
  rw [← hlexer] at hrest
  obtain ⟨taken, q, htaken, hadvance, hq⟩ := hp.exists_advance hrest
  rw [hlexer] at htaken hq
  exact ⟨hstart, taken, q, htaken, reads_singleton.mpr ⟨htoken, hadvance⟩, hq.toFaces⟩

/-- A parser reads the tokens that the lexer reads off what it faces. -/
theorem Faces.exists_reads (hp : Faces d before after p) (hts : Lexes d after ts tail)
    (htail : Ready d tail) :
    ∃ taken q, after = taken ++ tail ∧ Reads p ts q ∧ Faces d (before ++ taken) tail q := by
  induction hts generalizing p before with
  | nil rest =>
      rw [← List.append_nil before] at hp
      exact ⟨[], p, rfl, .nil p, hp⟩
  | cons hfront ht hmore ih =>
      obtain ⟨-, taken, q, rfl, hread, hq⟩ := hp.exists_read hfront ht (hmore.ready htail)
      obtain ⟨taken', r, rfl, hreads, hr⟩ := ih hq htail
      rw [List.append_assoc] at hr
      exact ⟨taken ++ taken', r, (List.append_assoc ..).symm, hread.trans hreads, hr⟩

theorem Faces.exists_reads_append {s : List Char} (hp : Faces d before (s ++ tail) p)
    (hts : Lexes d (s ++ tail) ts tail) (htail : Ready d tail) :
    ∃ q, Reads p ts q ∧ Faces d (before ++ s) tail q := by
  obtain ⟨taken, q, htaken, hreads, hq⟩ := hp.exists_reads hts htail
  rw [← List.append_cancel_right htaken] at hq
  exact ⟨q, hreads, hq⟩

theorem Faces.exists_accept {s : List Char} {sign : Sign} (hp : Faces d before (s ++ tail) p)
    (hsign : Lexes d (s ++ tail) [.sign sign] tail) (htail : Ready d tail) :
    ∃ q, Gives (accept sign) p true q ∧ Faces d (before ++ s) tail q := by
  obtain ⟨q, hreads, hq⟩ := hp.exists_reads_append hsign htail
  exact ⟨q, gives_accept_true hreads, hq⟩

/-- A sign is not accepted where the text does not start with its first character. -/
theorem Faces.gives_accept_false {sign : Sign} (hp : Faces d before after p)
    (h : (after.dropWhile Text.isBlank).head? ≠ sign.text.toList.head?) :
    Gives (accept sign) p false p := by
  apply Parse.gives_accept_false
  intro htoken
  obtain ⟨gap, w, hshows, -⟩ := hp.current
  rw [htoken] at hshows
  exact h hshows.head

theorem exists_faces_of_ready {source : List Char} (h : Ready d source) :
    ∃ p, ofLexer (.ofChars d source) = .ok p ∧ FacesFront d [] source p := by
  obtain ⟨gap, w, rest, t, hfront⟩ := h
  have hfront' :
      Front (Lexer.ofChars d source).dialect (Lexer.ofChars d source).rest gap w rest t :=
    hfront
  obtain ⟨spanned, moved, hnext, htoken, hstart, hstop, hmoved⟩ :=
    Lexer.exists_next_of_front hfront'
  refine ⟨_, ofLexer_eq_ok.mpr ⟨spanned, moved, hnext, rfl⟩, ?_⟩
  subst hmoved htoken
  exact ⟨⟨rfl, rfl, rfl, rfl, gap, w, .front hfront, hstart, hstop⟩, gap, w, hfront⟩

/-- A parser that faces nothing is at the end of the text. -/
theorem Faces.token_eq_endOfText (hp : Faces d before [] p) :
    p.current.token = .endOfText := by
  obtain ⟨gap, w, hshows, -⟩ := hp.current
  cases hshows with
  | front hfront =>
      have hscan := hfront.scan
      rw [← hfront.dropWhile_eq] at hscan
      exact (Except.ok.inj (congrArg Lexeme.outcome hscan)).symm

/-- At the end of the text the end can be consumed. -/
theorem Faces.exists_end (hp : Faces d before [] p) : ∃ q, Reads p [.endOfText] q := by
  have hend := hp.token_eq_endOfText
  obtain ⟨gap, w, hshows, -⟩ := hp.current
  have hrest : p.lexer.rest = [] := by
    have hsplit := hshows.split.symm
    simp only [List.append_eq_nil_iff] at hsplit
    exact hsplit.2.2
  exact reads_endOfText (fun _ => hrest) hend

theorem endless_of_lexes {s : List Char} (h : Lexes d s ts tail) : Endless ts := by
  induction h with
  | nil rest => exact List.not_mem_nil
  | cons _ ht _ ih =>
      refine List.not_mem_cons_of_ne_of_not_mem ?_ ih
      rintro rfl
      exact ht List.mem_cons_self

/-- The lexer yields the tokens that it reads off a text to its end. -/
theorem yields_of_lexes {source : List Char} (h : Lexes d source ts []) :
    (Lexer.ofChars d source).Yields ts := by
  obtain ⟨p, hofLexer, hp⟩ := exists_faces_of_ready (h.ready ready_nil)
  obtain ⟨taken, q, -, hreads, hq⟩ := hp.toFaces.exists_reads h ready_nil
  exact (yields_iff (endless_of_lexes h)).mpr ⟨p, q, hofLexer, hreads, hq.token_eq_endOfText⟩

end Parser
end Guest
