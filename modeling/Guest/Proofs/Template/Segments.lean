import Guest.Proofs.Expr.RoundTrip
import Guest.Proofs.Template.Interpolation

/-!
# Templates are written and read back

A template is written as pieces: texts as they stand, and sources of expressions between braces.
Pieces are proper if the text tells where they begin and end.  What is read from a text is what its
proper pieces denote, and every text that is read consists of proper pieces.
-/

namespace Guest
namespace Template

/-- A part of a written template. -/
inductive Piece where
  | text (text : String)
  /-- The source of an expression. -/
  | expr (source : String)

/-- No two opening braces stand next to each other. -/
def Closed (s : List Char) : Prop := ¬['\x7b', '\x7b'] <:+: s

instance : DecidablePred Closed := fun _ => inferInstanceAs (Decidable (¬_))

/-- Pieces that can be told apart: a text is not empty and opens no expression, no text follows
another one, and no brace stands in front of an expression. -/
inductive Proper : List Piece → Prop where
  | nil :
      Proper []
  | expr {source : String} {pieces : List Piece} :
      Proper pieces → Proper (.expr source :: pieces)
  | last {text : String} :
      text ≠ "" → Closed text.toList → Proper [.text text]
  | text {text source : String} {pieces : List Piece} :
      text ≠ "" → Closed text.toList → text.toList.getLast? ≠ some '\x7b' →
      Proper (.expr source :: pieces) → Proper (.text text :: .expr source :: pieces)

/-- The characters of a piece. -/
def Piece.chars : Piece → List Char
  | .text content => content.toList
  | .expr source => '\x7b' :: '\x7b' :: (source.toList ++ ['\x7d', '\x7d'])

/-- The text of pieces one after the other. -/
def written (pieces : List Piece) : List Char := pieces.flatMap Piece.chars

theorem written_cons {piece : Piece} {pieces : List Piece} :
    written (piece :: pieces) = piece.chars ++ written pieces :=
  List.flatMap_cons

/-- A piece stands for a segment. -/
inductive Denotes : Piece → Segment → Prop where
  | text (text : String) :
      Denotes (.text text) (.text text)
  | expr {source : String} {e : Expr} :
      Expr.parse .extended source = .ok e → Denotes (.expr source) (.expr e)

variable {s w rest : List Char} {c : Char} {pieces : List Piece} {segments template : List Segment}
  {text : List Char} {e : Expr} {n : Nat}

/-! ## Reading pieces back -/

theorem segmentsFrom_append : segmentsFrom w.length (w ++ rest) = segmentsFrom 0 rest := by
  induction w with
  | nil => rfl
  | cons c w ih => exact ih

theorem opens_iff : opens c rest = true ↔ ∃ more, c :: rest = '\x7b' :: '\x7b' :: more := by
  unfold opens
  rw [Bool.and_eq_true, beq_iff_eq, beq_iff_eq, List.head?_eq_some_iff]
  constructor
  · rintro ⟨rfl, more, rfl⟩
    exact ⟨more, rfl⟩
  · rintro ⟨more, h⟩
    cases h
    exact ⟨rfl, more, rfl⟩

theorem opens_braces (s : List Char) : opens '\x7b' ('\x7b' :: s) = true :=
  opens_iff.2 ⟨s, rfl⟩

/-- A character that opens nothing belongs to the text in front of the first expression. -/
theorem segmentsFrom_cons (hc : opens c rest = false)
    (h : segmentsFrom 0 rest = .ok (text, segments)) :
    segmentsFrom 0 (c :: rest) = .ok (c :: text, segments) := by
  rw [segmentsFrom, hc, h]
  rfl

theorem segmentsFrom_closed (hw : Closed w)
    (hrest : rest.head? = some '\x7b' → w.getLast? ≠ some '\x7b')
    (h : segmentsFrom 0 rest = .ok (text, segments)) :
    segmentsFrom 0 (w ++ rest) = .ok (w ++ text, segments) := by
  induction w with
  | nil => exact h
  | cons c w ih =>
      have hopens : opens c (w ++ rest) = false := by
        by_contra hopens
        obtain ⟨more, hmore⟩ := opens_iff.mp (Bool.of_not_eq_false hopens)
        cases w with
        | nil =>
            obtain ⟨rfl, rfl⟩ := List.cons.inj hmore
            exact hrest rfl rfl
        | cons a w =>
            obtain ⟨rfl, hmore'⟩ := List.cons.inj hmore
            obtain ⟨rfl, -⟩ := List.cons.inj hmore'
            exact hw ⟨[], w, rfl⟩
      have hclosed : Closed w := fun hinfix => hw (List.infix_cons hinfix)
      have hlast : rest.head? = some '\x7b' → w.getLast? ≠ some '\x7b' := by
        intro hhead hlast
        refine hrest hhead ?_
        rw [List.getLast?_cons, hlast]
        rfl
      exact segmentsFrom_cons hopens (ih hclosed hlast)

/-- Two braces open an expression. -/
theorem segmentsFrom_opens (hinterpolation : interpolation s = .ok (e, n))
    (h : segmentsFrom (n + 1) ('\x7b' :: s) = .ok (text, segments)) :
    segmentsFrom 0 ('\x7b' :: '\x7b' :: s) = .ok ([], .expr e :: withText text segments) := by
  rw [segmentsFrom, if_pos (opens_braces s), List.tail_cons, hinterpolation]
  change Except.bind (segmentsFrom (n + 1) ('\x7b' :: s)) _ = _
  rw [h]
  rfl

theorem segmentsFrom_expr {source : String} (hsource : Expr.parse .extended source = .ok e)
    (h : segmentsFrom 0 rest = .ok (text, segments)) :
    segmentsFrom 0 ((Piece.expr source).chars ++ rest) =
      .ok ([], .expr e :: withText text segments) := by
  have hinterpolation : interpolation (source.toList ++ '\x7d' :: '\x7d' :: rest) =
      .ok (e, source.toList.length + 2) := by
    apply interpolation_of_parse
    rwa [String.ofList_toList]
  have hskip : segmentsFrom (source.toList.length + 2 + 1)
      ('\x7b' :: (source.toList ++ '\x7d' :: '\x7d' :: rest)) = .ok (text, segments) := by
    rw [← h]
    have hword := @segmentsFrom_append ('\x7b' :: (source.toList ++ ['\x7d', '\x7d'])) rest
    simpa using hword
  have hchars : (Piece.expr source).chars ++ rest =
      '\x7b' :: '\x7b' :: (source.toList ++ '\x7d' :: '\x7d' :: rest) := by
    simp [Piece.chars]
  rw [hchars]
  exact segmentsFrom_opens hinterpolation hskip

/-! ## What is read -/

theorem exists_of_segmentsFrom_opens
    (h : segmentsFrom 0 ('\x7b' :: '\x7b' :: s) = .ok (text, segments)) :
    text = [] ∧ ∃ e n text' segments', interpolation s = .ok (e, n) ∧
      segmentsFrom (n + 1) ('\x7b' :: s) = .ok (text', segments') ∧
      segments = .expr e :: withText text' segments' := by
  have hopens : opens '\x7b' ('\x7b' :: s) = true := opens_iff.mpr ⟨s, rfl⟩
  rw [segmentsFrom, if_pos hopens, List.tail_cons] at h
  cases hinterpolation : interpolation s with
  | error error =>
      rw [hinterpolation] at h
      cases h
  | ok found =>
      obtain ⟨e, n⟩ := found
      rw [hinterpolation] at h
      change Except.bind (segmentsFrom (n + 1) ('\x7b' :: s)) _ = _ at h
      cases hmore : segmentsFrom (n + 1) ('\x7b' :: s) with
      | error error =>
          rw [hmore] at h
          cases h
      | ok found =>
          obtain ⟨text', segments'⟩ := found
          rw [hmore] at h
          cases h
          exact ⟨rfl, e, n, text', segments', rfl, hmore, rfl⟩

theorem exists_of_segmentsFrom_cons (hc : opens c rest = false)
    (h : segmentsFrom 0 (c :: rest) = .ok (text, segments)) :
    ∃ text', text = c :: text' ∧ segmentsFrom 0 rest = .ok (text', segments) := by
  rw [segmentsFrom, hc] at h
  change Except.bind (segmentsFrom 0 rest) _ = _ at h
  cases hmore : segmentsFrom 0 rest with
  | error error =>
      rw [hmore] at h
      cases h
  | ok found =>
      obtain ⟨text', segments'⟩ := found
      rw [hmore] at h
      cases h
      exact ⟨text', rfl, rfl⟩

theorem withText_toList {content : String} (h : content ≠ "") :
    withText content.toList segments = .text content :: segments := by
  have hchars : content.toList.isEmpty = false := by
    rw [List.isEmpty_eq_false_iff]
    exact fun hempty => h (String.toList_eq_nil_iff.mp hempty)
  rw [withText, hchars, String.ofList_toList]
  rfl

/-- Proper pieces are read as what they denote. -/
theorem exists_segmentsFrom_written (hpieces : Proper pieces)
    (hdenotes : List.Forall₂ Denotes pieces template) :
    ∃ text segments, segmentsFrom 0 (written pieces) = .ok (text, segments) ∧
      withText text segments = template := by
  induction hpieces generalizing template with
  | nil =>
      cases hdenotes
      exact ⟨[], [], rfl, rfl⟩
  | expr _ ih =>
      cases hdenotes with
      | cons hfirst hmore =>
          cases hfirst with
          | expr hsource =>
              obtain ⟨text, segments, h, rfl⟩ := ih hmore
              exact ⟨[], _, segmentsFrom_expr hsource h, rfl⟩
  | @last text hnonempty hclosed =>
      cases hdenotes with
      | cons hfirst hmore =>
          cases hfirst
          cases hmore
          have hend : segmentsFrom 0 [] = .ok ([], []) := rfl
          have h := segmentsFrom_closed hclosed (by simp) hend
          rw [List.append_nil] at h
          refine ⟨text.toList, [], ?_, withText_toList hnonempty⟩
          rw [written, List.flatMap_singleton]
          simpa [Piece.chars] using h
  | @text text source pieces hnonempty hclosed hlast _ ih =>
      cases hdenotes with
      | cons hfirst hmore =>
          cases hfirst
          obtain ⟨text', segments, h, rfl⟩ := ih hmore
          obtain ⟨rfl, -⟩ := exists_of_segmentsFrom_opens h
          have h' := segmentsFrom_closed hclosed (fun _ => hlast) h
          rw [List.append_nil] at h'
          exact ⟨text.toList, _, h', withText_toList hnonempty⟩

theorem parse_written (hpieces : Proper pieces) (hdenotes : List.Forall₂ Denotes pieces template) :
    parse (String.ofList (written pieces)) = .ok template := by
  obtain ⟨text, segments, h, rfl⟩ := exists_segmentsFrom_written hpieces hdenotes
  rw [parse, String.toList_ofList, ofChars, h]
  rfl

/-- Puts text before pieces; there is no empty text. -/
def withPiece (text : List Char) (pieces : List Piece) : List Piece :=
  if text.isEmpty then pieces else .text (String.ofList text) :: pieces

/-- A text in front of proper pieces that do not begin with a text. -/
inductive Leads : List Char → List Piece → Prop where
  | last {text : List Char} :
      Closed text → Leads text []
  | expr {text : List Char} {source : String} {pieces : List Piece} :
      Closed text → text.getLast? ≠ some '\x7b' → Proper (.expr source :: pieces) →
      Leads text (.expr source :: pieces)

theorem Leads.closed (h : Leads text pieces) : Closed text := by
  cases h with
  | last hclosed => exact hclosed
  | expr hclosed => exact hclosed

theorem Leads.proper (h : Leads text pieces) : Proper (withPiece text pieces) := by
  unfold withPiece
  cases text with
  | nil =>
      cases h with
      | last => exact .nil
      | expr _ _ hpieces => exact hpieces
  | cons c text =>
      have hchars : (String.ofList (c :: text)).toList = c :: text := String.toList_ofList
      have hnonempty : String.ofList (c :: text) ≠ "" := by
        intro hempty
        rw [hempty] at hchars
        cases hchars
      have hclosed : Closed (String.ofList (c :: text)).toList := by
        rw [hchars]
        exact h.closed
      cases h with
      | last => exact .last hnonempty hclosed
      | expr _ hlast hpieces =>
          rw [← hchars] at hlast
          exact .text hnonempty hclosed hlast hpieces

theorem forall₂_withPiece (h : List.Forall₂ Denotes pieces segments) :
    List.Forall₂ Denotes (withPiece text pieces) (withText text segments) := by
  unfold withPiece withText
  split
  · exact h
  · exact .cons (.text _) h

theorem written_withPiece : written (withPiece text pieces) = text ++ written pieces := by
  unfold withPiece
  cases text with
  | nil => rfl
  | cons c text => simp [written, Piece.chars]

theorem closed_nil : Closed [] := by
  intro hinfix
  cases List.infix_nil.mp hinfix

theorem closed_cons (h : Closed text) (hc : opens c (text ++ rest) = false) :
    Closed (c :: text) := by
  intro hinfix
  rcases List.infix_cons_iff.mp hinfix with ⟨more, hmore⟩ | hinfix
  · have hopens : opens c (text ++ rest) = true :=
      opens_iff.mpr ⟨more ++ rest, by rw [← List.cons_append, ← hmore]; rfl⟩
    rw [hc] at hopens
    cases hopens
  · exact h hinfix

theorem Leads.cons (h : Leads text pieces) (hc : opens c (text ++ written pieces) = false) :
    Leads (c :: text) pieces := by
  have hclosed := closed_cons h.closed hc
  cases h with
  | last => exact .last hclosed
  | expr _ hlast hpieces =>
      refine .expr hclosed ?_ hpieces
      cases text with
      | nil =>
          rintro ⟨rfl⟩
          cases hc
      | cons a text => rwa [List.getLast?_cons_cons]

/-- What is read from a text are proper pieces of it. -/
theorem exists_pieces (h : segmentsFrom 0 s = .ok (text, segments)) :
    ∃ pieces, Leads text pieces ∧ List.Forall₂ Denotes pieces segments ∧
      s = text ++ written pieces := by
  induction hlength : s.length using Nat.strong_induction_on generalizing s text segments with
  | h length ih =>
      cases s with
      | nil =>
          cases h
          exact ⟨[], .last closed_nil, .nil, rfl⟩
      | cons c rest =>
          cases hopens : opens c rest with
          | false =>
              obtain ⟨text', rfl, hrest⟩ := exists_of_segmentsFrom_cons hopens h
              obtain ⟨pieces, hleads, hdenotes, rfl⟩ :=
                ih rest.length (by rw [← hlength]; exact Nat.lt_succ_self _) hrest rfl
              exact ⟨pieces, hleads.cons hopens, hdenotes, rfl⟩
          | true =>
              obtain ⟨s, hs⟩ := opens_iff.mp hopens
              rw [hs] at h
              obtain ⟨rfl, e, n, text', segments', hinterpolation, hskip, rfl⟩ :=
                exists_of_segmentsFrom_opens h
              obtain ⟨body, rest', rfl, rfl, hbody⟩ := exists_body_of_interpolation hinterpolation
              have hword : '\x7b' :: (body ++ '\x7d' :: '\x7d' :: rest') =
                  '\x7b' :: (body ++ ['\x7d', '\x7d']) ++ rest' := by simp
              have hcount :
                  body.length + 2 + 1 = ('\x7b' :: (body ++ ['\x7d', '\x7d'])).length := by
                simp
              rw [hword, hcount, segmentsFrom_append] at hskip
              have hless : rest'.length < length := by
                rw [← hlength, hs]
                simp only [List.length_cons, List.length_append]
                omega
              obtain ⟨pieces, hleads, hdenotes, rfl⟩ := ih rest'.length hless hskip rfl
              refine ⟨.expr (String.ofList body) :: withPiece text' pieces, ?_, ?_, ?_⟩
              · exact .expr closed_nil (by simp) (.expr hleads.proper)
              · exact .cons (.expr hbody) (forall₂_withPiece hdenotes)
              · rw [hs, List.nil_append, written_cons, written_withPiece]
                simp [Piece.chars]

/-- A template that is read: no text is empty, opens an expression or follows another text. -/
structure Tidy (template : Template) : Prop where
  nonempty : Segment.text "" ∉ template
  closed : ∀ text, Segment.text text ∈ template → Closed text.toList
  apart : ∀ text text', ¬[Segment.text text, Segment.text text'] <:+: template

theorem tidy_nil : Tidy [] :=
  ⟨List.not_mem_nil, fun _ h => (nomatch h), fun _ _ h => (nomatch List.infix_nil.mp h)⟩

theorem Tidy.cons_expr (h : Tidy template) : Tidy (.expr e :: template) := by
  refine ⟨?_, ?_, ?_⟩
  · exact List.not_mem_cons_of_ne_of_not_mem Segment.noConfusion h.nonempty
  · intro text hmem
    rcases List.mem_cons.mp hmem with heq | hmem
    · cases heq
    · exact h.closed text hmem
  · intro text text' hinfix
    rcases List.infix_cons_iff.mp hinfix with hprefix | hinfix
    · cases (List.cons_prefix_cons.mp hprefix).1
    · exact h.apart text text' hinfix

theorem Tidy.cons_text {content : String} (hnonempty : content ≠ "")
    (hclosed : Closed content.toList) (h : Tidy template)
    (hapart : ∀ text', template.head? ≠ some (.text text')) :
    Tidy (.text content :: template) := by
  refine ⟨?_, ?_, ?_⟩
  · intro hmem
    rcases List.mem_cons.mp hmem with heq | hmem
    · cases heq
      exact hnonempty rfl
    · exact h.nonempty hmem
  · intro text hmem
    rcases List.mem_cons.mp hmem with heq | hmem
    · cases heq
      exact hclosed
    · exact h.closed text hmem
  · intro text text' hinfix
    rcases List.infix_cons_iff.mp hinfix with hprefix | hinfix
    · obtain ⟨more, hmore⟩ := (List.cons_prefix_cons.mp hprefix).2
      refine hapart text' ?_
      rw [← hmore]
      rfl
    · exact h.apart text text' hinfix

theorem tidy_of_proper (hpieces : Proper pieces) (h : List.Forall₂ Denotes pieces template) :
    Tidy template := by
  induction hpieces generalizing template with
  | nil =>
      cases h
      exact tidy_nil
  | expr _ ih =>
      cases h with
      | cons hfirst hmore =>
          cases hfirst
          exact (ih hmore).cons_expr
  | last hnonempty hclosed =>
      cases h with
      | cons hfirst hmore =>
          cases hfirst
          cases hmore
          exact tidy_nil.cons_text hnonempty hclosed fun _ heq => nomatch heq
  | text hnonempty hclosed _ _ ih =>
      cases h with
      | cons hfirst hmore =>
          have htidy := ih hmore
          cases hfirst
          cases hmore with
          | cons hsecond _ =>
              cases hsecond
              exact htidy.cons_text hnonempty hclosed fun _ heq => nomatch Option.some.inj heq

theorem exists_written_of_parse {source : String} (h : parse source = .ok template) :
    ∃ pieces, Proper pieces ∧ List.Forall₂ Denotes pieces template ∧
      source = String.ofList (written pieces) := by
  rw [parse, ofChars] at h
  cases hsegments : segmentsFrom 0 source.toList with
  | error error =>
      rw [hsegments] at h
      cases h
  | ok found =>
      obtain ⟨text, segments⟩ := found
      rw [hsegments] at h
      cases h
      obtain ⟨pieces, hleads, hdenotes, hsource⟩ := exists_pieces hsegments
      refine ⟨withPiece text pieces, hleads.proper, forall₂_withPiece hdenotes, ?_⟩
      rw [written_withPiece, ← hsource, String.ofList_toList]

/-- Parsing inverts writing.  The text of proper pieces is read as what the pieces denote; what is
read is tidy, and comes from the text of proper pieces.  Reading ends: each expression takes up a
part of what is left, and the bound on the depth of its parser never decides. -/
theorem parse_inverts_writing :
    (∀ pieces template, Proper pieces → List.Forall₂ Denotes pieces template →
      parse (String.ofList (written pieces)) = .ok template) ∧
    (∀ source template, parse source = .ok template → Tidy template ∧
      ∃ pieces, Proper pieces ∧ List.Forall₂ Denotes pieces template ∧
        source = String.ofList (written pieces)) ∧
    (∀ s e n, interpolation s = .ok (e, n) → 0 < n ∧ n ≤ s.length) ∧
    ∀ (parser : Parser) (depth : Nat), parser.depth ≤ depth →
      Parse.expressionIn depth parser = Parse.expression parser := by
  refine ⟨?_, ?_, ?_, ?_⟩
  · intro pieces template hpieces hdenotes
    exact parse_written hpieces hdenotes
  · intro source template h
    obtain ⟨pieces, hpieces, hdenotes, hsource⟩ := exists_written_of_parse h
    exact ⟨tidy_of_proper hpieces hdenotes, pieces, hpieces, hdenotes, hsource⟩
  · intro s e n h
    obtain ⟨body, rest, rfl, rfl, -⟩ := exists_body_of_interpolation h
    simp only [List.length_append, List.length_cons]
    omega
  · intro parser depth hdepth
    exact Parse.expressionIn_sameAt_expression hdepth

/-- A quote and single braces in the texts, and closing braces inside of the expression. -/
theorem parse_inverts_writing_braces :
    let pieces := [.text "\x7b\" ", .expr " '\x7d\x7d' ", .text "\x7d\x7b"]
    let template := [.text "\x7b\" ", .expr (.literal (.string "\x7d\x7d")), .text "\x7d\x7b"]
    Proper pieces ∧ List.Forall₂ Denotes pieces template ∧
      parse (String.ofList (written pieces)) = .ok template ∧ Tidy template ∧
      interpolation (" '\x7d\x7d' ".toList ++ '\x7d' :: '\x7d' :: []) =
        .ok (.literal (.string "\x7d\x7d"), 8) ∧
      8 ≤ (" '\x7d\x7d' ".toList ++ '\x7d' :: '\x7d' :: []).length := by
  intro pieces template
  have hyields : (Lexer.ofString .extended " '\x7d\x7d' ").Yields [.string "\x7d\x7d"] := rfl
  have hsource : Expr.parse .extended " '\x7d\x7d' " = .ok (.literal (.string "\x7d\x7d")) :=
    Expr.parse_of_derivation hyields (Expr.expression_of_binds (.primary (.string _)))
  have hpieces : Proper pieces :=
    .text (by decide) (by decide) (by decide) (.expr (.last (by decide) (by decide)))
  have hdenotes : List.Forall₂ Denotes pieces template :=
    .cons (.text _) (.cons (.expr hsource) (.cons (.text _) .nil))
  have hparse := parse_inverts_writing.1 pieces template hpieces hdenotes
  have hinterpolation := interpolation_of_parse [] hsource
  exact ⟨hpieces, hdenotes, hparse, (parse_inverts_writing.2.1 _ template hparse).1,
    hinterpolation, (parse_inverts_writing.2.2.1 _ _ _ hinterpolation).2⟩

end Template
end Guest
