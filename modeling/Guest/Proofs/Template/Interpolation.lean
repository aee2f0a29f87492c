import Guest.Proofs.Expr.Endings
import Guest.Template

/-!
# Expressions between braces

The end of an expression between braces is found by its parser, which faces all of the text that is
left.  Two facts make it local: a closing brace makes no token in front of it longer, and an
expression does not go on at a closing brace.  So an expression stands between braces exactly if its
source is read as the expression on its own.
-/

namespace Guest

namespace Parse

open Guest.Parser

variable {p q : Parser} {e : Expr} {n : Nat}

theorem gives_secondBrace :
    Gives secondBrace p n q ↔ p = q ∧ p.current.token = .sign .rightBrace ∧
      p.current.start.offset = p.consumed ∧ p.current.stop.offset = n := by
  unfold Gives secondBrace
  constructor
  · intro h
    split at h
    · next hbrace =>
        rw [Bool.and_eq_true, beq_iff_eq] at hbrace
        cases h
        exact ⟨rfl, seesSign_iff.mp hbrace.1, hbrace.2, rfl⟩
    · cases h
  · rintro ⟨rfl, htoken, hstart, rfl⟩
    simp [seesSign_iff.mpr htoken, hstart]

/-- An expression between braces is an expression and two closing braces next to each other. -/
theorem gives_interpolation :
    Gives interpolation p (e, n) q ↔ ∃ r, Gives expression p e r ∧
      Reads r [.sign .rightBrace] q ∧ q.current.token = .sign .rightBrace ∧
      q.current.start.offset = q.consumed ∧ q.current.stop.offset = n := by
  unfold interpolation
  constructor
  · intro h
    obtain ⟨e', r, he, h⟩ := gives_bind.mp h
    obtain ⟨_, q', hfirst, h⟩ := gives_bind.mp h
    obtain ⟨n', q'', hsecond, h⟩ := gives_bind.mp h
    obtain ⟨heq, rfl⟩ := gives_pure.mp h
    cases heq
    obtain ⟨rfl, hbrace⟩ := gives_secondBrace.mp hsecond
    exact ⟨r, he, gives_expect_sign.mp hfirst, hbrace⟩
  · rintro ⟨r, he, hfirst, hbrace⟩
    have hsecond : Gives secondBrace q n q := gives_secondBrace.mpr ⟨rfl, hbrace⟩
    exact he.bind ((gives_expect_sign.mpr hfirst).bind (hsecond.bind (gives_pure.mpr ⟨rfl, rfl⟩)))

end Parse

namespace Lexeme

variable {d : Dialect} {s gap w rest : List Char}

/-- Where a closing brace is read, it stands behind blanks. -/
theorem Front.eq_brace (h : Front d s gap w rest (.sign .rightBrace)) :
    s = gap ++ '\x7d' :: rest := by
  have hhead : (w ++ rest).head? = some '\x7d' := head_of_scan (congrArg Lexeme.outcome h.scan)
  obtain ⟨more, hmore⟩ := List.head?_eq_some_iff.mp hhead
  have hsplit := h.split
  rw [hmore] at hsplit
  have hfront : Front d (gap ++ '\x7d' :: more) gap ['\x7d'] more _ :=
    front_delimiter .rightBrace h.blank
  rw [← hsplit] at hfront
  obtain ⟨-, hrest, -⟩ := h.unique hfront
  rw [hrest, hsplit]

end Lexeme

namespace Parser

open Lexeme

variable {d : Dialect} {p : Parser} {before after : List Char}

/-- A parser at a closing brace faces blanks and the brace. -/
theorem FacesFront.exists_brace (hp : FacesFront d before after p)
    (h : p.current.token = .sign .rightBrace) :
    ∃ gap, after = gap ++ '\x7d' :: p.lexer.rest ∧ (∀ a ∈ gap, Text.isBlank a = true) ∧
      p.current.start.offset = before.length + gap.length ∧
      p.current.stop.offset = before.length + gap.length + 1 := by
  obtain ⟨gap, w, hfront⟩ := hp.front
  obtain ⟨gap', w', hshows, hstart, hstop⟩ := hp.current
  rw [h] at hfront hshows
  obtain ⟨rfl, -, -⟩ := hshows.unique hfront (by decide)
  have hsplit := hshows.split
  rw [hfront.eq_brace] at hsplit
  have hw : ['\x7d'] = w' := List.append_cancel_right (List.append_cancel_left hsplit)
  refine ⟨gap', hfront.eq_brace, hfront.blank, hstart, ?_⟩
  rw [hstop, hstart, ← hw]
  rfl

end Parser

namespace Template

open Lexeme Parse Guest.Parser Grammar

variable {s : List Char} {e : Expr} {n : Nat}

theorem starts_neutral_of_blank {gap : List Char} (hgap : ∀ a ∈ gap, Text.isBlank a = true) :
    Starts Neutral gap :=
  fun c hc => neutral_of_isBlank (hgap c (List.mem_of_mem_head? hc))

/-- What is read as an expression in front of two closing braces is read so on its own. -/
theorem exists_body_of_interpolation (h : interpolation s = .ok (e, n)) :
    ∃ body rest, s = body ++ '\x7d' :: '\x7d' :: rest ∧ n = body.length + 2 ∧
      Expr.parse .extended (String.ofList body) = .ok e := by
  obtain ⟨p, q, hofLexer, hgives⟩ := run_eq_ok.mp h
  obtain ⟨r, he, hbrace, htoken, hnext, rfl⟩ := gives_interpolation.mp hgives
  obtain ⟨ts, hreads, hts⟩ := sound_expression he
  obtain ⟨hfirst, hadvance⟩ := reads_singleton.mp hbrace
  obtain ⟨x, tail, rfl, hcut, hr⟩ :=
    (facesFront_of_ofLexer hofLexer).exists_cut hreads (endless_expression hts)
  obtain ⟨gap, htail, hgap, -⟩ := hr.exists_brace hfirst
  obtain ⟨taken, htaken, hq⟩ := hr.of_advance hadvance
  obtain ⟨gap', hrest, -, hstart, hstop⟩ := hq.exists_brace htoken
  have hgap' : gap' = [] := by
    rw [hnext, hq.consumed] at hstart
    exact List.length_eq_zero_iff.mp (by omega)
  have htaken' : taken = gap ++ ['\x7d'] := by
    rw [htail, List.append_cons] at htaken
    exact (List.append_cancel_right htaken).symm
  subst hgap' htaken'
  have hwords : Words .extended (x ++ gap) ts := by
    refine words_iff_cut.mpr ⟨x, gap, rfl, hgap, hcut.congr fun c hc => ?_⟩
    exact .inr (starts_neutral_of_blank hgap c hc)
  have hyields : (Lexer.ofString .extended (String.ofList (x ++ gap))).Yields ts := by
    rw [Lexer.ofString, String.toList_ofList]
    exact Lexer.yields_iff_words.mpr hwords
  refine ⟨x ++ gap, q.lexer.rest, ?_, ?_, Expr.parse_of_derivation hyields hts⟩
  · rw [htail, hrest, List.nil_append, List.append_assoc]
  · rw [hstop]
    simp only [List.length_append, List.length_cons, List.length_nil]
    omega

/-- The source of an expression is read as the expression in front of two closing braces. -/
theorem interpolation_of_parse {body : List Char} (rest : List Char)
    (h : Expr.parse .extended (String.ofList body) = .ok e) :
    interpolation (body ++ '\x7d' :: '\x7d' :: rest) = .ok (e, body.length + 2) := by
  obtain ⟨x, gap, p, r, rfl, hofLexer, he, hr, htoken, hrest, -⟩ :=
    Expr.exists_gives_of_parse h .rightBrace Token.grip_rightBrace
  have hsecond : Front .extended ('\x7d' :: rest) [] ['\x7d'] rest (.sign .rightBrace) :=
    front_delimiter .rightBrace (List.forall_mem_nil _)
  have hready' : Ready .extended r.lexer.rest := by
    rw [hrest]
    exact ⟨_, _, _, _, hsecond⟩
  obtain ⟨taken, q, htaken, hadvance, hq⟩ := hr.toFaces.exists_advance hready'
  rw [hrest] at htaken hq
  rw [List.append_cons] at htaken
  obtain rfl := List.append_cancel_right htaken
  obtain ⟨htoken', hrest'⟩ := hq.current_eq hsecond
  obtain ⟨gap', hsplit, -, hstart, hstop⟩ := hq.exists_brace htoken'
  have hlength := congrArg List.length hsplit
  rw [hrest'] at hlength
  simp only [List.length_append, List.length_cons, List.length_nil] at hlength hstart hstop
  have hconsumed := hq.consumed
  simp only [List.length_append, List.length_cons, List.length_nil] at hconsumed
  refine run_eq_ok.mpr ⟨p, q, hofLexer, gives_interpolation.mpr ⟨r, he,
    reads_singleton.mpr ⟨htoken, hadvance⟩, htoken', ?_, ?_⟩⟩
  · omega
  · rw [List.length_append]
    omega

end Template
end Guest
