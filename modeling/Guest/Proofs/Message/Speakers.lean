import Mathlib.Data.List.TakeWhile
import Guest.Message
import Guest.Proofs.Expr.Endings
import Guest.Proofs.Expr.RoundTrip
import Guest.Proofs.Message.Positions

/-!
# Speakers that are expressions

An expression speaker ends where its expression ends, however many colons are inside of it, and the
content behind its colon plays no part in where that is.  The content is one text literal, which is
then its text, or a template.
-/

namespace Guest

/-! ## Trimmed texts -/

namespace Text

open Lexeme (Visible Starts)

/-- What is trimmed from a text are blanks at its ends. -/
theorem exists_blanks_trim (s : List Char) :
    ∃ gap gap', s = gap ++ (trim s ++ gap') ∧ (∀ a ∈ gap, isBlank a = true) ∧
      ∀ a ∈ gap', isBlank a = true := by
  have hstart := List.takeWhile_append_dropWhile (p := isBlank) (l := s)
  have hend := List.takeWhile_append_dropWhile (p := isBlank) (l := (s.dropWhile isBlank).reverse)
  have hsplit := congrArg List.reverse hend
  rw [List.reverse_append, List.reverse_reverse] at hsplit
  refine ⟨s.takeWhile isBlank, ((s.dropWhile isBlank).reverse.takeWhile isBlank).reverse, ?_,
    List.all_eq_true.mp List.all_takeWhile, fun a ha => ?_⟩
  · nth_rewrite 1 [← hstart]
    exact congrArg _ hsplit.symm
  · exact List.all_eq_true.mp List.all_takeWhile a (List.mem_reverse.mp ha)

/-- Exactly the blank texts are trimmed to nothing. -/
theorem trim_eq_nil_iff {s : List Char} : trim s = [] ↔ ∀ a ∈ s, isBlank a = true := by
  constructor
  · intro h
    obtain ⟨gap, gap', hsplit, hgap, hgap'⟩ := exists_blanks_trim s
    rw [hsplit, h, List.nil_append]
    exact List.forall_mem_append.mpr ⟨hgap, hgap'⟩
  · intro h
    have hstart : s.dropWhile isBlank = [] := List.dropWhile_eq_nil_iff.mpr h
    rw [trim, trimBy, trimStartBy, hstart]
    rfl

theorem visible_dropWhile (s : List Char) : Visible (s.dropWhile isBlank) := by
  intro c hc
  have hend := List.head?_dropWhile_not isBlank s
  rw [Option.mem_def.mp hc] at hend
  exact hend

theorem visible_trim (s : List Char) : Visible (trim s) := by
  have hsuffix := List.dropWhile_suffix (l := (s.dropWhile isBlank).reverse) isBlank
  have hfront : trim s <+: s.dropWhile isBlank :=
    List.reverse_suffix.mp (by simpa [trim, trimBy, trimEndBy, trimStartBy] using hsuffix)
  intro c hc
  obtain ⟨rest, hrest⟩ := List.head?_eq_some_iff.mp hc
  obtain ⟨more, hmore⟩ := hfront
  refine visible_dropWhile s c ?_
  rw [← hmore, hrest]
  rfl

theorem visible_reverse_trim (s : List Char) : Visible (trim s).reverse := by
  rw [trim, trimBy, trimEndBy, List.reverse_reverse]
  exact visible_dropWhile _

end Text

/-! ## Contents that are text literals -/

namespace Lexeme

variable {d : Dialect} {w : List Char} {text : String} {p : Char → Prop}

/-- A word that is read as a text is a text literal. -/
theorem Spells.eq_of_string (h : Spells d w (.string text) p) :
    ∃ quote w' body, w = quote :: w' ∧ isQuote quote = true ∧ QuotedText quote w' body ∧
      text = String.ofList body := by
  generalize ht : Token.string text = t at h
  cases h with
  | string hquote htext =>
      cases ht
      exact ⟨_, _, _, rfl, hquote, htext, rfl⟩
  | word =>
      unfold wordToken at ht
      split_ifs at ht
  | _ => cases ht

end Lexeme

namespace Lexer

open Lexeme

/-- The end of the text is the next token exactly if only blanks are left. -/
theorem next_endOfText_iff {lexer : Lexer} :
    (∃ start stop, lexer.next.1 = .ok ⟨.endOfText, start, stop⟩) ↔
      ∀ a ∈ lexer.rest, Text.isBlank a = true := by
  constructor
  · rintro ⟨start, stop, h⟩
    rcases front_or_fault lexer.dialect lexer.rest with
      ⟨gap, w, rest, t, hfront⟩ | ⟨gap, c, rest, fault, hsplit, hgap, hc, hscan⟩
    · rw [next_of_front hfront] at h
      cases h
      obtain ⟨rfl, rfl⟩ := hfront.nil_of_endOfText
      rw [hfront.split, List.append_nil, List.append_nil]
      exact hfront.blank
    · rw [next_of_fault hsplit hgap hc hscan] at h
      cases h
  · intro h
    rw [next_of_front (front_of_blank h)]
    exact ⟨_, _, rfl⟩

end Lexer

namespace Line

open Lexeme Parse Guest.Parser Grammar
open Token (escapeIn quotedText_escapeIn)

variable {s : List Char} {text : String} {e : Expr}

/-- A content is taken for a text literal exactly if it is one between blanks. -/
theorem literalContent?_eq_some :
    literalContent? s = some text ↔
      ∃ gap w rest, Front .extended s gap w rest (.string text) ∧
        ∀ a ∈ rest, Text.isBlank a = true := by
  have hnext {gap w rest : List Char} {t : Token} (h : Front .extended s gap w rest t) :=
    @Lexer.next_of_front (.ofChars .extended s) gap w rest t h
  constructor
  · intro h
    unfold literalContent? at h
    dsimp only at h
    rcases front_or_fault .extended s with
      ⟨gap, w, rest, t, hfront⟩ | ⟨gap, c, rest, fault, hsplit, hgap, hc, hscan⟩
    · rw [hnext hfront] at h
      split at h
      · next heq hend =>
          cases heq
          cases h
          exact ⟨gap, w, rest, hfront, Lexer.next_endOfText_iff.mp ⟨_, _, hend⟩⟩
      · cases h
    · have hfault : (Lexer.ofChars .extended s).next.1 = _ :=
        Lexer.next_of_fault hsplit hgap hc hscan
      rw [hfault] at h
      cases h
  · rintro ⟨gap, w, rest, hfront, hrest⟩
    have hblank := @Lexer.next_endOfText_iff (Lexer.ofChars .extended s).next.2
    rw [hnext hfront] at hblank
    obtain ⟨start, stop, hend⟩ := hblank.mpr hrest
    unfold literalContent?
    rw [hnext hfront]
    dsimp only
    rw [hend]

theorem literalContent?_quotedText {quote : Char} {w body : List Char}
    (hquote : isQuote quote = true) (htext : QuotedText quote w body) :
    literalContent? (quote :: w) = some (String.ofList body) := by
  have hspells := Spells.string (d := .extended) hquote htext
  have hfront := @front_of_spells .extended [] (quote :: w) [] _ _ (List.forall_mem_nil _) hspells
    hspells.visible starts_nil
  rw [List.nil_append, List.append_nil] at hfront
  exact literalContent?_eq_some.mpr ⟨_, _, _, hfront, List.forall_mem_nil _⟩

/-- A content without blanks at its ends that is taken for a text literal is one. -/
theorem exists_quotedText_of_literalContent? (hfirst : Visible s) (hlast : Visible s.reverse)
    (h : literalContent? s = some text) :
    ∃ quote w body, s = quote :: w ∧ isQuote quote = true ∧ QuotedText quote w body := by
  obtain ⟨gap, w, rest, hfront, hrest⟩ := literalContent?_eq_some.mp h
  obtain ⟨p, hspells, -⟩ := hfront.exists_spells Token.noConfusion
  obtain ⟨quote, w', body, rfl, hquote, htext, -⟩ := hspells.eq_of_string
  have hsplit := hfront.split
  have hgap : gap = [] := by
    cases gap with
    | nil => rfl
    | cons c gap =>
        have hc := hfront.blank c List.mem_cons_self
        rw [hfirst c (by rw [hsplit]; rfl)] at hc
        cases hc
  have hend : rest = [] := by
    rcases List.eq_nil_or_concat rest with rfl | ⟨more, c, rfl⟩
    · rfl
    · have hc := hrest c (by simp)
      rw [hlast c (by rw [hsplit]; simp)] at hc
      cases hc
  rw [hgap, hend, List.nil_append, List.append_nil] at hsplit
  exact ⟨quote, w', body, hsplit, hquote, htext⟩

/-! ## Speakers -/

/-- The source of an expression in front of a colon is the speaker, whatever follows. -/
theorem expressionSpeaker?_of_parse {source : List Char} (rest : List Char)
    (h : Expr.parse .extended (String.ofList source) = .ok e) :
    expressionSpeaker? (source ++ ':' :: rest) = some (speakerOf e, source.length + 1) := by
  obtain ⟨x, gap, p, r, -, hofLexer, he, -, htoken, -, hstop⟩ :=
    Expr.exists_gives_of_parse h .colon Token.grip_colon
  have hspeaker : Gives Parse.speaker p (some (e, source.length + 1)) r := by
    refine he.bind ?_
    unfold Gives
    dsimp only
    rw [if_pos (seesSign_iff.mpr htoken), hstop]
  unfold expressionSpeaker?
  rw [run_eq_ok.mpr ⟨p, r, hofLexer, hspeaker⟩]

theorem speakerOf_of_ne_identifier (h : ∀ name, e ≠ .identifier name) :
    speakerOf e = [.expr e] := by
  cases e
  case identifier name => exact absurd rfl (h name)
  all_goals rfl

/-- A line with an expression for a speaker is wrong only in its content. -/
theorem ofChars_of_parse {number : Nat} {source : List Char} (rest : List Char)
    (h : Expr.parse .extended (String.ofList source) = .ok e) :
    ofChars number (source ++ ':' :: rest) =
      (contentIn number (source.length + 1) (source ++ ':' :: rest)).map
        fun content => ⟨speakerOf e, content⟩ := by
  have hspeaker : speakerIn number (source ++ ':' :: rest) =
      .ok (speakerOf e, source.length + 1) := by
    rw [speakerIn, expressionSpeaker?_of_parse rest h]
  rw [ofChars, hspeaker]
  change (contentIn number (source.length + 1) (source ++ ':' :: rest) >>= fun content =>
    Except.ok (Line.mk (speakerOf e) content)) = _
  cases contentIn number (source.length + 1) (source ++ ':' :: rest) <;> rfl

/-! ## Contents -/

theorem contentIn_eq {number : Nat} {source rest : List Char} (hrest : Text.trim rest ≠ [])
    (hcolon : (Text.trim rest).head? ≠ some ':') :
    contentIn number (source.length + 1) (source ++ ':' :: rest) =
      match literalContent? (Text.trim rest) with
      | some text => .ok (.ofText text)
      | none => Template.ofChars (Text.trim rest) := by
  have hdrop : (source ++ ':' :: rest).drop (source.length + 1) = rest := by
    rw [List.drop_append, List.drop_eq_nil_of_le (Nat.le_succ _), List.nil_append]
    simp
  rw [contentIn, hdrop]
  split
  · next hempty => exact absurd hempty hrest
  · next hcons =>
      rw [hcons] at hcolon
      exact absurd rfl hcolon
  · rfl

theorem render_ofText (text : String) (context : Context) :
    (Template.ofText text).render context = (.ok text, context) := by
  change (Except.ok (text ++ ""), context) = _
  rw [String.append_empty]

/-- An expression speaker ends where its expression ends.  Where a source is read as an expression,
the line of the source, a colon and a content has the tree for its speaker, a name standing for
itself.  The content is the text of a text literal, if it is one, and then nothing of it is
evaluated; otherwise it is read as a template and fails as one. -/
theorem parse_expression_speaker {source content : String} {e : Expr}
    (h : Expr.parse .extended source = .ok e) (hcontent : Text.trim content.toList ≠ [])
    (hcolon : (Text.trim content.toList).head? ≠ some ':') :
    ∃ speaker : Template,
      (∀ name, e = .identifier name → speaker = [.text name]) ∧
      ((∀ name, e ≠ .identifier name) → speaker = [.expr e]) ∧
      (∀ quote w body, isQuote quote = true → QuotedText quote w body →
        Text.trim content.toList = quote :: w →
        parse (source ++ ":" ++ content) = .ok ⟨speaker, [.text (String.ofList body)]⟩) ∧
      (∀ quote text, isQuote quote = true →
        Text.trim content.toList = quote :: (text.toList.flatMap (escapeIn quote) ++ [quote]) →
        parse (source ++ ":" ++ content) = .ok ⟨speaker, [.text text]⟩ ∧
          ∀ context, Template.render [.text text] context = (.ok text, context)) ∧
      ((∀ quote w body, isQuote quote = true → QuotedText quote w body →
          Text.trim content.toList ≠ quote :: w) →
        parse (source ++ ":" ++ content) =
          (Template.parse (String.ofList (Text.trim content.toList))).map
            fun template => ⟨speaker, template⟩) := by
  rw [← String.ofList_toList (s := source)] at h
  have hparse : parse (source ++ ":" ++ content) =
      Except.map (fun template => ⟨speakerOf e, template⟩)
        (match literalContent? (Text.trim content.toList) with
          | some text => .ok (.ofText text)
          | none => Template.ofChars (Text.trim content.toList)) := by
    rw [parse, String.toList_append, String.toList_append, List.append_assoc]
    change ofChars 1 (source.toList ++ ':' :: content.toList) = _
    rw [ofChars_of_parse content.toList h, contentIn_eq hcontent hcolon]
  have hliteral {quote : Char} {w body : List Char} (hquote : isQuote quote = true)
      (htext : QuotedText quote w body) (htrim : Text.trim content.toList = quote :: w) :
      parse (source ++ ":" ++ content) = .ok ⟨speakerOf e, [.text (String.ofList body)]⟩ := by
    rw [hparse, htrim, literalContent?_quotedText hquote htext]
    rfl
  refine ⟨speakerOf e, ?_, speakerOf_of_ne_identifier, fun _ _ _ => hliteral, ?_, ?_⟩
  · rintro name rfl
    rfl
  · intro quote text hquote htrim
    have hline := hliteral hquote (quotedText_escapeIn text.toList) htrim
    rw [String.ofList_toList] at hline
    exact ⟨hline, render_ofText text⟩
  · intro hother
    have hnone : literalContent? (Text.trim content.toList) = none := by
      rw [Option.eq_none_iff_forall_ne_some]
      intro text htext
      obtain ⟨quote, w, body, hsplit, hquote, hbody⟩ :=
        exists_quotedText_of_literalContent? (Text.visible_trim _) (Text.visible_reverse_trim _)
          htext
      exact hother quote w body hquote hbody hsplit
    rw [hparse, hnone, Template.parse, String.toList_ofList]

/-- Colons in a conditional and in a text, before a literal with braces and before a template that
is not closed. -/
theorem parse_expression_speaker_conditional :
    let speaker : Template :=
      [.expr (.conditional (.identifier "a") (some (.literal (.string "x:y"))) (.identifier "b"))]
    parse ("a ? 'x:y' : b" ++ ":" ++ " \"\x7b\x7b c : \" ") =
        .ok ⟨speaker, [.text "\x7b\x7b c : "]⟩ ∧
      parse ("a ? 'x:y' : b" ++ ":" ++ " x:\x7b\x7b") =
        (Template.parse "x:\x7b\x7b").map fun template => ⟨speaker, template⟩ := by
  intro speaker
  have hyields : (Lexer.ofString .extended "a ? 'x:y' : b").Yields
      [.identifier "a", .sign .question, .string "x:y", .sign .colon, .identifier "b"] := by
    unfold Lexer.Yields
    decide +kernel
  have htest : Chain 1 [.identifier "a"] (.identifier "a") :=
    Expr.chain_of_binds (by decide) (by decide)
      (Expr.binds_of_le (by decide) (.primary (.identifier "a")))
  have hsource := Expr.parse_of_derivation hyields
    (.conditional htest (Expr.expression_of_binds (.primary (.string "x:y")))
      (Expr.expression_of_binds (.primary (.identifier "b"))))
  constructor
  · obtain ⟨speaker', -, hspeaker, -, hliteral, -⟩ := @parse_expression_speaker _
      " \"\x7b\x7b c : \" " _ hsource (by decide) (by decide)
    rw [hspeaker fun _ => Expr.noConfusion] at hliteral
    exact (hliteral '"' "\x7b\x7b c : " rfl (by decide)).1
  · obtain ⟨speaker', -, hspeaker, -, -, hother⟩ := @parse_expression_speaker _
      " x:\x7b\x7b" _ hsource (by decide) (by decide)
    rw [hspeaker fun _ => Expr.noConfusion] at hother
    have htrim : Text.trim " x:\x7b\x7b".toList = "x:\x7b\x7b".toList := by decide
    rw [htrim, String.ofList_toList] at hother
    refine hother fun quote w body hquote _ heq => ?_
    rw [← (List.cons.inj heq).1] at hquote
    exact absurd hquote (by decide)

end Line
end Guest
