import Guest.Proofs.Expr.Braces
import Guest.Proofs.Parser.Spans
import Guest.Proofs.TypeExpr.Grammar
import Guest.Proofs.TypeExpr.Steps

/-!
# What the parser of types has in front of it

The parser consumes a shift sign bracket by bracket, in place.  So what is in front of it are not
the tokens of its lexer but the pieces that are left of them; these are the tokens of the grammar of
types.  Between braces the parser of expressions is at work, and there the tokens are whole.
-/

namespace Guest

namespace TypeGrammar

open Grammar

variable {spanned piece : Spanned} {spans pieces more rest : List Spanned} {depth : Nat}
  {ts : List Token} {sign left : Sign}

/-! ## Shift signs -/

/-- A shift sign and what is left of it behind its first bracket. -/
inductive Splits : Sign → Sign → Prop where
  | shiftRight : Splits .shiftRight .greater
  | shiftRightZero : Splits .shiftRightZero .shiftRight

theorem brackets_of_splits (h : Splits sign left) {start stop : Position} :
    brackets ⟨.sign sign, start, stop⟩ =
      ⟨.sign .greater, start, start.step '>'⟩ :: brackets ⟨.sign left, start.step '>', stop⟩ := by
  cases h <;> rfl

theorem brackets_eq_or_splits (spanned : Spanned) :
    brackets spanned = [spanned] ∨
      ∃ sign left, Splits sign left ∧ spanned.token = .sign sign := by
  unfold brackets
  split
  · next ht => exact .inr ⟨_, _, .shiftRight, ht⟩
  · next ht => exact .inr ⟨_, _, .shiftRightZero, ht⟩
  · exact .inl rfl

theorem brackets_eq_of_ne (h : ∀ sign left, Splits sign left → spanned.token ≠ .sign sign) :
    brackets spanned = [spanned] := by
  rcases brackets_eq_or_splits spanned with hone | ⟨sign, left, hsplits, ht⟩
  · exact hone
  · exact absurd ht (h sign left hsplits)

theorem brackets_of_splits_token (h : Splits sign left) (ht : spanned.token = .sign sign) :
    brackets spanned = ⟨.sign .greater, spanned.start, spanned.start.step '>'⟩ ::
      brackets ⟨.sign left, spanned.start.step '>', spanned.stop⟩ := by
  rw [← brackets_of_splits h, ← ht]

/-- A first piece that is no bracket is a token. -/
theorem eq_of_brackets_append (h : brackets spanned ++ rest = piece :: more)
    (ht : piece.token ≠ .sign .greater) : spanned = piece ∧ rest = more := by
  rcases brackets_eq_or_splits spanned with hone | ⟨sign, left, hsplits, hsign⟩
  · rw [hone] at h
    exact List.cons.inj h
  · rw [brackets_of_splits_token hsplits hsign] at h
    obtain ⟨rfl, -⟩ := List.cons.inj h
    exact absurd rfl ht

/-- A token that is neither a brace nor ends in a closing angle bracket of its own. -/
def Whole (t : Token) : Prop :=
  t ∉ [.sign .leftBrace, .sign .rightBrace, .sign .greater, .sign .shiftRight,
    .sign .shiftRightZero]

instance (t : Token) : Decidable (Whole t) :=
  inferInstanceAs (Decidable (t ∉ _))

theorem bracesBehind_of_braceless {t : Token} (h : Braceless t) : bracesBehind depth t = depth := by
  unfold bracesBehind
  split
  · exact absurd rfl h.1
  · exact absurd rfl h.2
  · rfl

theorem bracesBehind_leftBrace : bracesBehind depth (.sign .leftBrace) = depth + 1 := rfl

theorem bracesBehind_rightBrace : bracesBehind (depth + 1) (.sign .rightBrace) = depth := rfl

/-! ## Between braces -/

theorem splitAngles_succ_cons :
    splitAngles (depth + 1) (spanned :: rest) =
      spanned :: splitAngles (bracesBehind (depth + 1) spanned.token) rest := rfl

/-- Tokens whose braces stand in pairs are left as they are between braces. -/
theorem splitAngles_append_of_braced (h : Braced ts) (hts : spans.map Spanned.token = ts) :
    splitAngles (depth + 1) (spans ++ more) = spans ++ splitAngles (depth + 1) more := by
  induction h generalizing spans depth more with
  | nil =>
      obtain rfl := List.map_eq_nil_iff.mp hts
      rfl
  | cons ht _ ih =>
      obtain ⟨spanned, spans, rfl, rfl, hmore⟩ := List.map_eq_cons_iff.mp hts
      rw [List.cons_append, splitAngles_succ_cons, bracesBehind_of_braceless ht, ih hmore]
      rfl
  | braces _ _ ihinner ih =>
      obtain ⟨opening, spans, rfl, hopening, hts⟩ := List.map_eq_cons_iff.mp hts
      obtain ⟨inner, spans, rfl, hinner, hts⟩ := List.map_eq_append_iff.mp hts
      obtain ⟨closing, spans, rfl, hclosing, hmore⟩ := List.map_eq_cons_iff.mp hts
      rw [List.cons_append, splitAngles_succ_cons, hopening, List.append_assoc, List.cons_append]
      rw [bracesBehind_leftBrace, ihinner hinner, splitAngles_succ_cons, hclosing]
      rw [bracesBehind_rightBrace, ih hmore]
      simp

/-- Between braces, tokens whose braces stand in pairs come from the same tokens. -/
theorem exists_of_splitAngles_eq_append (h : Braced ts) (hts : pieces.map Spanned.token = ts)
    (heq : splitAngles (depth + 1) spans = pieces ++ more) :
    ∃ rest, spans = pieces ++ rest ∧ splitAngles (depth + 1) rest = more := by
  induction h generalizing spans pieces depth more with
  | nil =>
      obtain rfl := List.map_eq_nil_iff.mp hts
      exact ⟨spans, rfl, heq⟩
  | cons ht _ ih =>
      obtain ⟨piece, pieces, rfl, rfl, hmore⟩ := List.map_eq_cons_iff.mp hts
      cases spans with
      | nil => cases heq
      | cons spanned spans =>
          rw [splitAngles_succ_cons, List.cons_append, List.cons.injEq] at heq
          obtain ⟨rfl, heq⟩ := heq
          rw [bracesBehind_of_braceless ht] at heq
          obtain ⟨rest, rfl, hrest⟩ := ih hmore heq
          exact ⟨rest, rfl, hrest⟩
  | braces _ _ ihinner ih =>
      obtain ⟨opening, pieces, rfl, hopening, hts⟩ := List.map_eq_cons_iff.mp hts
      obtain ⟨inner, pieces, rfl, hinner, hts⟩ := List.map_eq_append_iff.mp hts
      obtain ⟨closing, pieces, rfl, hclosing, hmore⟩ := List.map_eq_cons_iff.mp hts
      cases spans with
      | nil => cases heq
      | cons spanned spans =>
          rw [splitAngles_succ_cons, List.cons_append, List.cons.injEq] at heq
          obtain ⟨rfl, heq⟩ := heq
          rw [hopening, List.append_assoc] at heq
          obtain ⟨rest, rfl, hrest⟩ := ihinner hinner heq
          cases rest with
          | nil => cases hrest
          | cons spanned rest =>
              rw [splitAngles_succ_cons, List.cons_append, List.cons.injEq] at hrest
              obtain ⟨rfl, hrest⟩ := hrest
              rw [hclosing] at hrest
              obtain ⟨rest, rfl, hbehind⟩ := ih hmore hrest
              exact ⟨rest, by simp, hbehind⟩

end TypeGrammar

namespace Parser

open Parse TypeGrammar Grammar

variable {p q r : Parser} {piece spanned : Spanned} {spans pieces more : List Spanned}
  {sign left : Sign}

/-! ## Passing over pieces -/

/-- A parser has passed over pieces of its source. -/
structure Passed (p : Parser) (pieces : List Spanned) (q : Parser) : Prop where
  source : q.lexer.source = p.lexer.source
  consumed : q.consumed = pieces.foldl (fun _ piece => piece.stop.offset) p.consumed
  aligned : p.Aligned → q.Aligned

theorem Passed.refl (p : Parser) : Passed p [] p := ⟨rfl, rfl, id⟩

theorem Passed.trans (h : Passed p pieces q) (h' : Passed q more r) :
    Passed p (pieces ++ more) r :=
  ⟨h'.source.trans h.source, by rw [h'.consumed, h.consumed, List.foldl_append],
    fun hp => h'.aligned (h.aligned hp)⟩

theorem source_of_next {lexer moved : Lexer} (h : lexer.next = (.ok spanned, moved)) :
    moved.source = lexer.source := by
  unfold Lexer.next at h
  dsimp only at h
  split at h <;> cases h
  rfl

theorem passed_of_advance (h : Gives advance p () q) : Passed p [p.current] q := by
  have haligned := aligned_of_advance h
  obtain ⟨spanned, moved, hnext, rfl⟩ := gives_advance.mp h
  exact ⟨source_of_next hnext, rfl, fun _ => haligned⟩

theorem Walks.passed (h : Walks p spans q) : Passed p spans q := by
  induction h with
  | nil p => exact .refl p
  | cons ha _ ih => exact (passed_of_advance ha).trans ih

theorem foldl_stop_cons (piece : Spanned) (pieces : List Spanned) :
    pieces.foldl (fun _ piece => piece.stop.offset) piece.stop.offset =
      (pieces.getLastD piece).stop.offset := by
  induction pieces generalizing piece with
  | nil => rfl
  | cons next pieces ih => rw [List.foldl_cons, ih next, List.getLastD_cons]

/-- The last piece that has been passed ends where the parser has consumed its source. -/
theorem Passed.consumed_cons (h : Passed p (piece :: pieces) q) :
    q.consumed = (pieces.getLastD piece).stop.offset := by
  rw [h.consumed, List.foldl_cons, foldl_stop_cons]

/-! ## The pieces in front of a parser -/

/-- In front of a parser are pieces up to the end of the text. -/
def Views (p : Parser) (pieces : List Spanned) : Prop :=
  ∃ spans q, Walks p spans q ∧ Endless (spans.map Spanned.token) ∧
    q.current.token = .endOfText ∧ splitAngles 0 spans = pieces

/-- A parser that is not at the end of the text has its next token in front of it. -/
theorem Views.exists_cons (hp : Views p pieces) (hend : p.current.token ≠ .endOfText) :
    ∃ q r rest, Gives advance p () q ∧ Walks q rest r ∧ Endless (rest.map Spanned.token) ∧
      r.current.token = .endOfText ∧
      brackets p.current ++ splitAngles (bracesBehind 0 p.current.token) rest = pieces := by
  obtain ⟨spans, r, hwalks, hends, hr, hsplit⟩ := hp
  cases hwalks with
  | nil => exact absurd hr hend
  | @cons _ q _ rest ha hwalks =>
      exact ⟨q, r, rest, ha, hwalks, (endless_cons.mp hends).2, hr, hsplit⟩

theorem Views.ne_endOfText (hp : Views p (piece :: more)) : p.current.token ≠ .endOfText := by
  obtain ⟨spans, q, hwalks, hends, -, hsplit⟩ := hp
  cases hwalks with
  | nil => cases hsplit
  | cons _ _ => exact (endless_cons.mp hends).1

theorem views_nil_of_endOfText (hp : p.current.token = .endOfText) : Views p [] :=
  ⟨[], p, .nil p, List.not_mem_nil, hp, rfl⟩

theorem brackets_ne_nil : brackets spanned ≠ [] := by
  unfold brackets
  split <;> simp

theorem Views.endOfText_of_nil (hp : Views p []) : p.current.token = .endOfText := by
  by_contra hend
  obtain ⟨q, r, rest, -, -, -, -, hsplit⟩ := hp.exists_cons hend
  exact brackets_ne_nil (List.append_eq_nil_iff.mp hsplit).1

/-- A token of one piece is passed as a whole. -/
theorem views_advance (ha : Gives advance p () q) (hend : p.current.token ≠ .endOfText)
    (hone : brackets p.current = [p.current]) (hbraces : Braceless p.current.token) :
    Views p pieces ↔ ∃ more, pieces = p.current :: more ∧ Views q more := by
  constructor
  · intro hp
    obtain ⟨q', r, rest, ha', hwalks, hends, hr, hsplit⟩ := hp.exists_cons hend
    obtain ⟨-, rfl⟩ := ha.eq_of_gives ha'
    rw [hone, bracesBehind_of_braceless hbraces] at hsplit
    exact ⟨_, hsplit.symm, rest, r, hwalks, hends, hr, rfl⟩
  · rintro ⟨more, rfl, spans, r, hwalks, hends, hr, rfl⟩
    refine ⟨p.current :: spans, r, .cons ha hwalks, endless_cons.mpr ⟨hend, hends⟩, hr, ?_⟩
    rw [splitAngles, if_pos rfl, hone, bracesBehind_of_braceless hbraces]
    rfl

/-- A parser whose next token has been taken apart moves on to the same places. -/
theorem gives_advance_congr (hlexer : q.lexer = p.lexer) (hstop : q.current.stop = p.current.stop) :
    Gives advance q () r ↔ Gives advance p () r := by
  rw [gives_advance, gives_advance, hlexer, hstop]

theorem braceless_of_splits (h : Splits sign left) :
    Braceless (.sign sign) ∧ Braceless (.sign left) := by
  cases h <;> simp [Braceless]

/-- The first bracket of a shift sign is a piece of its own. -/
theorem views_splitAngle (hsplits : Splits sign left) (ht : p.current.token = .sign sign)
    (h : Gives (splitAngle left) p () q) :
    Views p pieces ↔ ∃ more, Views q more ∧
      pieces = ⟨.sign .greater, p.current.start, p.current.start.step '>'⟩ :: more := by
  obtain ⟨hbraces, hbraces'⟩ := braceless_of_splits hsplits
  have hbrackets := brackets_of_splits_token hsplits ht
  have hsame : ∀ {r}, Gives advance q () r ↔ Gives advance p () r := by
    cases h
    exact gives_advance_congr rfl rfl
  cases h
  constructor
  · intro hp
    obtain ⟨q, r, rest, ha, hwalks, hends, hr, hsplit⟩ := hp.exists_cons (by simp [ht])
    rw [ht, bracesBehind_of_braceless hbraces, hbrackets] at hsplit
    refine ⟨_, ⟨_, r, .cons (hsame.mpr ha) hwalks, ?_, hr, rfl⟩, ?_⟩
    · exact endless_cons.mpr ⟨by simp, hends⟩
    · rw [splitAngles, if_pos rfl, bracesBehind_of_braceless hbraces']
      exact hsplit.symm
  · rintro ⟨more, hq, rfl⟩
    obtain ⟨q, r, rest, ha, hwalks, hends, hr, hsplit⟩ := hq.exists_cons (by simp)
    rw [bracesBehind_of_braceless hbraces'] at hsplit
    refine ⟨_, r, .cons (hsame.mp ha) hwalks, ?_, hr, ?_⟩
    · exact endless_cons.mpr ⟨by simp [ht], hends⟩
    · rw [splitAngles, if_pos rfl, ht, bracesBehind_of_braceless hbraces, hbrackets, ← hsplit]
      rfl

theorem passed_of_splitAngle (h : Gives (splitAngle left) p () q) {token : Token} :
    Passed p [⟨token, p.current.start, p.current.start.step '>'⟩] q := by
  cases h
  exact ⟨rfl, rfl, fun _ ht => nomatch ht⟩

/-- A parser has consumed pieces: it has passed them, and what is in front of it then was behind
them. -/
structure Consumes (p : Parser) (pieces : List Spanned) (q : Parser) : Prop
    extends Passed p pieces q where
  views : ∀ more, Views q more → Views p (pieces ++ more)

theorem Consumes.refl (p : Parser) : Consumes p [] p := ⟨.refl p, fun _ hp => hp⟩

theorem Consumes.trans (h : Consumes p pieces q) (h' : Consumes q more r) :
    Consumes p (pieces ++ more) r := by
  refine ⟨h.toPassed.trans h'.toPassed, fun rest hr => ?_⟩
  rw [List.append_assoc]
  exact h.views _ (h'.views _ hr)

/-! ## Reading a piece -/

theorem splits_of_gives_closingAngle (h : Gives closingAngle p () q) :
    (p.current.token = .sign .greater ∧ Gives advance p () q) ∨
      ∃ sign left, Splits sign left ∧ p.current.token = .sign sign ∧
        Gives (splitAngle left) p () q := by
  rw [closingAngle, gives_peek_bind] at h
  split at h
  · next ht => exact .inl ⟨ht, h⟩
  · next ht => exact .inr ⟨_, _, .shiftRight, ht, h⟩
  · next ht => exact .inr ⟨_, _, .shiftRightZero, ht, h⟩
  · exact absurd h not_gives_unexpected

theorem gives_closingAngle_of_splits (hsplits : Splits sign left)
    (ht : p.current.token = .sign sign) (h : Gives (splitAngle left) p () q) :
    Gives closingAngle p () q := by
  rw [closingAngle, gives_peek_bind, ht]
  cases hsplits <;> exact h

theorem brackets_of_greater (ht : spanned.token = .sign .greater) :
    brackets spanned = [spanned] := by
  refine brackets_eq_of_ne fun sign left hsplits => ?_
  rw [ht]
  cases hsplits <;> simp

/-- A closing angle bracket that is consumed is the first piece in front of the parser. -/
theorem sound_closingAngle (h : Gives closingAngle p () q) :
    ∃ piece, piece.token = .sign .greater ∧ Consumes p [piece] q := by
  rcases splits_of_gives_closingAngle h with ⟨ht, ha⟩ | ⟨sign, left, hsplits, ht, h⟩
  · refine ⟨p.current, ht, passed_of_advance ha, fun more hq => ?_⟩
    exact (views_advance ha (by simp [ht]) (brackets_of_greater ht) (by simp [ht, Braceless])).mpr
      ⟨more, rfl, hq⟩
  · refine ⟨_, rfl, passed_of_splitAngle h, fun more hq => ?_⟩
    exact (views_splitAngle hsplits ht h).mpr ⟨more, hq, rfl⟩

/-- A closing angle bracket in front of the parser is consumed, also out of a shift sign. -/
theorem exists_closingAngle_of_views (hp : Views p (piece :: more))
    (ht : piece.token = .sign .greater) :
    ∃ q, Gives closingAngle p () q ∧ Passed p [piece] q ∧ Views q more := by
  have hend := hp.ne_endOfText
  rcases brackets_eq_or_splits p.current with hone | ⟨sign, left, hsplits, hsign⟩
  · obtain ⟨q, r, rest, ha, -, -, -, hsplit⟩ := hp.exists_cons hend
    rw [hone] at hsplit
    obtain rfl : p.current = piece := (List.cons.inj hsplit).1
    obtain ⟨more', heq, hq⟩ := (views_advance ha hend hone (by simp [ht, Braceless])).mp hp
    obtain rfl := (List.cons.inj heq).2
    refine ⟨q, ?_, passed_of_advance ha, hq⟩
    rw [closingAngle, gives_peek_bind, ht]
    exact ha
  · have hgives : Gives (splitAngle left) p () _ := rfl
    obtain ⟨more', hq, heq⟩ := (views_splitAngle hsplits hsign hgives).mp hp
    obtain ⟨rfl, rfl⟩ := List.cons.inj heq
    exact ⟨_, gives_closingAngle_of_splits hsplits hsign hgives, passed_of_splitAngle hgives, hq⟩

theorem brackets_of_whole (ht : Whole spanned.token) : brackets spanned = [spanned] := by
  refine brackets_eq_of_ne fun sign left hsplits heq => ?_
  rw [heq] at ht
  cases hsplits <;> exact ht (by simp)

theorem braceless_of_whole {t : Token} (ht : Whole t) : Braceless t := by
  constructor <;> rintro rfl <;> exact ht (by simp)

/-- A whole token that is consumed is the first piece in front of the parser. -/
theorem consumes_of_advance (ha : Gives advance p () q) (ht : Whole p.current.token)
    (hend : p.current.token ≠ .endOfText) : Consumes p [p.current] q := by
  refine ⟨passed_of_advance ha, fun more hq => ?_⟩
  exact (views_advance ha hend (brackets_of_whole ht) (braceless_of_whole ht)).mpr ⟨more, rfl, hq⟩

/-- A piece that is no bracket is the next token of the parser. -/
theorem Views.current_eq (hp : Views p (piece :: more)) (ht : piece.token ≠ .sign .greater) :
    p.current = piece := by
  obtain ⟨q, r, rest, -, -, -, -, hsplit⟩ := hp.exists_cons hp.ne_endOfText
  exact (eq_of_brackets_append hsplit ht).1

/-- A whole token in front of the parser is consumed. -/
theorem exists_advance_of_views (hp : Views p (piece :: more)) (ht : Whole piece.token) :
    p.current = piece ∧ ∃ q, Gives advance p () q ∧ Views q more := by
  have hgreater : piece.token ≠ .sign .greater := fun heq => ht (by simp [heq])
  obtain rfl := hp.current_eq hgreater
  obtain ⟨q, r, rest, ha, -⟩ := hp.exists_cons hp.ne_endOfText
  obtain ⟨more', heq, hq⟩ :=
    (views_advance ha hp.ne_endOfText (brackets_of_whole ht) (braceless_of_whole ht)).mp hp
  obtain rfl := (List.cons.inj heq).2
  exact ⟨rfl, q, ha, hq⟩

/-- Pieces that do not start with some signs. -/
def Ends (signs : List Sign) (pieces : List Spanned) : Prop :=
  ∀ piece ∈ pieces.head?, ∀ sign ∈ signs, piece.token ≠ .sign sign

/-- A sign with which the pieces do not start is not the next token. -/
theorem Views.ne_of_ends {signs : List Sign} (hp : Views p pieces) (hends : Ends signs pieces)
    (hsign : sign ∈ signs) (hsplits : ∀ left, ¬Splits sign left) :
    p.current.token ≠ .sign sign := by
  intro ht
  obtain ⟨q, r, rest, -, -, -, -, rfl⟩ := hp.exists_cons (by simp [ht])
  have hone : brackets p.current = [p.current] := by
    refine brackets_eq_of_ne fun other left hother heq => ?_
    rw [ht] at heq
    cases heq
    exact hsplits left hother
  rw [hone] at hends
  exact hends p.current rfl sign hsign ht

/-! ## Configurations -/

theorem brackets_of_leftBrace (ht : spanned.token = .sign .leftBrace) :
    brackets spanned = [spanned] := by
  refine brackets_eq_of_ne fun sign left hsplits => ?_
  rw [ht]
  cases hsplits <;> simp

/-- A configuration in front of other tokens is the same before and after shift signs outside of it
have been taken apart. -/
theorem splitAngles_config {opening closing : Spanned} {ts : List Spanned} {entries : Entries}
    (hopening : opening.token = .sign .leftBrace)
    (dentries : EntrySequence (ts.map Spanned.token) entries)
    (hclosing : closing.token = .sign .rightBrace) :
    splitAngles 0 spans = opening :: (ts ++ closing :: more) ↔
      ∃ rest, spans = opening :: (ts ++ closing :: rest) ∧ splitAngles 0 rest = more := by
  have hcons : ∀ rest, splitAngles 0 (opening :: rest) = opening :: splitAngles 1 rest := by
    intro rest
    rw [splitAngles, if_pos rfl, brackets_of_leftBrace hopening, hopening]
    rfl
  have hclose : ∀ rest, splitAngles 1 (closing :: rest) = closing :: splitAngles 0 rest := by
    intro rest
    rw [splitAngles_succ_cons, hclosing]
    rfl
  constructor
  · intro h
    cases spans with
    | nil => cases h
    | cons spanned spans =>
        rw [splitAngles, if_pos rfl] at h
        obtain ⟨rfl, hbehind⟩ := eq_of_brackets_append h (by simp [hopening])
        rw [hopening] at hbehind
        obtain ⟨rest, rfl, hrest⟩ :=
          exists_of_splitAngles_eq_append (braced_entrySequence dentries) rfl hbehind
        cases rest with
        | nil => cases hrest
        | cons spanned rest =>
            rw [splitAngles_succ_cons] at hrest
            obtain ⟨rfl, hlast⟩ := List.cons.inj hrest
            rw [hclosing] at hlast
            exact ⟨rest, rfl, hlast⟩
  · rintro ⟨rest, rfl, rfl⟩
    rw [hcons, splitAngles_append_of_braced (braced_entrySequence dentries) rfl, hclose]

/-- A configuration that is read is a rule's, and its tokens are pieces as they are. -/
theorem sound_typeConfig {config : Option Entries} (h : Gives typeConfig p config q) :
    ∃ pieces, Config pieces config ∧ Consumes p pieces q := by
  unfold typeConfig at h
  obtain ⟨more, p₁, hmore, h⟩ := gives_bind.mp h
  rcases gives_accept.mp hmore with ⟨rfl, hopen⟩ | ⟨rfl, -, rfl⟩
  · obtain ⟨entries, p₂, hentries, h⟩ := gives_bind.mp h
    obtain ⟨rfl, rfl⟩ := gives_pure.mp h
    obtain ⟨_, hts, us, rfl, dentries⟩ := (soundAt _).entries (gives_objectEntries.mp hentries)
    obtain ⟨spans, hspans, hwalks⟩ := exists_walks_of_reads (hopen.trans hts)
    rw [List.singleton_append] at hspans
    obtain ⟨opening, behind, rfl, hopening, hbehind⟩ := List.map_eq_cons_iff.mp hspans
    obtain ⟨inner, last, rfl, hinner, hlast⟩ := List.map_eq_append_iff.mp hbehind
    obtain ⟨closing, rfl, hclosing⟩ := List.map_eq_singleton_iff.mp hlast
    subst hinner
    refine ⟨_, .braces hopening dentries hclosing, hwalks.passed, ?_⟩
    rintro more ⟨rest, r, hwalks', hends, hr, hsplit⟩
    refine ⟨_, r, walks_append.mpr ⟨_, hwalks, hwalks'⟩, ?_, hr, ?_⟩
    · have hendless := endless_entrySequence dentries
      simp_all [Endless]
    · simp only [List.cons_append, List.append_assoc, List.nil_append]
      exact (splitAngles_config hopening dentries hclosing).mpr ⟨rest, rfl, hsplit⟩
  · obtain ⟨rfl, rfl⟩ := gives_pure.mp h
    exact ⟨[], .none, .refl p⟩

/-- A configuration in front of the parser is read. -/
theorem exists_typeConfig_of_views {config : Option Entries} (hconfig : Config pieces config)
    (hp : Views p (pieces ++ more)) (hmore : Ends [.leftBrace] more) :
    ∃ q, Gives typeConfig p config q ∧ Passed p pieces q ∧ Views q more := by
  unfold typeConfig
  cases hconfig with
  | none =>
      have hne := hp.ne_of_ends hmore (List.mem_singleton.mpr rfl) fun _ h => nomatch h
      exact ⟨p, (gives_accept_false hne).bind (gives_pure.mpr ⟨rfl, rfl⟩), .refl p, hp⟩
  | @braces opening closing ts entries hopening dentries hclosing =>
      obtain ⟨spans, r, hwalks, hends, hr, hsplit⟩ := hp
      rw [List.cons_append, List.append_assoc] at hsplit
      obtain ⟨rest, rfl, hrest⟩ := (splitAngles_config hopening dentries hclosing).mp hsplit
      have hassoc :
          opening :: (ts ++ closing :: rest) = (opening :: (ts ++ [closing])) ++ rest := by
        simp
      rw [hassoc] at hwalks hends
      obtain ⟨q, hconfig, hwalks⟩ := walks_append.mp hwalks
      have hentries :
          Reads p (.sign .leftBrace :: (ts.map Spanned.token ++ [.sign .rightBrace])) q := by
        have hreads := hconfig.reads
        rwa [List.map_cons, List.map_append, List.map_singleton, hopening, hclosing] at hreads
      obtain ⟨ht, p₁, ha, hentries⟩ := reads_cons.mp hentries
      have hlength := left_add_length_le hentries
        (endless_append.mpr ⟨endless_entrySequence dentries, endless_sign_cons.mpr endless_nil⟩)
      have hdepth := left_le_depth p₁
      rw [List.length_append, List.length_singleton] at hlength
      have hgives := (completeAt p₁.depth).entries dentries hentries (by omega)
      refine ⟨q, ?_, hconfig.passed, rest, r, hwalks, ?_, hr, hrest⟩
      · refine (gives_accept_true (reads_sign ht ha)).bind ?_
        exact (gives_objectEntries.mpr hgives).bind (gives_pure.mpr ⟨rfl, rfl⟩)
      · rw [List.map_append] at hends
        exact (endless_append.mp hends).2

end Parser
end Guest
