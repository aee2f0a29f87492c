import Guest.Proofs.Token.Slices
import Guest.Proofs.TypeExpr.Exactness

/-!
# The source texts of types

Every type of a union keeps its source text, and the text is a type expression of its own: it is
read as the type alone.  The text is a slice of the source that starts at a token and ends behind a
piece of one, so the last shift sign of the source may be cut in the slice.  The pieces of the slice
are those of the source at other places, and a derivation does not depend on places but through the
texts between them.
-/

namespace Guest

namespace TypeGrammar

open Grammar

variable {source : List Char} {pieces front back us : List Spanned} {piece spanned : Spanned}
  {spans : List Spanned} {depth : Nat} {union : TypeUnion} {t : TypeTerm}

/-! ## Where a type stands in a derivation -/

theorem braced_config {config : Option Entries} (h : Config pieces config) :
    Braced (pieces.map Spanned.token) := by
  cases h with
  | none => exact .nil
  | braces hopening dentries hclosing =>
      rw [List.map_cons, List.map_append, hopening, List.map_singleton, hclosing]
      exact .braces (braced_entrySequence dentries) .nil

theorem braced_piece {sign : Sign} (ht : piece.token = .sign sign)
    (hsign : sign ≠ .leftBrace ∧ sign ≠ .rightBrace) {ts : List Token} (h : Braced ts) :
    Braced (piece.token :: ts) := by
  rw [ht]
  exact braced_sign hsign h

mutual

theorem braced_union {pieces : List Spanned} {union : TypeUnion} :
    Union source pieces union → Braced (pieces.map Spanned.token)
  | .last hterm => braced_term hterm
  | .more hterm ht hrest => by
      rw [List.map_append]
      exact (braced_term hterm).append (braced_piece ht (by decide) (braced_union hrest))

theorem braced_term {pieces : List Spanned} {t : TypeTerm} :
    Term source pieces t → Braced (pieces.map Spanned.token)
  | .named ht htemplate hconfig => by
      rw [List.map_cons, List.map_append, ht]
      exact .cons (by simp [Braceless]) ((braced_angled htemplate).append (braced_config hconfig))

theorem braced_angled {pieces : List Spanned} {template : List TypeUnion} :
    Angled source pieces template → Braced (pieces.map Spanned.token)
  | .none => .nil
  | .angles hopening hunions hclosing => by
      rw [List.map_cons, List.map_append]
      refine braced_piece hopening (by decide) ((braced_unions hunions).append ?_)
      exact braced_piece hclosing (by decide) .nil

theorem braced_unions {pieces : List Spanned} {template : List TypeUnion} :
    Unions source pieces template → Braced (pieces.map Spanned.token)
  | .last hunion => braced_union hunion
  | .more hunion ht hrest => by
      rw [List.map_append]
      exact (braced_union hunion).append (braced_piece ht (by decide) (braced_unions hrest))

end

/-- A part of pieces derives something, and the braces in front of it stand in pairs. -/
def Within (rule : List Spanned → Prop) (pieces : List Spanned) : Prop :=
  ∃ front us back, pieces = front ++ (us ++ back) ∧ Braced (front.map Spanned.token) ∧ rule us

theorem within_self {rule : List Spanned → Prop} (h : rule pieces) : Within rule pieces :=
  ⟨[], pieces, [], by simp, .nil, h⟩

theorem Within.mono {rule rule' : List Spanned → Prop} (h : Within rule pieces)
    (hrule : ∀ us, rule us → Within rule' us) : Within rule' pieces := by
  obtain ⟨front, us, back, rfl, hfront, hus⟩ := h
  obtain ⟨front', us', back', rfl, hfront', hus'⟩ := hrule us hus
  refine ⟨front ++ front', us', back' ++ back, by simp, ?_, hus'⟩
  rw [List.map_append]
  exact hfront.append hfront'

theorem Within.behind {rule : List Spanned → Prop} (h : Within rule pieces) (front : List Spanned)
    (hfront : Braced (front.map Spanned.token)) (back : List Spanned) :
    Within rule (front ++ (pieces ++ back)) := by
  obtain ⟨front', us, back', rfl, hfront', hus⟩ := h
  refine ⟨front ++ front', us, back' ++ back, by simp, ?_, hus⟩
  rw [List.map_append]
  exact hfront.append hfront'

/-- Every member of a union derives from a part of the pieces of the union. -/
theorem within_of_mem_union (h : Union source pieces union) (ht : t ∈ union) :
    Within (Term source · t) pieces := by
  induction union generalizing pieces with
  | nil => cases ht
  | cons first rest ih =>
      cases h with
      | last hterm =>
          obtain rfl := List.mem_singleton.mp ht
          exact within_self hterm
      | @more ts bar us _ _ hterm hbar hrest =>
          rcases List.mem_cons.mp ht with rfl | ht
          · exact (within_self hterm).behind [] .nil _
          · have hfront : Braced ((ts ++ [bar]).map Spanned.token) := by
              rw [List.map_append]
              exact (braced_term hterm).append (braced_piece hbar (by decide) .nil)
            have hwithin := (ih hrest ht).behind _ hfront []
            simpa using hwithin

/-- Every argument of a template derives from a part of the pieces of the arguments. -/
theorem within_of_mem_unions {unions : List TypeUnion} (h : Unions source pieces unions)
    (hunion : union ∈ unions) : Within (Union source · union) pieces := by
  induction unions generalizing pieces with
  | nil => cases hunion
  | cons first rest ih =>
      cases h with
      | last hfirst =>
          obtain rfl := List.mem_singleton.mp hunion
          exact within_self hfirst
      | @more ts comma us _ _ hfirst hcomma hrest =>
          rcases List.mem_cons.mp hunion with rfl | hunion
          · exact (within_self hfirst).behind [] .nil _
          · have hfront : Braced ((ts ++ [comma]).map Spanned.token) := by
              rw [List.map_append]
              exact (braced_union hfirst).append (braced_piece hcomma (by decide) .nil)
            have hwithin := (ih hrest hunion).behind _ hfront []
            simpa using hwithin

/-- Every argument of a type derives from a part of the pieces of the type. -/
theorem within_of_mem_template (h : Term source pieces t) (hunion : union ∈ t.template) :
    Within (Union source · union) pieces := by
  cases h with
  | @named name text ts us template config ht htemplate hconfig =>
      cases htemplate with
      | none => cases hunion
      | @angles opening ts closing _ hopening hunions hclosing =>
          have hfront : Braced ([name, opening].map Spanned.token) := by
            rw [List.map_cons, ht]
            exact .cons (by simp [Braceless]) (braced_piece hopening (by decide) .nil)
          have hwithin := (within_of_mem_unions hunions hunion).behind _ hfront (closing :: us)
          simpa using hwithin

end TypeGrammar

namespace TypeUnion

/-- The types of a union: its members and the types of their arguments. -/
inductive Contains : TypeUnion → TypeTerm → Prop where
  | member {union : TypeUnion} {t : TypeTerm} :
      t ∈ union → Contains union t
  | argument {union argument : TypeUnion} {u t : TypeTerm} :
      u ∈ union → argument ∈ u.template → Contains argument t → Contains union t

end TypeUnion

namespace TypeGrammar

variable {source : List Char} {pieces : List Spanned} {union : TypeUnion} {t : TypeTerm}

theorem within_of_contains (h : Union source pieces union) (ht : union.Contains t) :
    Within (Term source · t) pieces := by
  induction ht generalizing pieces with
  | member ht => exact within_of_mem_union h ht
  | argument hu hargument _ ih =>
      refine (within_of_mem_union h hu).mono fun us hus => ?_
      exact (within_of_mem_template hus hargument).mono fun vs hvs => ih hvs

/-! ## Tokens and pieces behind others -/

open Grammar

variable {front back us : List Spanned} {piece spanned : Spanned} {spans : List Spanned}
  {depth : Nat}

/-- The pieces of a token where so many braces are open. -/
def piecesOf (depth : Nat) (spanned : Spanned) : List Spanned :=
  if depth = 0 then brackets spanned else [spanned]

theorem splitAngles_cons :
    splitAngles depth (spanned :: spans) =
      piecesOf depth spanned ++ splitAngles (bracesBehind depth spanned.token) spans := rfl

/-- A token is one piece, or it is a shift sign outside of braces. -/
theorem piecesOf_eq_or_splits (depth : Nat) (spanned : Spanned) :
    piecesOf depth spanned = [spanned] ∨
      depth = 0 ∧ ∃ sign left, Splits sign left ∧ spanned.token = .sign sign := by
  unfold piecesOf
  split
  · next hdepth =>
      rcases brackets_eq_or_splits spanned with hone | hsplits
      · exact .inl hone
      · exact .inr ⟨hdepth, hsplits⟩
  · exact .inl rfl

theorem greater_of_mem_brackets {sign left : Sign} (hsplits : Splits sign left)
    (ht : spanned.token = .sign sign) (hpiece : piece ∈ brackets spanned) :
    piece.token = .sign .greater := by
  unfold brackets at hpiece
  rw [ht] at hpiece
  cases hsplits with
  | shiftRight =>
      simp only [List.mem_cons, List.not_mem_nil, or_false] at hpiece
      rcases hpiece with rfl | rfl <;> rfl
  | shiftRightZero =>
      simp only [List.mem_cons, List.not_mem_nil, or_false] at hpiece
      rcases hpiece with rfl | rfl | rfl <;> rfl

/-- Taking a token apart does not change how many braces are open behind it. -/
theorem foldl_bracesBehind_piecesOf (depth n : Nat) (spanned : Spanned) :
    ((piecesOf depth spanned).map Spanned.token).foldl bracesBehind n =
      bracesBehind n spanned.token := by
  rcases piecesOf_eq_or_splits depth spanned with hone | ⟨rfl, sign, left, hsplits, ht⟩
  · rw [hone]
    rfl
  · rw [piecesOf, if_pos rfl, brackets, ht]
    cases hsplits <;> rfl

theorem foldl_bracesBehind_of_braced {ts : List Token} (h : Braced ts) (depth : Nat) :
    ts.foldl bracesBehind depth = depth := by
  induction h generalizing depth with
  | nil => rfl
  | cons ht _ ih => rw [List.foldl_cons, bracesBehind_of_braceless ht, ih]
  | braces _ _ ihinner ih =>
      rw [List.foldl_cons, List.foldl_append, List.foldl_cons, ihinner, ih]
      rfl

/-- A piece that is no bracket is a token, and the pieces from there on are those of the tokens from
there on. -/
theorem exists_spans_behind (h : splitAngles depth spans = front ++ piece :: us)
    (ht : piece.token ≠ .sign .greater) :
    ∃ before behind, spans = before ++ piece :: behind ∧
      splitAngles ((front.map Spanned.token).foldl bracesBehind depth) (piece :: behind) =
        piece :: us := by
  induction spans generalizing depth front with
  | nil => exact absurd h.symm (by simp [splitAngles])
  | cons spanned spans ih =>
      -- The piece is behind the first token.
      have hlater {front' : List Spanned} (hfront : front = piecesOf depth spanned ++ front')
          (hrest : splitAngles (bracesBehind depth spanned.token) spans = front' ++ piece :: us) :
          ∃ before behind, spanned :: spans = before ++ piece :: behind ∧
            splitAngles ((front.map Spanned.token).foldl bracesBehind depth) (piece :: behind) =
              piece :: us := by
        obtain ⟨before, behind, rfl, hbehind⟩ := ih hrest
        refine ⟨spanned :: before, behind, rfl, ?_⟩
        rwa [hfront, List.map_append, List.foldl_append, foldl_bracesBehind_piecesOf]
      rw [splitAngles_cons] at h
      rcases List.append_eq_append_iff.mp h with ⟨front', hfront, hrest⟩ | ⟨bits, hbits, hrest⟩
      · exact hlater hfront hrest
      · cases bits with
        | nil =>
            rw [List.append_nil] at hbits
            exact @hlater [] (by rw [hbits, List.append_nil]) hrest.symm
        | cons bit more =>
            obtain ⟨rfl, rfl⟩ := List.cons.inj hrest
            rcases piecesOf_eq_or_splits depth spanned with hone | ⟨rfl, sign, left, hsplits, hs⟩
            · rw [hone] at hbits
              cases front with
              | nil =>
                  obtain ⟨rfl, rfl⟩ := List.cons.inj hbits
                  refine ⟨[], spans, rfl, ?_⟩
                  rw [List.map_nil, List.foldl_nil, splitAngles_cons, hone]
                  rfl
              | cons other front => exact absurd (List.cons.inj hbits).2 (by simp)
            · have hmem : piece ∈ piecesOf 0 spanned := by
                rw [hbits]
                exact List.mem_append_right _ List.mem_cons_self
              exact absurd (greater_of_mem_brackets hsplits hs hmem) ht

/-! ## Pieces at other places -/

/-- A piece stands so many characters further on than another one, which is inside of a text. -/
structure Moved (n limit : Nat) (piece' piece : Spanned) : Prop where
  token : piece'.token = piece.token
  start : piece.start.offset = n + piece'.start.offset
  stop : piece.stop.offset = n + piece'.stop.offset
  inside : piece'.stop.offset ≤ limit

variable {n limit : Nat} {spanned' : Spanned} {us' : List Spanned}

theorem moved_brackets (h : Moved n limit spanned' spanned)
    (hsign : ∀ sign, spanned'.token = .sign sign →
      spanned'.start.offset + sign.text.toList.length ≤ limit) :
    List.Forall₂ (Moved n limit) (brackets spanned') (brackets spanned) := by
  have hstart := h.start
  have hstop := h.stop
  have hinside := h.inside
  unfold brackets
  rw [← h.token]
  split
  · next ht =>
      have hlength : spanned'.start.offset + 2 ≤ limit := hsign _ ht
      refine .cons ⟨rfl, hstart, ?_, ?_⟩ (.cons ⟨rfl, ?_, hstop, hinside⟩ .nil)
      all_goals
        simp only [Position.offset_step]
        omega
  · next ht =>
      have hlength : spanned'.start.offset + 3 ≤ limit := hsign _ ht
      refine .cons ⟨rfl, hstart, ?_, ?_⟩
        (.cons ⟨rfl, ?_, ?_, ?_⟩ (.cons ⟨rfl, ?_, hstop, hinside⟩ .nil))
      all_goals
        simp only [Position.offset_step]
        omega
  · exact .cons h .nil

theorem moved_piecesOf (h : Moved n limit spanned' spanned)
    (hsign : ∀ sign, spanned'.token = .sign sign →
      spanned'.start.offset + sign.text.toList.length ≤ limit) :
    List.Forall₂ (Moved n limit) (piecesOf depth spanned') (piecesOf depth spanned) := by
  unfold piecesOf
  split
  · exact moved_brackets h hsign
  · exact .cons h .nil

/-- Where the last of some pieces stops. -/
def stopOf (offset : Nat) (pieces : List Spanned) : Nat :=
  pieces.foldl (fun _ piece => piece.stop.offset) offset

theorem stopOf_append {offset : Nat} {more : List Spanned} :
    stopOf offset (us ++ more) = stopOf (stopOf offset us) more := List.foldl_append

theorem stopOf_congr {offset offset' : Nat} (h : us ≠ []) :
    stopOf offset us = stopOf offset' us := by
  cases us with
  | nil => exact absurd rfl h
  | cons piece us => rfl

theorem stopOf_piecesOf {offset : Nat} :
    stopOf offset (piecesOf depth spanned) = spanned.stop.offset := by
  unfold piecesOf brackets
  split
  · split <;> rfl
  · rfl

/-- Some first brackets of a shift sign are a sign of their own. -/
theorem exists_first_brackets {sign left : Sign} {more : List Spanned}
    (hsplits : Splits sign left) (ht : spanned.token = .sign sign)
    (h : brackets spanned = us ++ piece :: more) (hne : us ≠ []) :
    ∃ part w w', sign.text.toList = w ++ w' ∧ w ≠ [] ∧
      Lexeme.scan .extended w = ⟨w.length, .ok (.sign part)⟩ ∧
      stopOf spanned.start.offset us = spanned.start.offset + w.length ∧
      ∀ n limit start stop, spanned.start.offset = n + start.offset →
        stop.offset = start.offset + w.length → stop.offset ≤ limit →
          List.Forall₂ (Moved n limit) (brackets ⟨.sign part, start, stop⟩) us := by
  have hone : ∀ n limit start stop, spanned.start.offset = n + start.offset →
      stop.offset = start.offset + 1 → stop.offset ≤ limit →
        List.Forall₂ (Moved n limit) (brackets ⟨.sign .greater, start, stop⟩)
          [⟨.sign .greater, spanned.start, spanned.start.step '>'⟩] := by
    intro n limit start stop hstart hstop hlimit
    refine .cons ⟨rfl, hstart, ?_, hlimit⟩ .nil
    rw [Position.offset_step, hstop, hstart, Nat.add_assoc]
  unfold brackets at h
  rw [ht] at h
  cases hsplits with
  | shiftRight =>
      match us, hne with
      | [first], _ =>
          obtain ⟨rfl, -⟩ := List.cons.inj h
          exact ⟨.greater, ['>'], ['>'], rfl, List.cons_ne_nil _ _, rfl,
            Position.offset_step _ _, hone⟩
      | first :: second :: us, _ => simp at h
  | shiftRightZero =>
      match us, hne with
      | [first], _ =>
          obtain ⟨rfl, -⟩ := List.cons.inj h
          exact ⟨.greater, ['>'], ['>', '>'], rfl, List.cons_ne_nil _ _, rfl,
            Position.offset_step _ _, hone⟩
      | [first, second], _ =>
          obtain ⟨rfl, hmore⟩ := List.cons.inj h
          obtain ⟨rfl, -⟩ := List.cons.inj hmore
          refine ⟨.shiftRight, ['>', '>'], ['>'], rfl, List.cons_ne_nil _ _, rfl, ?_, ?_⟩
          · simp [stopOf, Position.offset_step]
          · intro n limit start stop hstart hstop hlimit
            have hlength : stop.offset = start.offset + 2 := hstop
            refine .cons ⟨rfl, hstart, ?_, ?_⟩ (.cons ⟨rfl, ?_, ?_, hlimit⟩ .nil)
            all_goals
              simp only [Position.offset_step]
              omega
      | first :: second :: third :: us, _ => simp at h

/-! ## The pieces of a slice -/

open Lexeme Lexer Position

variable {pre mid s gap w rest : List Char} {t : Token}

/-- A front of the text behind `mid` has some pieces, which stand in a longer source with `pre`
before it: it is read on its own as far as the last of the pieces. -/
def HasSlice (pre mid s : List Char) (depth : Nat) (us : List Spanned) : Prop :=
  ∃ x tail spans last, s = x ++ tail ∧ Scans .extended mid x (spans.map .ok ++ [.ok last]) ∧
    last.token = .endOfText ∧
    List.Forall₂ (Moved pre.length (mid ++ x).length) (splitAngles depth spans) us ∧
    stopOf (pre ++ mid).length us = (pre ++ mid ++ x).length

theorem hasSlice_nil : HasSlice pre mid s depth [] := by
  refine ⟨[], s, [], _, rfl, .endOfText (List.forall_mem_nil _), rfl, .nil, ?_⟩
  rw [List.append_nil]
  rfl

/-- The span of a word behind a text. -/
def spanOf (t : Token) (before w : List Char) : Spanned :=
  ⟨t, start.advance before, start.advance (before ++ w)⟩

theorem moved_spanOf {before : List Char} (h : (before ++ w).length ≤ limit) :
    Moved pre.length limit (spanOf t before w) (spanOf t (pre ++ before) w) := by
  refine ⟨rfl, ?_, ?_, ?_⟩
  · rw [spanOf, spanOf, offset_start_advance, offset_start_advance, List.length_append]
  · rw [spanOf, spanOf, offset_start_advance, offset_start_advance, List.append_assoc,
      List.length_append]
  · rwa [spanOf, offset_start_advance]

/-- All pieces of the first token of a text, and pieces behind it. -/
theorem hasSlice_token (hfront : Front .extended s gap w rest t) (ht : t ≠ .endOfText)
    (h : HasSlice pre (mid ++ gap ++ w) rest (bracesBehind depth t) us) :
    HasSlice pre mid s depth (piecesOf depth (spanOf t (pre ++ mid ++ gap) w) ++ us) := by
  obtain ⟨x, tail, spans, last, rfl, hscans, hlast, hmoved, hstop⟩ := h
  have hw := hfront.ne_nil ht
  have hlength : (mid ++ (gap ++ (w ++ x))).length = (mid ++ gap ++ w ++ x).length := by
    simp only [List.append_assoc]
  have hfront' : Front .extended (gap ++ (w ++ x)) gap w x t := by
    refine ⟨rfl, hfront.blank, ?_, scan_congr hfront.scan hw ?_⟩
    · cases w with
      | nil => exact absurd rfl hw
      | cons c more => exact starts_cons.mpr (starts_cons.mp hfront.visible)
    · cases x with
      | nil => exact starts_nil
      | cons c x => exact starts_cons.mpr (.inl rfl)
  refine ⟨gap ++ (w ++ x), tail, spanOf t (mid ++ gap) w :: spans, last, ?_,
    .token hfront' ht hscans, hlast, ?_, ?_⟩
  · rw [hfront.split, List.append_assoc, List.append_assoc]
  · rw [splitAngles_cons, hlength]
    refine List.rel_append (moved_piecesOf ?_ ?_) hmoved
    · rw [List.append_assoc pre]
      exact moved_spanOf (by simp)
    · intro sign hsign
      obtain rfl : t = .sign sign := hsign
      rw [← TypeUnion.eq_text_of_scan hw hfront.scan, spanOf, offset_start_advance]
      simp only [List.length_append]
      omega
  · rw [stopOf_append, stopOf_piecesOf, spanOf, offset_start_advance]
    simpa only [List.append_assoc] using hstop

/-- Some first brackets of a shift sign in front of a text. -/
theorem hasSlice_brackets {sign left : Sign} {more : List Spanned}
    (hfront : Front .extended s gap w rest (.sign sign)) (hsplits : Splits sign left)
    (h : brackets (spanOf (.sign sign) (pre ++ mid ++ gap) w) = us ++ piece :: more)
    (hne : us ≠ []) : HasSlice pre mid s 0 us := by
  obtain ⟨part, v, v', hsplit, hv, hscan, hstop, hmoved⟩ :=
    exists_first_brackets hsplits rfl h hne
  have hw := TypeUnion.eq_text_of_scan (hfront.ne_nil (by simp)) hfront.scan
  rw [hsplit] at hw
  subst hw
  have hfront' : Front .extended (gap ++ v) gap v [] (.sign part) := by
    refine ⟨by rw [List.append_nil], hfront.blank, ?_, by rw [List.append_nil]; exact hscan⟩
    cases v with
    | nil => exact absurd rfl hv
    | cons c more => exact starts_cons.mpr (starts_cons.mp hfront.visible)
  refine ⟨gap ++ v, v' ++ rest, [spanOf (.sign part) (mid ++ gap) v], _, ?_,
    .token hfront' (by simp) (.endOfText (List.forall_mem_nil _)), rfl, ?_, ?_⟩
  · rw [hfront.split]
    simp
  · rw [splitAngles_cons, splitAngles, List.append_nil, piecesOf, if_pos rfl]
    refine hmoved _ _ _ _ ?_ ?_ ?_
    · simp only [spanOf, offset_start_advance, List.length_append, Nat.add_assoc]
    · rw [offset_start_advance, offset_start_advance, List.length_append]
    · rw [offset_start_advance, List.append_assoc]
  · rw [stopOf_congr hne, hstop, spanOf, offset_start_advance]
    simp only [List.length_append]
    omega

/-- Wherever the pieces of a source are divided, those in front are the pieces of a slice. -/
theorem hasSlice_of_scans {last : Spanned}
    (h : Scans .extended (pre ++ mid) s (spans.map .ok ++ [.ok last]))
    (hsplit : splitAngles depth spans = us ++ back) : HasSlice pre mid s depth us := by
  induction spans generalizing mid s depth us with
  | nil =>
      obtain rfl := (List.append_eq_nil_iff.mp hsplit.symm).1
      exact hasSlice_nil
  | cons spanned spans ih =>
      rw [List.map_cons, List.cons_append] at h
      generalize hitems : _ :: _ = items at h
      cases h with
      | fault => exact absurd (List.cons.inj hitems).1 (by simp)
      | endOfText => exact absurd (List.cons.inj hitems).2 (by simp)
      | @token _ _ gap w rest t _ hfront ht hrest =>
          obtain ⟨hspanned, rfl⟩ := List.cons.inj hitems
          obtain rfl : spanned = spanOf t (pre ++ mid ++ gap) w := Except.ok.inj hspanned
          have hassoc : pre ++ mid ++ gap ++ w = pre ++ (mid ++ gap ++ w) := by simp
          rw [hassoc] at hrest
          -- All pieces of the first token are in front.
          have hwhole {us' : List Spanned}
              (hus : us = piecesOf depth (spanOf t (pre ++ mid ++ gap) w) ++ us')
              (hbehind : splitAngles (bracesBehind depth t) spans = us' ++ back) :
              HasSlice pre mid s depth us := by
            rw [hus]
            exact hasSlice_token hfront ht (ih hrest hbehind)
          rw [splitAngles_cons] at hsplit
          rcases List.append_eq_append_iff.mp hsplit with ⟨us', hus, hbehind⟩ | ⟨bits, hbits, hback⟩
          · exact hwhole hus hbehind
          · cases bits with
            | nil =>
                rw [List.append_nil] at hbits
                exact @hwhole [] (by rw [hbits, List.append_nil]) hback.symm
            | cons piece more =>
                by_cases hne : us = []
                · rw [hne]
                  exact hasSlice_nil
                · rcases piecesOf_eq_or_splits depth (spanOf t (pre ++ mid ++ gap) w) with
                    hone | ⟨rfl, sign, left, hsplits, hsign⟩
                  · rw [hone] at hbits
                    cases us with
                    | nil => exact absurd rfl hne
                    | cons first us => exact absurd (List.cons.inj hbits).2 (by simp)
                  · obtain rfl : t = .sign sign := hsign
                    exact hasSlice_brackets hfront hsplits hbits hne

/-! ## Derivations at other places -/

section Transport

variable {x tail : List Char} {first first' : Spanned} {more more' pieces' : List Spanned}

theorem token_eq_of_moved (h : List.Forall₂ (Moved n limit) us' us) :
    us'.map Spanned.token = us.map Spanned.token := by
  induction h with
  | nil => rfl
  | cons hpiece _ ih => rw [List.map_cons, List.map_cons, hpiece.token, ih]

theorem moved_getLastD (h : List.Forall₂ (Moved n limit) more' more)
    (hfirst : Moved n limit first' first) :
    Moved n limit (more'.getLastD first') (more.getLastD first) := by
  induction h generalizing first' first with
  | nil => exact hfirst
  | cons hpiece _ ih =>
      rw [List.getLastD_cons, List.getLastD_cons]
      exact ih hpiece

/-- Pieces of a slice have the text of the pieces of the source between them. -/
theorem textOf_moved (h : List.Forall₂ (Moved pre.length x.length) more' more)
    (hfirst : Moved pre.length x.length first' first) :
    textOf (pre ++ (x ++ tail)) first more = textOf x first' more' := by
  have hlast := moved_getLastD h hfirst
  rw [textOf, textOf, hfirst.start, hlast.stop, List.take_length_add_append,
    List.drop_length_add_append, List.take_append_of_le_length hlast.inside]

theorem exists_append_of_forall₂ {R : Spanned → Spanned → Prop}
    (h : List.Forall₂ R pieces' (us ++ more)) :
    ∃ us' more', pieces' = us' ++ more' ∧ List.Forall₂ R us' us ∧ List.Forall₂ R more' more :=
  ⟨_, _, (List.take_append_drop us.length pieces').symm, List.forall₂_take_append _ _ _ h,
    List.forall₂_drop_append _ _ _ h⟩

theorem config_moved {config : Option Entries} (h : Config pieces config)
    (hmoved : List.Forall₂ (Moved n limit) pieces' pieces) : Config pieces' config := by
  cases h with
  | none =>
      cases hmoved
      exact .none
  | braces hopening dentries hclosing =>
      cases hmoved with
      | cons hfirst hmore =>
          obtain ⟨ts', last', rfl, hts, hlast⟩ := exists_append_of_forall₂ hmore
          cases hlast with
          | cons hlast hnil =>
              cases hnil
              rw [← token_eq_of_moved hts] at dentries
              exact .braces (hfirst.token.trans hopening) dentries (hlast.token.trans hclosing)

mutual

theorem union_moved {pieces pieces' : List Spanned} {union : TypeUnion} :
    Union (pre ++ (x ++ tail)) pieces union →
      List.Forall₂ (Moved pre.length x.length) pieces' pieces → Union x pieces' union
  | .last hterm, hmoved => .last (term_moved hterm hmoved)
  | .more hterm hbar hrest, hmoved => by
      obtain ⟨ts', _, rfl, hts, hmore⟩ := exists_append_of_forall₂ hmoved
      cases hmore with
      | cons hpiece hus =>
          exact .more (term_moved hterm hts) (hpiece.token.trans hbar) (union_moved hrest hus)

theorem term_moved {pieces pieces' : List Spanned} {t : TypeTerm} :
    Term (pre ++ (x ++ tail)) pieces t →
      List.Forall₂ (Moved pre.length x.length) pieces' pieces → Term x pieces' t
  | .named hname htemplate hconfig, hmoved => by
      cases hmoved with
      | cons hpiece hmore =>
          rw [textOf_moved hmore hpiece]
          obtain ⟨ts', us', rfl, hts, hus⟩ := exists_append_of_forall₂ hmore
          exact .named (hpiece.token.trans hname) (angled_moved htemplate hts)
            (config_moved hconfig hus)

theorem angled_moved {pieces pieces' : List Spanned} {template : List TypeUnion} :
    Angled (pre ++ (x ++ tail)) pieces template →
      List.Forall₂ (Moved pre.length x.length) pieces' pieces → Angled x pieces' template
  | .none, hmoved => by
      cases hmoved
      exact .none
  | .angles hopening hunions hclosing, hmoved => by
      cases hmoved with
      | cons hfirst hmore =>
          obtain ⟨ts', _, rfl, hts, hlast⟩ := exists_append_of_forall₂ hmore
          cases hlast with
          | cons hlast hnil =>
              cases hnil
              exact .angles (hfirst.token.trans hopening) (unions_moved hunions hts)
                (hlast.token.trans hclosing)

theorem unions_moved {pieces pieces' : List Spanned} {template : List TypeUnion} :
    Unions (pre ++ (x ++ tail)) pieces template →
      List.Forall₂ (Moved pre.length x.length) pieces' pieces → Unions x pieces' template
  | .last hunion, hmoved => .last (union_moved hunion hmoved)
  | .more hunion hcomma hrest, hmoved => by
      obtain ⟨ts', _, rfl, hts, hmore⟩ := exists_append_of_forall₂ hmoved
      cases hmore with
      | cons hpiece hus =>
          exact .more (union_moved hunion hts) (hpiece.token.trans hcomma) (unions_moved hrest hus)

end

end Transport

/-- A type derives from pieces that start with its name, and it keeps their text. -/
theorem exists_name_of_term {source : List Char} {term : TypeTerm} (h : Term source pieces term) :
    ∃ name more, pieces = name :: more ∧ name.token = .identifier term.name ∧
      term.fullname = textOf source name more := by
  cases h with
  | named ht _ _ => exact ⟨_, _, rfl, ht, rfl⟩

theorem textOf_slice {name : Spanned} {more : List Spanned} {x tail : List Char}
    (hname : name.start.offset = pre.length)
    (hstop : (more.getLastD name).stop.offset = (pre ++ x).length) :
    textOf (pre ++ (x ++ tail)) name more = String.ofList x := by
  rw [textOf, hname, hstop, List.length_append, List.take_length_add_append, List.take_left,
    List.drop_left]

end TypeGrammar

namespace TypeUnion

open Lexer Position TypeGrammar

variable {source : String} {union : TypeUnion} {t : TypeTerm}

/-- The source text of every type of a union, at any depth, is read as the type alone. -/
theorem parse_fullname (h : parse source = .ok union) (ht : union.Contains t) :
    parse t.fullname = .ok [t] := by
  obtain ⟨spans, last, hitems, -, hunion⟩ := derives_of_parse h
  obtain ⟨front, us, back, hpieces, hfront, hterm⟩ := within_of_contains hunion ht
  obtain ⟨name, more, rfl, hname, hfullname⟩ := exists_name_of_term hterm
  -- The name is a token, so the source can be divided there.
  obtain ⟨before, behind, rfl, hbehind⟩ := exists_spans_behind hpieces (by simp [hname])
  rw [foldl_bracesBehind_of_braced hfront] at hbehind
  have hscans := items_eq_iff_scans.mp hitems
  rw [List.map_append, List.append_assoc] at hscans
  obtain ⟨taken, rest, hsource, hrest⟩ := hscans.exists_rest (by simp)
  obtain ⟨gap, s, rfl, hstart, hs⟩ := hrest.exists_visible (by simp [hname])
  have hs' : Scans .extended ([] ++ taken ++ gap ++ []) s
      ((name :: behind).map .ok ++ [.ok last]) := by
    rw [List.append_nil]
    exact hs
  have hslice : HasSlice ([] ++ taken ++ gap) [] s 0 (name :: more) :=
    hasSlice_of_scans hs' hbehind
  obtain ⟨x, tail, spans', last', rfl, hscans', hlast', hmoved, hstop⟩ := hslice
  have hsource' : source.toList = ([] ++ taken ++ gap) ++ (x ++ tail) := by
    rw [hsource]
    simp
  rw [hsource'] at hterm hfullname
  have hderives : Derives (String.ofList x) [t] := by
    refine ⟨spans', last', ?_, hlast', ?_⟩
    · rw [ofString, String.toList_ofList]
      exact items_eq_iff_scans.mpr hscans'
    · rw [String.toList_ofList]
      exact .last (term_moved hterm hmoved)
  have hname : name.start.offset = ([] ++ taken ++ gap).length := by
    rw [hstart, offset_start_advance]
  rw [stopOf, List.foldl_cons, Parser.foldl_stop_cons, List.append_nil] at hstop
  rw [hfullname, textOf_slice hname hstop]
  exact parse_of_derives hderives

/-- The text of an argument, with a shift sign in its configuration and the first bracket of
another one behind it. -/
theorem parse_fullname_argument :
    ∃ union t, parse "A<B | C <D \x7bn: 8 >> 1\x7d>>" = .ok union ∧ union.Contains t ∧
      t.fullname = "C <D \x7bn: 8 >> 1\x7d>" ∧
        parse "C <D \x7bn: 8 >> 1\x7d>" = .ok [t] := by
  obtain ⟨union, hunion, hargument⟩ := exists_ok_of_map (show
    (parse "A<B | C <D \x7bn: 8 >> 1\x7d>>").map
      (List.map fun t => t.template.map (List.map TypeTerm.fullname)) =
        .ok [[["B", "C <D \x7bn: 8 >> 1\x7d>"]]] by decide +kernel)
  obtain ⟨first, rfl, htemplate⟩ := List.map_eq_singleton_iff.mp hargument
  obtain ⟨argument, hfirst, hmembers⟩ := List.map_eq_singleton_iff.mp htemplate
  obtain ⟨t, ht, hfullname⟩ := List.mem_map.mp
    (show "C <D \x7bn: 8 >> 1\x7d>" ∈ argument.map TypeTerm.fullname by simp [hmembers])
  have hcontains : Contains [first] t :=
    .argument (List.mem_singleton_self first) (by simp [hfirst]) (.member ht)
  refine ⟨[first], t, hunion, hcontains, hfullname, ?_⟩
  rw [← hfullname]
  exact parse_fullname hunion hcontains

end TypeUnion
end Guest
