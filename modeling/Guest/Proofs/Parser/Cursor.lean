import Guest.Proofs.Expr.Depth
import Guest.Proofs.Token.Tiling
import Guest.Proofs.TypeExpr.Depth

/-!
# The cursor of a parser

A parser has consumed a part of its source and has already read the next token; the lexer stands
behind that token.  Between the two parts lie blanks.  A token may be edited in place: where types
are nested, closing angle brackets are taken from a shift sign one by one, and the rest of the sign
is the next token.

What one step does to the parts of the source is shown for consuming a token and for splitting a
sign; all functions of the parser are made of these.  So the cursor is where it should be after
every request that a caller makes, whether the request succeeded or not.
-/

namespace Guest

open Lexeme Position

namespace Lexer

variable {lexer moved : Lexer} {spanned : Spanned}

/-- What the lexer reads is the front of what it has not read yet. -/
theorem exists_front_of_next (h : lexer.next = (.ok spanned, moved)) :
    ∃ gap w rest t, Front lexer.dialect lexer.rest gap w rest t ∧
      spanned = ⟨t, lexer.position.advance gap, lexer.position.advance (gap ++ w)⟩ ∧
      moved = { lexer with rest := rest, position := lexer.position.advance (gap ++ w) } := by
  rcases front_or_fault lexer.dialect lexer.rest with
    ⟨gap, w, rest, t, hfront⟩ | ⟨gap, c, rest, fault, hsplit, hgap, hc, hscan⟩
  · have hnext := next_of_front hfront
    rw [h, ← advance_append] at hnext
    obtain ⟨hitem, hmoved⟩ := Prod.mk.inj hnext
    exact ⟨gap, w, rest, t, hfront, Except.ok.inj hitem, hmoved⟩
  · have herror := next_of_fault hsplit hgap hc hscan
    rw [h] at herror
    cases herror

end Lexer

namespace Parser

open Lexer Parse TypeGrammar

/-! ## The parts of a source -/

/-- The parts of a source in front of which a parser stands: what has been consumed, blanks, the
word of the next token, and what the lexer has not read. -/
structure Parts (source before gap w : List Char) (p : Parser) : Prop where
  split : source = before ++ gap ++ w ++ p.lexer.rest
  source_eq : p.lexer.source = source
  position : p.lexer.position = p.current.stop
  consumed : p.consumed = before.length
  blank : ∀ c ∈ gap, Text.isBlank c = true
  start : p.current.start = Position.start.advance (before ++ gap)
  stop : p.current.stop = Position.start.advance (before ++ gap ++ w)
  sign : ∀ sign, p.current.token = .sign sign → w = sign.text.toList
  aligned : p.Aligned

variable {d : Dialect} {source before gap w : List Char} {p q : Parser} {lexer moved : Lexer}
  {spanned : Spanned} {sign left : Sign}

theorem exists_parts_of_next (hsplit : source = before ++ lexer.rest)
    (hsource : lexer.source = source) (hposition : lexer.position = Position.start.advance before)
    (h : lexer.next = (.ok spanned, moved)) :
    ∃ gap w, Parts source before gap w ⟨moved, spanned, before.length⟩ := by
  have haligned : Aligned ⟨moved, spanned, before.length⟩ := aligned_of_next h
  obtain ⟨gap, w, rest, t, hfront, rfl, rfl⟩ := exists_front_of_next h
  have hsource' : source = before ++ gap ++ w ++ rest := by
    rw [hsplit, hfront.split, List.append_assoc, List.append_assoc]
  have hsign : ∀ sign, t = .sign sign → w = sign.text.toList := by
    rintro sign rfl
    exact TypeUnion.eq_text_of_scan (hfront.ne_nil (by simp)) hfront.scan
  rw [hposition, ← advance_append, ← advance_append, ← List.append_assoc] at haligned ⊢
  exact ⟨gap, w, {
    split := hsource'
    source_eq := hsource
    position := rfl
    consumed := rfl
    blank := hfront.blank
    start := rfl
    stop := rfl
    sign := hsign
    aligned := haligned }⟩

theorem exists_parts_of_ofChars (h : ofChars d source = .ok p) :
    ∃ gap w, Parts source [] gap w p := by
  obtain ⟨spanned, moved, hnext, rfl⟩ := ofLexer_eq_ok.mp h
  exact exists_parts_of_next rfl rfl rfl hnext

/-- Consuming the next token moves it and the blanks before it to what has been consumed. -/
theorem Parts.advance (hp : Parts source before gap w p) (h : Gives advance p () q) :
    ∃ gap' w', Parts source (before ++ gap ++ w) gap' w' q := by
  obtain ⟨spanned, moved, hnext, rfl⟩ := gives_advance.mp h
  have hconsumed : p.current.stop.offset = (before ++ gap ++ w).length := by
    rw [hp.stop, offset_start_advance]
  rw [hconsumed]
  exact exists_parts_of_next hp.split hp.source_eq (hp.position.trans hp.stop) hnext

/-- Splitting a shift sign moves its first bracket to what has been consumed. -/
theorem Parts.splitAngle (hp : Parts source before gap w p) (hsplits : Splits sign left)
    (ht : p.current.token = .sign sign) (h : Gives (splitAngle left) p () q) :
    Parts source (before ++ gap ++ ['>']) [] left.text.toList q := by
  have hword : w = '>' :: left.text.toList := by
    rw [hp.sign sign ht]
    cases hsplits <;> rfl
  -- A bracket ends no line, so that its line stays and its column is the next one.
  have hstart : Position.start.advance (before ++ gap ++ ['>']) =
      ⟨p.current.start.offset + 1, p.current.start.line, p.current.start.column + 1⟩ := by
    rw [advance_concat, ← hp.start]
    rfl
  have hsource : before ++ gap ++ ['>'] ++ [] ++ left.text.toList = before ++ gap ++ w := by
    rw [hword, List.append_nil, List.append_assoc, List.singleton_append]
  cases h
  exact {
    split := by
      rw [hsource]
      exact hp.split
    source_eq := hp.source_eq
    position := hp.position
    consumed := by rw [← offset_start_advance, hstart]
    blank := List.forall_mem_nil _
    start := by rw [List.append_nil, hstart]
    stop := by
      rw [hsource]
      exact hp.stop
    sign := by
      rintro _ ⟨⟩
      rfl
    aligned := nofun }

/-! ## The cursor -/

/-- The cursor of a parser in its source.  Only blanks are between the last consumed token and the
next one, and the lexer goes on where the next token ends.  The positions of the token are counted
in the source, and a sign stands where its positions say, also if it is the rest of a longer one. -/
structure Cursor (source : List Char) (p : Parser) : Prop where
  consumed_le : p.consumed ≤ p.current.start.offset
  start_le : p.current.start.offset ≤ p.current.stop.offset
  stop_eq : p.current.stop = p.lexer.position
  blank : ∀ c ∈ p.lexer.slice p.consumed p.current.start.offset, Text.isBlank c = true
  start : p.current.start.CountsIn source
  stop : p.current.stop.CountsIn source
  source_eq : p.lexer.source = source
  unread : p.lexer.rest = source.drop p.lexer.position.offset
  sign : ∀ sign, p.current.token = .sign sign →
    p.lexer.slice p.current.start.offset p.current.stop.offset = sign.text.toList

theorem Parts.cursor (hp : Parts source before gap w p) : p.Cursor source := by
  have hstart : p.current.start.offset = (before ++ gap).length := by
    rw [hp.start, offset_start_advance]
  have hstop : p.current.stop.offset = (before ++ gap ++ w).length := by
    rw [hp.stop, offset_start_advance]
  have hgap : p.lexer.slice p.consumed p.current.start.offset = gap := by
    rw [slice, hp.source_eq, hp.split, hp.consumed, hstart, List.append_assoc, List.take_left,
      List.drop_left]
  have hword : p.lexer.slice p.current.start.offset p.current.stop.offset = w := by
    rw [slice, hp.source_eq, hp.split, hstart, hstop, List.take_left, List.drop_left]
  exact {
    consumed_le := by
      rw [hp.consumed, hstart]
      exact (List.prefix_append before gap).length_le
    start_le := by
      rw [hstart, hstop]
      exact (List.prefix_append (before ++ gap) w).length_le
    stop_eq := hp.position.symm
    blank := by
      rw [hgap]
      exact hp.blank
    start := by
      rw [hp.start, hp.split, List.append_assoc]
      exact countsIn_start_advance
    stop := by
      rw [hp.stop, hp.split]
      exact countsIn_start_advance
    source_eq := hp.source_eq
    unread := by rw [hp.position, hstop, hp.split, List.drop_left]
    sign := by
      rw [hword]
      exact hp.sign }

/-- A parser stands in front of some parts of a source. -/
def Located (source : List Char) (p : Parser) : Prop :=
  ∃ before gap w, Parts source before gap w p

theorem located_of_ofChars (h : ofChars d source = .ok p) : p.Located source :=
  ⟨[], exists_parts_of_ofChars h⟩

theorem invariant_located (source : List Char) :
    SplitInvariant (Located source) fun e q => (∀ error, e ≠ .lex error) → q.Located source := by
  refine ⟨⟨?_, ?_, ?_⟩, ?_⟩
  · rintro p q ⟨before, gap, w, hp⟩ ha
    exact ⟨_, hp.advance ha⟩
  · intro p error moved _ _ q hne
    exact absurd rfl (hne error)
  · intro p expected hp _
    exact hp
  · rintro p q sign left ⟨before, gap, w, hp⟩ hsplits ht h
    exact ⟨_, _, _, hp.splitAngle hsplits ht h⟩

/-! ## Requests -/

/-- What a caller asks of a parser. -/
inductive Request where
  | advance
  | expect (token : Token)
  | check (token : Token)
  | expression
  /-- An expression that ends with the text. -/
  | wholeExpression
  /-- A type expression that ends with the text. -/
  | wholeType
  deriving DecidableEq

/-- Tells whether the next token is of a kind. -/
def check (token : Token) : Parse Bool := fun parser => .ok (parser.sees token) parser

/-- Where a step leaves the parser, whether it succeeds or not, unless its lexer fails. -/
def stop? {α : Type} (step : Parse α) (p : Parser) : Option Parser :=
  match step p with
  | .ok _ q => some q
  | .error (.lex _) _ => none
  | .error _ q => some q

/-- Where a request leaves the parser, unless its lexer fails. -/
def Request.serve? : Request → Parser → Option Parser
  | .advance => stop? Parse.advance
  | .expect token => stop? (Parse.expect token)
  | .check token => stop? (Parser.check token)
  | .expression => stop? Parse.expression
  | .wholeExpression => stop? Parse.wholeExpression
  | .wholeType => stop? Parse.wholeType

/-- The places where requests leave a parser one after the other, up to the first error of its
lexer. -/
def places : List Request → Parser → List Parser
  | [], _ => []
  | request :: rest, p =>
    match request.serve? p with
    | some q => q :: places rest q
    | none => []

section Requests

variable {α : Type} {inv : Parser → Prop} {step : Parse α} {request : Request}
  {requests : List Request}

theorem inv_of_stop? (hstep : Keeps inv (fun e q => (∀ error, e ≠ .lex error) → inv q) step)
    (hp : inv p) (h : stop? step p = some q) : inv q := by
  unfold stop? at h
  split at h
  · next hok =>
      cases h
      exact hstep.gives hp hok
  · cases h
  · next hne herror =>
      cases h
      exact hstep.fails hp herror hne

variable (hinv : SplitInvariant inv fun e q => (∀ error, e ≠ .lex error) → inv q)
include hinv

/-- A request keeps what consuming a token and splitting a sign keep. -/
theorem inv_of_serve? (hp : inv p) (h : request.serve? p = some q) : inv q := by
  cases request with
  | advance => exact inv_of_stop? (keeps_advance hinv.toInvariant) hp h
  | expect token => exact inv_of_stop? (keeps_expect hinv.toInvariant) hp h
  | check token =>
      cases h
      exact hp
  | expression => exact inv_of_stop? (keeps_expression hinv.toInvariant) hp h
  | wholeExpression => exact inv_of_stop? (keeps_wholeExpression hinv.toInvariant) hp h
  | wholeType => exact inv_of_stop? (keeps_wholeType hinv) hp h

/-- A session of requests keeps what every request keeps. -/
theorem inv_of_mem_places (hp : inv p) (hq : q ∈ p :: places requests p) : inv q := by
  induction requests generalizing p with
  | nil =>
      obtain rfl := List.mem_singleton.mp hq
      exact hp
  | cons request requests ih =>
      rcases List.mem_cons.mp hq with rfl | hq
      · exact hp
      rw [places] at hq
      split at hq
      · next hserve => exact ih (inv_of_serve? hinv hp hserve) hq
      · exact absurd hq List.not_mem_nil

end Requests

/-- The cursor of a parser is kept by every session of requests.  After each request, up to the
first error of the lexer, only blanks are between what has been consumed and the next token, which
ends where the lexer goes on and starts at the line and column that its offset determines.  Nowhere
does a request end because of the depth of its recursion. -/
theorem cursor_of_mem_places {requests : List Request} (hp : ofChars d source = .ok p)
    (hq : q ∈ p :: places requests p) :
    q.Cursor source ∧ ∀ depth, q.depth ≤ depth →
      SameAt q (expressionIn depth) expression ∧ SameAt q (unionIn depth) (unionIn q.depth) := by
  obtain ⟨before, gap, w, hparts⟩ :=
    inv_of_mem_places (invariant_located source) (located_of_ofChars hp) hq
  refine ⟨hparts.cursor, fun depth hdepth => ⟨?_, ?_⟩⟩
  · exact expressionIn_sameAt_expression hdepth
  · exact unionIn_sameAt hparts.aligned hdepth

/-- A type that ends before its text leaves the parser at the last bracket of a sign that has been
split twice, and a request that fails there leaves it where it is. -/
theorem cursor_of_mem_places_bracket :
    let source := ['M', '<', '\n', 'L', '<', 'A', '>', '>', '>', ' ', 'b']
    let first : Parser := ⟨⟨.extended, source, source.tail, ⟨1, 1, 2⟩, false⟩,
      ⟨.identifier "M", ⟨0, 1, 1⟩, ⟨1, 1, 2⟩⟩, 0⟩
    let requests := [.wholeType, .expect (.sign .comma)]
    ofChars .extended source = .ok first ∧
      ∃ q ∈ first :: places requests first,
        q.current = ⟨.sign .greater, ⟨8, 2, 6⟩, ⟨9, 2, 7⟩⟩ ∧ q.consumed = 8 ∧ q.Cursor source := by
  intro source first requests
  let bracket : Spanned := ⟨.sign .greater, ⟨8, 2, 6⟩, ⟨9, 2, 7⟩⟩
  have hfirst : ofChars .extended source = .ok first := rfl
  have hplaces : (places requests first).map (fun q => (q.current, q.consumed)) =
      [(bracket, 8), (bracket, 8)] := by decide +kernel
  obtain ⟨between, rest, hrequests, -, hrest⟩ := List.map_eq_cons_iff.mp hplaces
  obtain ⟨q, hlast, hq⟩ := List.map_eq_singleton_iff.mp hrest
  obtain ⟨hcurrent, hconsumed⟩ := Prod.mk.inj hq
  have hmem : q ∈ first :: places requests first := by
    rw [hrequests, hlast]
    exact List.mem_cons_of_mem _ (List.mem_cons_of_mem _ List.mem_cons_self)
  exact ⟨hfirst, q, hmem, hcurrent, hconsumed, (cursor_of_mem_places hfirst hmem).1⟩

end Parser
end Guest
