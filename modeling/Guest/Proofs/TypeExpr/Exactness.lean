import Guest.Proofs.TypeExpr.Pieces

/-!
# Exactness of the parser of types

A text is read as a union of types exactly if the lexer reads the whole text and its tokens, with
the closing angle brackets outside configurations taken apart, derive the union.  As for
expressions, every function of the parser is shown to follow its rule and to read all that its rule
derives.
-/

namespace Guest

namespace TypeGrammar

variable {source : List Char} {pieces : List Spanned}

theorem brackets_length_le (spanned : Spanned) : (brackets spanned).length ≤ 3 := by
  unfold brackets
  split <;> simp

theorem splitAngles_length_le (depth : Nat) (spans : List Spanned) :
    (splitAngles depth spans).length ≤ 3 * spans.length := by
  induction spans generalizing depth with
  | nil => simp [splitAngles]
  | cons spanned spans ih =>
      have hrest := ih (bracesBehind depth spanned.token)
      have hfirst := brackets_length_le spanned
      rw [splitAngles, List.length_append, List.length_cons]
      split
      · omega
      · simp only [List.length_singleton]
        omega

theorem term_length_pos {term : TypeTerm} (h : Term source pieces term) : 0 < pieces.length := by
  cases h
  simp

theorem union_length_pos {union : TypeUnion} (h : Union source pieces union) :
    0 < pieces.length := by
  cases h with
  | last hterm => exact term_length_pos hterm
  | more hterm _ _ => simp

end TypeGrammar

namespace Parse

open Guest.Parser TypeGrammar

variable {α : Type} {p q : Parser} {depth : Nat} {pieces more : List Spanned}

/-! ## Parts of rules -/

theorem gives_typeName {start : Nat} {name : String} :
    Gives typeName p (start, name) q ↔
      p.current.token = .identifier name ∧ start = p.current.start.offset ∧
        Gives advance p () q := by
  unfold Gives typeName
  split
  · next text ht =>
      cases advance p with
      | ok u r =>
          simp only [EStateM.Result.ok.injEq, Prod.mk.injEq, ht, Token.identifier.injEq]
          constructor
          · rintro ⟨⟨rfl, rfl⟩, rfl⟩
            exact ⟨rfl, rfl, trivial, rfl⟩
          · rintro ⟨rfl, rfl, -, rfl⟩
            exact ⟨⟨rfl, rfl⟩, rfl⟩
      | error e r => simp
  · next hne =>
      constructor
      · intro h
        exact absurd h not_gives_unexpected
      · rintro ⟨ht, -⟩
        exact absurd ht (hne name)

theorem gives_textFrom_iff {start : Nat} {text : String} :
    Gives (textFrom start) p text q ↔
      text = String.ofList ((p.lexer.source.take p.consumed).drop start) ∧ p = q := by
  unfold Gives textFrom Lexer.slice
  simp [eq_comm]

theorem whole_identifier {t : Token} {name : String} (ht : t = .identifier name) : Whole t := by
  subst ht
  simp [Whole]

theorem consumes_sign {sign : Sign} (h : Reads p [.sign sign] q) (hsign : Whole (.sign sign)) :
    p.current.token = .sign sign ∧ Consumes p [p.current] q := by
  obtain ⟨ht, ha⟩ := reads_singleton.mp h
  exact ⟨ht, consumes_of_advance ha (ht ▸ hsign) (by simp [ht])⟩

/-! ## Lists with a sign between their items -/

/-- One item, or an item, a sign and what a list may be. -/
inductive Separated (sign : Sign) (item : List Spanned → α → Prop)
    (items : List Spanned → List α → Prop) : List Spanned → List α → Prop where
  | last {ts a} :
      item ts a → Separated sign item items ts [a]
  | more {ts separator us a as} :
      item ts a → separator.token = .sign sign → items us as →
      Separated sign item items (ts ++ separator :: us) (a :: as)

/-- The step that reads an item, and a sign and a list if they follow. -/
def separated (item : Parse α) (sign : Sign) (items : Parse (List α)) : Parse (List α) := do
  let first ← item
  if ← accept sign then return first :: (← items) else return [first]

theorem unionIn_succ :
    unionIn (depth + 1) = separated (termIn depth) .bar (unionIn depth) := by
  rw [unionIn]
  rfl

theorem argumentsIn_succ :
    argumentsIn (depth + 1) = separated (unionIn depth) .comma (argumentsIn depth) := by
  rw [argumentsIn]
  rfl

theorem union_iff_separated {source : List Char} {union : TypeUnion} :
    Union source pieces union ↔ Separated .bar (Term source) (Union source) pieces union := by
  constructor
  · rintro (hterm | ⟨hterm, ht, hrest⟩)
    · exact .last hterm
    · exact .more hterm ht hrest
  · rintro (hterm | ⟨hterm, ht, hrest⟩)
    · exact .last hterm
    · exact .more hterm ht hrest

theorem unions_iff_separated {source : List Char} {unions : List TypeUnion} :
    Unions source pieces unions ↔
      Separated .comma (Union source) (Unions source) pieces unions := by
  constructor
  · rintro (hunion | ⟨hunion, ht, hrest⟩)
    · exact .last hunion
    · exact .more hunion ht hrest
  · rintro (hunion | ⟨hunion, ht, hrest⟩)
    · exact .last hunion
    · exact .more hunion ht hrest

/-! ## Soundness -/

/-- What a step consumes derives its result. -/
def SoundType (step : Parse α) (rule : List Char → List Spanned → α → Prop) : Prop :=
  ∀ ⦃p a q⦄, Gives step p a q → ∃ pieces, rule p.lexer.source pieces a ∧ Consumes p pieces q

/-- The functions of the parser of types follow their rules. -/
structure SoundTypeAt (depth : Nat) : Prop where
  union : SoundType (unionIn depth) Union
  term : SoundType (termIn depth) Term
  template : SoundType (templateIn depth) Angled
  arguments : SoundType (argumentsIn depth) Unions

theorem sound_separated {sign : Sign} {item : Parse α} {items : Parse (List α)}
    {itemRule : List Char → List Spanned → α → Prop}
    {itemsRule : List Char → List Spanned → List α → Prop} (hitem : SoundType item itemRule)
    (hitems : SoundType items itemsRule) (hsign : Whole (.sign sign)) :
    SoundType (separated item sign items)
      fun source => Separated sign (itemRule source) (itemsRule source) := by
  intro p as q h
  unfold separated at h
  obtain ⟨first, p₁, hfirst, h⟩ := gives_bind.mp h
  obtain ⟨ts, dfirst, hp₁⟩ := hitem hfirst
  obtain ⟨more, p₂, hmore, h⟩ := gives_bind.mp h
  rcases gives_accept.mp hmore with ⟨rfl, hread⟩ | ⟨rfl, -, rfl⟩
  · obtain ⟨ht, hp₂⟩ := consumes_sign hread hsign
    obtain ⟨rest, p₃, hrest, h⟩ := gives_bind.mp h
    obtain ⟨rfl, rfl⟩ := gives_pure.mp h
    obtain ⟨us, drest, hp₃⟩ := hitems hrest
    rw [hp₂.source, hp₁.source] at drest
    exact ⟨_, .more dfirst ht drest, hp₁.trans (hp₂.trans hp₃)⟩
  · obtain ⟨rfl, rfl⟩ := gives_pure.mp h
    exact ⟨ts, .last dfirst, hp₁⟩

theorem sound_unionIn (ih : SoundTypeAt depth) : SoundType (unionIn (depth + 1)) Union := by
  intro p union q h
  rw [unionIn_succ] at h
  obtain ⟨pieces, dunion, hp⟩ := sound_separated ih.term ih.union (by decide) h
  exact ⟨pieces, union_iff_separated.mpr dunion, hp⟩

theorem sound_termIn (ih : SoundTypeAt depth) : SoundType (termIn (depth + 1)) Term := by
  intro p term q h
  rw [termIn] at h
  obtain ⟨⟨start, name⟩, p₁, hname, h⟩ := gives_bind.mp h
  obtain ⟨ht, rfl, ha⟩ := gives_typeName.mp hname
  have hp₁ := consumes_of_advance ha (whole_identifier ht) (by simp [ht])
  obtain ⟨template, p₂, htemplate, h⟩ := gives_bind.mp h
  obtain ⟨ts, dtemplate, hp₂⟩ := ih.template htemplate
  rw [hp₁.source] at dtemplate
  obtain ⟨config, p₃, hconfig, h⟩ := gives_bind.mp h
  obtain ⟨us, dconfig, hp₃⟩ := sound_typeConfig hconfig
  obtain ⟨text, p₄, htext, h⟩ := gives_bind.mp h
  obtain ⟨rfl, rfl⟩ := gives_textFrom_iff.mp htext
  obtain ⟨rfl, rfl⟩ := gives_pure.mp h
  have hp : Consumes p (p.current :: (ts ++ us)) p₃ := hp₁.trans (hp₂.trans hp₃)
  refine ⟨_, ?_, hp⟩
  rw [hp.source, hp.consumed_cons]
  exact .named ht dtemplate dconfig

theorem sound_templateIn (ih : SoundTypeAt depth) :
    SoundType (templateIn (depth + 1)) Angled := by
  intro p template q h
  rw [templateIn] at h
  obtain ⟨more, p₁, hmore, h⟩ := gives_bind.mp h
  rcases gives_accept.mp hmore with ⟨rfl, hless⟩ | ⟨rfl, -, rfl⟩
  · obtain ⟨ht, hp₁⟩ := consumes_sign hless (by decide)
    obtain ⟨arguments, p₂, harguments, h⟩ := gives_bind.mp h
    obtain ⟨_, p₃, hclosing, h⟩ := gives_bind.mp h
    obtain ⟨rfl, rfl⟩ := gives_pure.mp h
    obtain ⟨ts, darguments, hp₂⟩ := ih.arguments harguments
    rw [hp₁.source] at darguments
    obtain ⟨closing, hgreater, hp₃⟩ := sound_closingAngle hclosing
    exact ⟨_, .angles ht darguments hgreater, hp₁.trans (hp₂.trans hp₃)⟩
  · obtain ⟨rfl, rfl⟩ := gives_pure.mp h
    exact ⟨[], .none, .refl p⟩

theorem sound_argumentsIn (ih : SoundTypeAt depth) :
    SoundType (argumentsIn (depth + 1)) Unions := by
  intro p arguments q h
  rw [argumentsIn_succ] at h
  obtain ⟨pieces, darguments, hp⟩ := sound_separated ih.union ih.arguments (by decide) h
  exact ⟨pieces, unions_iff_separated.mpr darguments, hp⟩

theorem soundTypeAt (depth : Nat) : SoundTypeAt depth := by
  induction depth with
  | zero =>
      exact {
        union := fun _ _ _ h => absurd h not_gives_unexpected
        term := fun _ _ _ h => absurd h not_gives_unexpected
        template := fun _ _ _ h => absurd h not_gives_unexpected
        arguments := fun _ _ _ h => absurd h not_gives_unexpected }
  | succ depth ih =>
      exact {
        union := sound_unionIn ih
        term := sound_termIn ih
        template := sound_templateIn ih
        arguments := sound_argumentsIn ih }

/-! ## Completeness -/

/-- What derives a result in front of the parser is read as that result, if no piece behind it could
go on and the depth covers the pieces and a constant cost. -/
def CompleteType (step : Nat → Parse α) (rule : List Char → List Spanned → α → Prop)
    (signs : List Sign) (cost depth : Nat) : Prop :=
  ∀ ⦃p pieces more a⦄, rule p.lexer.source pieces a → Views p (pieces ++ more) →
    Ends signs more → 4 * pieces.length + cost ≤ depth + 1 →
      ∃ q, Gives (step depth) p a q ∧ Passed p pieces q ∧ Views q more

/-- The functions of the parser of types read everything that a depth suffices for. -/
structure CompleteTypeAt (depth : Nat) : Prop where
  union : CompleteType unionIn Union [.less, .leftBrace, .bar] 1 depth
  term : CompleteType termIn Term [.less, .leftBrace] 0 depth
  template : CompleteType templateIn Angled [.less] 2 depth
  arguments : CompleteType argumentsIn Unions [.less, .leftBrace, .bar, .comma] 2 depth

theorem ends_mono {signs signs' : List Sign} (h : Ends signs more) (hsigns : signs' ⊆ signs) :
    Ends signs' more :=
  fun piece hpiece sign hsign => h piece hpiece sign (hsigns hsign)

theorem ends_cons {signs : List Sign} {piece : Spanned} {sign : Sign}
    (ht : piece.token = .sign sign) (hsign : sign ∉ signs) : Ends signs (piece :: more) := by
  rintro _ ⟨rfl⟩ other hother heq
  rw [ht] at heq
  cases heq
  exact hsign hother

/-- A sign in front of the parser is accepted. -/
theorem exists_accept_of_views {piece : Spanned} {sign : Sign} (hp : Views p (piece :: more))
    (ht : piece.token = .sign sign) (hsign : Whole (.sign sign)) :
    ∃ q, Gives (accept sign) p true q ∧ Passed p [piece] q ∧ Views q more := by
  obtain ⟨rfl, q, ha, hq⟩ := exists_advance_of_views hp (ht ▸ hsign)
  exact ⟨q, gives_accept_true (reads_sign ht ha), passed_of_advance ha, hq⟩

/-- A sign with which the pieces in front of the parser do not start is not accepted. -/
theorem gives_accept_false_of_ends {signs : List Sign} {sign : Sign} (hp : Views p pieces)
    (hends : Ends signs pieces) (hsign : sign ∈ signs) (hwhole : Whole (.sign sign)) :
    Gives (accept sign) p false p := by
  refine gives_accept_false (hp.ne_of_ends hends hsign fun left hsplits => ?_)
  cases hsplits <;> exact hwhole (by simp)

/-- A list is read where its items are and the signs between them may not follow an item. -/
theorem complete_separated {sign : Sign} {item : Nat → Parse α}
    {items : Nat → Parse (List α)} {itemRule : List Char → List Spanned → α → Prop}
    {itemsRule : List Char → List Spanned → List α → Prop} {signs : List Sign} {cost : Nat}
    (hitem : CompleteType item itemRule signs cost depth)
    (hitems : CompleteType items itemsRule (signs ++ [sign]) (cost + 1) depth)
    (hsign : Whole (.sign sign)) (hother : sign ∉ signs) {as : List α}
    (h : Separated sign (itemRule p.lexer.source) (itemsRule p.lexer.source) pieces as)
    (hp : Views p (pieces ++ more)) (hends : Ends (signs ++ [sign]) more)
    (hd : 4 * pieces.length + (cost + 1) ≤ depth + 1 + 1) :
    ∃ q, Gives (separated (item depth) sign (items depth)) p as q ∧ Passed p pieces q ∧
      Views q more := by
  unfold separated
  cases h with
  | last hfirst =>
      obtain ⟨q, hgives, hpassed, hq⟩ :=
        hitem hfirst hp (ends_mono hends (List.subset_append_left _ _)) (by omega)
      have hstop : Gives (accept sign) q false q :=
        gives_accept_false_of_ends hq hends (by simp) hsign
      exact ⟨q, hgives.bind (hstop.bind (gives_pure.mpr ⟨rfl, rfl⟩)), hpassed, hq⟩
  | @more ts separator us a as hfirst ht hrest =>
      rw [List.append_assoc] at hp
      simp only [List.length_append, List.length_cons] at hd
      obtain ⟨p₁, hgives, hp₁, hviews⟩ := hitem hfirst hp (ends_cons ht hother) (by omega)
      obtain ⟨p₂, hread, hp₂, hviews⟩ := exists_accept_of_views hviews ht hsign
      have hpassed := hp₁.trans hp₂
      rw [← hpassed.source] at hrest
      obtain ⟨q, hlist, hq, hviews⟩ := hitems hrest hviews hends (by omega)
      refine ⟨q, ?_, ?_, hviews⟩
      · exact hgives.bind (hread.bind (hlist.bind (gives_pure.mpr ⟨rfl, rfl⟩)))
      · exact hp₁.trans (hp₂.trans hq)

theorem complete_unionIn (ih : CompleteTypeAt depth) :
    CompleteType unionIn Union [.less, .leftBrace, .bar] 1 (depth + 1) := by
  intro p pieces more union h hp hends hd
  rw [unionIn_succ]
  exact complete_separated ih.term ih.union (by decide) (by decide)
    (union_iff_separated.mp h) hp hends hd

theorem complete_termIn (ih : CompleteTypeAt depth) :
    CompleteType termIn Term [.less, .leftBrace] 0 (depth + 1) := by
  intro p pieces more term h hp hends hd
  rw [termIn]
  cases h with
  | @named name text ts us template config ht htemplate hconfig =>
      simp only [List.length_append, List.length_cons] at hd
      rw [List.cons_append, List.append_assoc] at hp
      obtain ⟨rfl, p₁, ha, hviews⟩ := exists_advance_of_views hp (whole_identifier ht)
      have hp₁ := passed_of_advance ha
      have hless : Ends [.less] (us ++ more) := by
        cases hconfig with
        | none => exact ends_mono hends (by simp)
        | braces hopening _ _ => exact ends_cons hopening (by decide)
      rw [← hp₁.source] at htemplate
      obtain ⟨p₂, hgives₂, hp₂, hviews⟩ := ih.template htemplate hviews hless (by omega)
      obtain ⟨q, hgives₃, hp₃, hviews⟩ :=
        exists_typeConfig_of_views hconfig hviews (ends_mono hends (by simp))
      have hpassed : Passed p (p.current :: (ts ++ us)) q := hp₁.trans (hp₂.trans hp₃)
      refine ⟨q, ?_, hpassed, hviews⟩
      refine (gives_typeName.mpr ⟨ht, rfl, ha⟩).bind (hgives₂.bind (hgives₃.bind ?_))
      refine (gives_textFrom_iff.mpr ⟨rfl, rfl⟩).bind (gives_pure.mpr ⟨?_, rfl⟩)
      rw [hpassed.source, hpassed.consumed_cons]
      rfl

theorem complete_templateIn (ih : CompleteTypeAt depth) :
    CompleteType templateIn Angled [.less] 2 (depth + 1) := by
  intro p pieces more template h hp hends hd
  rw [templateIn]
  cases h with
  | none =>
      have hless : Gives (accept .less) p false p :=
        gives_accept_false_of_ends hp hends (by decide) (by decide)
      exact ⟨p, hless.bind (gives_pure.mpr ⟨rfl, rfl⟩), .refl p, hp⟩
  | @angles opening ts closing template hopening harguments hclosing =>
      simp only [List.length_append, List.length_cons, List.length_nil] at hd
      rw [List.cons_append, List.append_assoc] at hp
      obtain ⟨p₁, hless, hp₁, hviews⟩ := exists_accept_of_views hp hopening (by decide)
      rw [← hp₁.source] at harguments
      obtain ⟨p₂, hgives, hp₂, hviews⟩ :=
        ih.arguments harguments hviews (ends_cons hclosing (by decide)) (by omega)
      obtain ⟨q, hangle, hp₃, hviews⟩ := exists_closingAngle_of_views hviews hclosing
      refine ⟨q, ?_, ?_, hviews⟩
      · exact hless.bind (hgives.bind (hangle.bind (gives_pure.mpr ⟨rfl, rfl⟩)))
      · exact hp₁.trans (hp₂.trans hp₃)

theorem complete_argumentsIn (ih : CompleteTypeAt depth) :
    CompleteType argumentsIn Unions [.less, .leftBrace, .bar, .comma] 2 (depth + 1) := by
  intro p pieces more arguments h hp hends hd
  rw [argumentsIn_succ]
  exact complete_separated ih.union ih.arguments (by decide) (by decide)
    (unions_iff_separated.mp h) hp hends hd

theorem completeTypeAt (depth : Nat) : CompleteTypeAt depth := by
  induction depth with
  | zero =>
      exact {
        union := fun _ _ _ _ h _ _ hd => by
          have hpos := union_length_pos h
          omega
        term := fun _ _ _ _ h _ _ hd => by
          have hpos := term_length_pos h
          omega
        template := fun _ _ _ _ _ _ _ hd => by omega
        arguments := fun _ _ _ _ _ _ _ hd => by omega }
  | succ depth ih =>
      exact {
        union := complete_unionIn ih
        term := complete_termIn ih
        template := complete_templateIn ih
        arguments := complete_argumentsIn ih }

end Parse

namespace TypeUnion

open Parse Guest.Parser TypeGrammar

variable {source : String} {spans : List Spanned} {last : Spanned} {union union' : TypeUnion}

theorem source_of_ofLexer {lexer : Lexer} {p : Parser} (h : ofLexer lexer = .ok p) :
    p.lexer.source = lexer.source := by
  obtain ⟨spanned, moved, hnext, rfl⟩ := ofLexer_eq_ok.mp h
  exact source_of_next hnext

/-- The tokens of a text up to its end derive a union, once the closing angle brackets outside of
configurations have been taken apart. -/
def Derives (source : String) (union : TypeUnion) : Prop :=
  ∃ spans last, (Lexer.ofString .extended source).items = spans.map .ok ++ [.ok last] ∧
    last.token = .endOfText ∧ Union source.toList (splitAngles 0 spans) union

theorem derives_of_parse (h : parse source = .ok union) : Derives source union := by
  obtain ⟨p, q, hp, hgives⟩ := run_eq_ok.mp h
  obtain ⟨r, hunion, hend⟩ := gives_wholeType.mp hgives
  obtain ⟨pieces, dunion, hconsumes⟩ := (soundTypeAt _).union hunion
  rw [source_of_ofLexer hp] at dunion
  obtain ⟨spans, r, hwalks, hends, hr, hsplit⟩ :=
    hconsumes.views [] (views_nil_of_endOfText (reads_singleton.mp hend).1)
  obtain ⟨hitems, hlast⟩ := items_eq_iff.mpr ⟨p, r, hp, hwalks, hends, rfl, hr⟩
  rw [List.append_nil] at hsplit
  exact ⟨spans, r.current, hitems, hlast, hsplit ▸ dunion⟩

theorem parse_of_derives (h : Derives source union) : parse source = .ok union := by
  obtain ⟨spans, last, hitems, hlast, hunion⟩ := h
  obtain ⟨p, r, hp, hwalks, hends, rfl, -⟩ := items_eq_iff.mp ⟨hitems, hlast⟩
  have hviews : Views p (splitAngles 0 spans ++ []) :=
    ⟨spans, r, hwalks, hends, hlast, (List.append_nil _).symm⟩
  have hlength := left_add_length_le hwalks.reads hends
  have hpieces := splitAngles_length_le 0 spans
  have hdepth := left_le_depth p
  rw [List.length_map] at hlength
  rw [← show p.lexer.source = source.toList from source_of_ofLexer hp] at hunion
  obtain ⟨q, hgives, hpassed, hq⟩ := (completeTypeAt p.depth).union hunion hviews
    (fun _ h => nomatch h) (by omega)
  obtain ⟨r, hr⟩ := reads_endOfText (hpassed.aligned (aligned_of_ofLexer hp)) hq.endOfText_of_nil
  exact run_eq_ok.mpr ⟨p, r, hp, gives_wholeType.mpr ⟨q, hgives, hr⟩⟩

/-! ## The places of closing brackets -/

/-- A character of a part of a text, cut out of the text. -/
theorem slice_getElem {chars w : List Char} {start stop i : Nat}
    (h : (chars.take stop).drop start = w) (hi : i < w.length) :
    (chars.take (start + i + 1)).drop (start + i) = [w[i]] := by
  subst h
  rw [List.length_drop, List.length_take] at hi
  have hlength : (chars.take (start + i)).length = start + i :=
    List.length_take_of_le (by omega)
  have hget : chars[start + i]? = some chars[start + i] := List.getElem?_eq_getElem (by omega)
  rw [List.take_add_one, hget, Option.toList_some, List.drop_left' hlength, List.getElem_drop,
    List.getElem_take]

/-- The word of a sign is the text of the sign. -/
theorem eq_text_of_scan {d : Dialect} {w rest : List Char} {sign : Sign} (hw : w ≠ [])
    (h : Lexeme.scan d (w ++ rest) = ⟨w.length, .ok (.sign sign)⟩) : w = sign.text.toList := by
  cases w with
  | nil => exact absurd rfl hw
  | cons c more =>
      obtain ⟨w, tail, follow, hsplit, hlength, hspells, -⟩ := Lexeme.exists_spells h
      have hwords : c :: more ++ rest = w ++ tail := hsplit
      obtain ⟨heq, -⟩ := List.append_inj hwords hlength.symm
      rw [heq]
      generalize ht : Token.sign sign = t at hspells
      cases hspells with
      | sign _ =>
          cases ht
          rfl
      | word _ _ _ => exact absurd ht.symm Lexeme.wordToken_ne_sign
      | number _ => cases ht
      | string _ _ => cases ht
      | negation _ => cases ht

/-- Every closing bracket, also one that is taken out of a shift sign, is one character of the
source. -/
theorem slice_bracket {chars : List Char} {spanned piece : Spanned}
    (hmem : .ok spanned ∈ (Lexer.ofChars .extended chars).items)
    (hpiece : piece ∈ brackets spanned) (ht : piece.token = .sign .greater) :
    (chars.take piece.stop.offset).drop piece.start.offset = ['>'] := by
  have hword {sign : Sign} (hsign : spanned.token = .sign sign) :
      (chars.take spanned.stop.offset).drop spanned.start.offset = sign.text.toList := by
    obtain ⟨w, rest, hslice, hw, -, hscan⟩ :=
      (Lexer.scans_items .extended chars).exists_word hmem (by simp [hsign])
    rw [hsign] at hscan
    rw [← eq_text_of_scan hw hscan]
    exact hslice
  unfold brackets at hpiece
  split at hpiece
  · next hsign =>
      have hslice := hword hsign
      simp only [List.mem_cons, List.not_mem_nil, or_false] at hpiece
      rcases hpiece with rfl | rfl
      · exact slice_getElem hslice (i := 0) (by decide)
      · have hlast := congrArg (List.drop 1) hslice
        rw [List.drop_drop] at hlast
        exact hlast
  · next hsign =>
      have hslice := hword hsign
      simp only [List.mem_cons, List.not_mem_nil, or_false] at hpiece
      rcases hpiece with rfl | rfl | rfl
      · exact slice_getElem hslice (i := 0) (by decide)
      · exact slice_getElem hslice (i := 1) (by decide)
      · have hlast := congrArg (List.drop 2) hslice
        rw [List.drop_drop] at hlast
        exact hlast
  · obtain rfl := List.mem_singleton.mp hpiece
    exact hword ht

/-- Parsing types is exact.  A text is read as a union if and only if the lexer reads the whole text
and its tokens, with each shift sign outside configurations taken for so many closing brackets,
derive the union; a text derives no other union; and every bracket is one character of the text.
The rules put unions at the root and into the template arguments, and give every type the source
text from its name to its last token, which may be one bracket out of a shift sign. -/
theorem parse_union_exact (source : String) :
    (∀ union, parse source = .ok union ↔ Derives source union) ∧
      (∀ union union', Derives source union → Derives source union' → union = union') ∧
      ∀ spanned piece, .ok spanned ∈ (Lexer.ofString .extended source).items →
        piece ∈ brackets spanned → piece.token = .sign .greater →
          (source.toList.take piece.stop.offset).drop piece.start.offset = ['>'] := by
  refine ⟨fun union => ⟨derives_of_parse, parse_of_derives⟩, ?_, ?_⟩
  · intro union union' h h'
    have heq := parse_of_derives h
    rw [parse_of_derives h'] at heq
    exact (Except.ok.inj heq).symm
  · intro spanned piece hmem hpiece ht
    exact slice_bracket hmem hpiece ht

/-- One sign closes three types, and each type ends at its own bracket. -/
example :
    (parse "A<B<C<D>>>").map (List.map fun term =>
      (term.fullname, term.template.map (List.map TypeTerm.fullname))) =
        .ok [("A<B<C<D>>>", [["B<C<D>>"]])] := by
  decide +kernel

end TypeUnion
end Guest
