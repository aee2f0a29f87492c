import Guest.Proofs.Expr.Soundness

/-!
# Completeness of the parser of expressions

What derives a tree is read as that tree, provided that the token behind it does not belong to the
rule.  How tightly a token holds on to what precedes it decides that: a rule is read to its end if
the next token has no grip on it.  The depth that a rule takes grows with the number of its tokens,
and rules that consume nothing between them differ in a constant.
-/

namespace Guest

/-- How tightly a token holds on to what stands before it.  A token without grip ends every
expression. -/
def Token.grip : Token → Nat
  | .sign .leftParen => 14
  | .sign .dot => 13
  | .sign .leftBracket => 13
  | .sign .question => 1
  | .sign .elvis => 1
  | t => match t.binaryOp? with
    | some op => op.level + 1
    | none => 0

@[simp] theorem Token.grip_question : grip (.sign .question) = 1 := rfl
@[simp] theorem Token.grip_elvis : grip (.sign .elvis) = 1 := rfl
@[simp] theorem Token.grip_starStar : grip (.sign .starStar) = 12 := rfl
@[simp] theorem Token.grip_dot : grip (.sign .dot) = 13 := rfl
@[simp] theorem Token.grip_leftBracket : grip (.sign .leftBracket) = 13 := rfl
@[simp] theorem Token.grip_leftParen : grip (.sign .leftParen) = 14 := rfl
@[simp] theorem Token.grip_colon : grip (.sign .colon) = 0 := rfl
@[simp] theorem Token.grip_comma : grip (.sign .comma) = 0 := rfl
@[simp] theorem Token.grip_rightParen : grip (.sign .rightParen) = 0 := rfl
@[simp] theorem Token.grip_rightBracket : grip (.sign .rightBracket) = 0 := rfl
@[simp] theorem Token.grip_rightBrace : grip (.sign .rightBrace) = 0 := rfl
@[simp] theorem Token.grip_endOfText : grip .endOfText = 0 := rfl

theorem Token.grip_of_binaryOp? {t : Token} {op : BinaryOp} (h : t.binaryOp? = some op) :
    t.grip = op.level + 1 := by
  unfold grip
  split
  · cases h
  · cases h
  · cases h
  · cases h
  · cases h
  · rw [h]

namespace Grammar

variable {ts us : List Token} {e : Expr} {level : Nat}

/-! ## First tokens -/

/-- A token that closes nothing. -/
def Opening (t : Token) : Prop := t ≠ .sign .rightParen ∧ t ≠ .sign .rightBracket

theorem opening_of_unaryOp? {t : Token} {op : UnaryOp} (h : t.unaryOp? = some op) :
    Opening t := by
  constructor <;> rintro rfl <;> cases h

theorem primary_head (h : Primary ts e) :
    ∃ t us, ts = t :: us ∧ t.unaryOp? = none ∧ Opening t := by
  cases h <;> exact ⟨_, _, rfl, rfl, by simp [Opening]⟩

theorem access_head (h : Access ts e) :
    ∃ t us, ts = t :: us ∧ t.unaryOp? = none ∧ Opening t := by
  cases h with
  | keys hbase _ =>
      obtain ⟨t, us, rfl, ht⟩ := primary_head hbase
      exact ⟨t, _, rfl, ht⟩

theorem power_head (h : Power ts e) :
    ∃ t us, ts = t :: us ∧ t.unaryOp? = none ∧ Opening t := by
  cases h with
  | base hbase => exact access_head hbase
  | power hbase _ =>
      obtain ⟨t, us, rfl, ht⟩ := access_head hbase
      exact ⟨t, _, rfl, ht⟩

theorem unary_head (h : Unary ts e) : ∃ t us, ts = t :: us ∧ Opening t := by
  cases h with
  | prefixes hops hpower =>
      cases hops with
      | nil =>
          obtain ⟨t, us, rfl, -, ht⟩ := power_head hpower
          exact ⟨t, us, rfl, ht⟩
      | cons hop _ => exact ⟨_, _, rfl, opening_of_unaryOp? hop⟩

theorem chain_head {level : Nat} {ts : List Token} {e : Expr} :
    Chain level ts e → ∃ t us, ts = t :: us ∧ Opening t
  | .operands _ hhead _ => by
      obtain ⟨t, us, rfl, ht⟩ := chain_head hhead
      exact ⟨t, _, rfl, ht⟩
  | .unary h => unary_head h

theorem expression_head (h : Expression ts e) : ∃ t us, ts = t :: us ∧ Opening t := by
  cases h with
  | chain htest => exact chain_head htest
  | conditional htest _ _ =>
      obtain ⟨t, us, rfl, ht⟩ := chain_head htest
      exact ⟨t, _, rfl, ht⟩
  | elvis htest _ =>
      obtain ⟨t, us, rfl, ht⟩ := chain_head htest
      exact ⟨t, _, rfl, ht⟩

theorem items_head {items : List Expr} (h : Items ts items) :
    ∃ t us, ts = t :: us ∧ Opening t := by
  cases h with
  | last hitem => exact expression_head hitem
  | more hitem _ =>
      obtain ⟨t, us, rfl, ht⟩ := expression_head hitem
      exact ⟨t, _, rfl, ht⟩

theorem pairs_head {entries : Entries} (h : Pairs ts entries) :
    ∃ t key us, ts = t :: us ∧ EntryKey t key := by
  cases h with
  | last hkey _ => exact ⟨_, _, _, rfl, hkey⟩
  | more hkey _ _ => exact ⟨_, _, _, rfl, hkey⟩

theorem chain_level_le (h : Chain level ts e) : level ≤ BinaryOp.tightestChain + 1 := by
  cases h <;> omega

theorem chain_length_pos (h : Chain level ts e) : 0 < ts.length := by
  obtain ⟨t, us, rfl, -⟩ := chain_head h
  simp

theorem primary_length_pos (h : Primary ts e) : 0 < ts.length := by
  obtain ⟨t, us, rfl, -⟩ := primary_head h
  simp

end Grammar

namespace Parse

open Guest.Parser Grammar

variable {α : Type} {p q : Parser} {depth level : Nat} {close : Sign} {us : List Token}

/-! ## What a depth suffices for -/

/-- Whatever derives a result gives it, if the next token has no grip beyond a limit and the depth
covers the tokens and a constant cost. -/
def Complete (step : Parse α) (rule : List Token → α → Prop) (limit cost depth : Nat) : Prop :=
  ∀ ⦃p ts q a⦄, rule ts a → Reads p ts q → q.current.token.grip ≤ limit →
    24 * ts.length + cost ≤ depth → Gives step p a q

/-- The functions of the parser read everything that a depth suffices for. -/
structure CompleteAt (depth : Nat) : Prop where
  expression : Complete (expressionIn depth) Expression 0 16 depth
  chain : ∀ level, Complete (chainIn depth level) (Chain level) level (16 - level) depth
  tail : ∀ level, Complete (tailIn depth level) (Tail level) level 1 depth
  unary : Complete (unaryIn depth) Unary 11 4 depth
  ops : ∀ ⦃p us q ops⦄, Prefixes us ops → Reads p us q → q.current.token.unaryOp? = none →
    24 * us.length + 1 ≤ depth → Gives (opsIn depth) p ops q
  power : Complete (powerIn depth) Power 11 3 depth
  access : Complete (accessIn depth) Access 12 2 depth
  keys : Complete (keysIn depth) Keys 12 1 depth
  primary : Complete (primaryIn depth) Primary 13 1 depth
  sequence : ∀ ⦃close⦄, close = .rightParen ∨ close = .rightBracket →
    ∀ ⦃p ts q items⦄, Sequence ts items → Reads p (ts ++ [.sign close]) q →
      24 * ts.length + 18 ≤ depth → Gives (sequenceIn depth close) p items q
  items : ∀ ⦃p ts q items⦄, Items ts items → Reads p ts q → q.current.token.grip = 0 →
    q.current.token ≠ .sign .comma → 24 * ts.length + 17 ≤ depth →
      Gives (itemsIn depth) p items q
  entries : ∀ ⦃p ts q entries⦄, EntrySequence ts entries →
    Reads p (ts ++ [.sign .rightBrace]) q → 24 * ts.length + 2 ≤ depth →
      Gives (entriesIn depth) p entries q
  pairs : ∀ ⦃p ts q entries⦄, Pairs ts entries → Reads p ts q → q.current.token.grip = 0 →
    q.current.token ≠ .sign .comma → 24 * ts.length + 1 ≤ depth →
      Gives (pairsIn depth) p entries q

/-! ## Parts of rules -/

theorem current_of_reads {t : Token} {ts : List Token} (h : Reads p (t :: ts) q) :
    p.current.token = t :=
  (reads_cons.mp h).1

theorem gives_objectKey {t : Token} {key : String} (hkey : EntryKey t key) (h : Reads p [t] q) :
    Gives objectKey p key q := by
  obtain ⟨ht, ha⟩ := reads_singleton.mp h
  rw [objectKey, gives_peek_bind, ht]
  cases hkey <;> exact ha.bind (gives_pure.mpr ⟨rfl, rfl⟩)

theorem gives_propertyName {name : String} (h : Reads p [.identifier name] q) :
    Gives propertyName p name q := by
  obtain ⟨ht, ha⟩ := reads_singleton.mp h
  rw [propertyName, gives_peek_bind, ht]
  exact ha.bind (gives_pure.mpr ⟨rfl, rfl⟩)

/-- The operators that follow an operand have no more grip than those of their level. -/
theorem grip_before_tail {tail : List (BinaryOp × Expr)} (htail : Tail level us tail)
    (h : Reads p us q) (hq : q.current.token.grip ≤ level) :
    p.current.token.grip ≤ level + 1 := by
  cases htail with
  | nil =>
      rw [reads_nil.mp h]
      omega
  | cons htoken hop _ _ =>
      simp [current_of_reads h, Token.grip_of_binaryOp? htoken, hop]

/-- The accesses that follow a primary have the grip of accesses. -/
theorem grip_before_keys {keys : List Key} (hkeys : Keys us keys) (h : Reads p us q)
    (hq : q.current.token.grip ≤ 12) : p.current.token.grip ≤ 13 := by
  cases hkeys with
  | nil =>
      rw [reads_nil.mp h]
      omega
  | dot _ => simp [current_of_reads h]
  | text _ _ => simp [current_of_reads h]
  | computed _ _ _ => simp [current_of_reads h]

theorem keyOf_of_ne {key : Expr} (h : ∀ s, key ≠ .literal (.string s)) :
    keyOf key = .computed key := by
  unfold keyOf
  split
  · next s => exact absurd rfl (h s)
  · rfl

/-! ## The rules -/

theorem complete_expressionIn (ih : CompleteAt depth) :
    Complete (expressionIn (depth + 1)) Expression 0 16 (depth + 1) := by
  intro p ts q e h hr hq hd
  rw [expressionIn]
  cases h with
  | chain htest =>
      refine (ih.chain 1 htest hr (by omega) (by omega)).bind ?_
      rw [gives_peek_bind]
      split
      · next ht => simp [ht] at hq
      · next ht => simp [ht] at hq
      · exact gives_pure.mpr ⟨rfl, rfl⟩
  | conditional htest htrue hfalse =>
      simp only [List.length_append, List.length_cons] at hd
      obtain ⟨p₁, h₁, hr⟩ := reads_append.mp hr
      obtain ⟨hquestion, p₂, ha, hr⟩ := reads_cons.mp hr
      obtain ⟨p₃, h₃, hr⟩ := reads_append.mp hr
      obtain ⟨hcolon, p₄, ha', h₄⟩ := reads_cons.mp hr
      refine (ih.chain 1 htest h₁ (by simp [hquestion]) (by omega)).bind ?_
      rw [gives_peek_bind, hquestion]
      refine ha.bind ?_
      refine (ih.expression htrue h₃ (by simp [hcolon]) (by omega)).bind ?_
      refine (gives_expect_sign.mpr (reads_singleton.mpr ⟨hcolon, ha'⟩)).bind ?_
      exact (ih.expression hfalse h₄ hq (by omega)).bind (gives_pure.mpr ⟨rfl, rfl⟩)
  | elvis htest hfalse =>
      simp only [List.length_append, List.length_cons] at hd
      obtain ⟨p₁, h₁, hr⟩ := reads_append.mp hr
      obtain ⟨helvis, p₂, ha, h₂⟩ := reads_cons.mp hr
      refine (ih.chain 1 htest h₁ (by simp [helvis]) (by omega)).bind ?_
      rw [gives_peek_bind, helvis]
      refine ha.bind ?_
      exact (ih.expression hfalse h₂ hq (by omega)).bind (gives_pure.mpr ⟨rfl, rfl⟩)

theorem complete_chainIn (ih : CompleteAt depth) (level : Nat) :
    Complete (chainIn (depth + 1) level) (Chain level) level (16 - level) (depth + 1) := by
  intro p ts q e h hr hq hd
  rw [chainIn]
  cases h with
  | @operands level ts us head tail hlevel hhead htail =>
      have hpos := chain_length_pos hhead
      simp only [BinaryOp.tightestChain] at hlevel
      simp only [List.length_append] at hd
      obtain ⟨p₁, h₁, h₂⟩ := reads_append.mp hr
      have hgrip := grip_before_tail htail h₂ hq
      rw [if_neg (by simp only [BinaryOp.tightestChain]; omega)]
      refine (ih.chain (level + 1) hhead h₁ hgrip (by omega)).bind ?_
      refine (ih.tail level htail h₂ hq (by omega)).bind ?_
      cases tail with
      | nil => exact gives_pure.mpr ⟨rfl, rfl⟩
      | cons first rest => exact gives_pure.mpr ⟨rfl, rfl⟩
  | unary hunary =>
      simp only [BinaryOp.tightestChain] at hq hd ⊢
      exact ih.unary hunary hr hq (by omega)

theorem complete_tailIn (ih : CompleteAt depth) (level : Nat) :
    Complete (tailIn (depth + 1) level) (Tail level) level 1 (depth + 1) := by
  intro p ts q tail h hr hq hd
  rw [tailIn, gives_peek_bind]
  cases h with
  | nil =>
      obtain rfl := reads_nil.mp hr
      split
      · exact gives_pure.mpr ⟨rfl, rfl⟩
      · next op hop =>
          obtain ⟨htoken, hlevel⟩ := chainOp?_eq_some.mp hop
          rw [Token.grip_of_binaryOp? htoken] at hq
          omega
  | cons htoken hop hright htail =>
      simp only [List.length_cons, List.length_append] at hd
      obtain ⟨ht, p₁, ha, hr⟩ := reads_cons.mp hr
      obtain ⟨p₂, h₂, h₃⟩ := reads_append.mp hr
      rw [ht, chainOp?_eq_some.mpr ⟨htoken, hop⟩]
      refine ha.bind ?_
      have hgrip := grip_before_tail htail h₃ hq
      refine (ih.chain (level + 1) hright h₂ hgrip (by omega)).bind ?_
      exact (ih.tail level htail h₃ hq (by omega)).bind (gives_pure.mpr ⟨rfl, rfl⟩)

theorem complete_unaryIn (ih : CompleteAt depth) :
    Complete (unaryIn (depth + 1)) Unary 11 4 (depth + 1) := by
  intro p ts q e h hr hq hd
  rw [unaryIn]
  cases h with
  | @prefixes us ts ops operand hops hpower =>
      simp only [List.length_append] at hd
      obtain ⟨p₁, h₁, h₂⟩ := reads_append.mp hr
      have hhead : p₁.current.token.unaryOp? = none := by
        obtain ⟨t, vs, rfl, ht, -⟩ := power_head hpower
        rw [current_of_reads h₂, ht]
      have hoperand := ih.power hpower h₂ hq (by omega)
      refine (ih.ops hops h₁ hhead (by omega)).bind ?_
      cases ops with
      | nil => exact hoperand
      | cons first rest => exact hoperand.bind (gives_pure.mpr ⟨rfl, rfl⟩)

theorem complete_opsIn (ih : CompleteAt depth) ⦃p : Parser⦄ ⦃us : List Token⦄ ⦃q : Parser⦄
    ⦃ops : List UnaryOp⦄ (h : Prefixes us ops) (hr : Reads p us q)
    (hq : q.current.token.unaryOp? = none) (hd : 24 * us.length + 1 ≤ depth + 1) :
    Gives (opsIn (depth + 1)) p ops q := by
  rw [opsIn, gives_peek_bind]
  cases h with
  | nil =>
      obtain rfl := reads_nil.mp hr
      rw [hq]
      exact gives_pure.mpr ⟨rfl, rfl⟩
  | cons hop hops =>
      simp only [List.length_cons] at hd
      obtain ⟨ht, p₁, ha, h₁⟩ := reads_cons.mp hr
      rw [ht, hop]
      refine ha.bind ?_
      exact (ih.ops hops h₁ hq (by omega)).bind (gives_pure.mpr ⟨rfl, rfl⟩)

theorem complete_powerIn (ih : CompleteAt depth) :
    Complete (powerIn (depth + 1)) Power 11 3 (depth + 1) := by
  intro p ts q e h hr hq hd
  rw [powerIn]
  cases h with
  | base hbase =>
      refine (ih.access hbase hr (by omega) (by omega)).bind ?_
      have hstar : q.current.token ≠ .sign .starStar := by
        intro ht
        simp [ht] at hq
      exact (gives_accept_false hstar).bind (gives_pure.mpr ⟨rfl, rfl⟩)
  | power hbase hexponent =>
      simp only [List.length_append, List.length_cons] at hd
      obtain ⟨p₁, h₁, hr⟩ := reads_append.mp hr
      obtain ⟨hstar, p₂, ha, h₂⟩ := reads_cons.mp hr
      refine (ih.access hbase h₁ (by simp [hstar]) (by omega)).bind ?_
      refine (gives_accept_true (reads_singleton.mpr ⟨hstar, ha⟩)).bind ?_
      exact (ih.unary hexponent h₂ hq (by omega)).bind (gives_pure.mpr ⟨rfl, rfl⟩)

theorem complete_accessIn (ih : CompleteAt depth) :
    Complete (accessIn (depth + 1)) Access 12 2 (depth + 1) := by
  intro p ts q e h hr hq hd
  rw [accessIn]
  cases h with
  | @keys ts us base keys hbase hkeys =>
      have hpos := primary_length_pos hbase
      simp only [List.length_append] at hd
      obtain ⟨p₁, h₁, h₂⟩ := reads_append.mp hr
      have hgrip := grip_before_keys hkeys h₂ hq
      refine (ih.primary hbase h₁ hgrip (by omega)).bind ?_
      refine (ih.keys hkeys h₂ hq (by omega)).bind ?_
      cases keys with
      | nil => exact gives_pure.mpr ⟨rfl, rfl⟩
      | cons first rest => exact gives_pure.mpr ⟨rfl, rfl⟩

/-- A key in brackets and the keys behind it. -/
theorem gives_bracket (ih : CompleteAt depth) {ts : List Token} {key : Expr} {keys : List Key}
    (hkey : Expression ts key) (hkeys : Keys us keys)
    (hr : Reads p (.sign .leftBracket :: (ts ++ .sign .rightBracket :: us)) q)
    (hq : q.current.token.grip ≤ 12)
    (hd : 24 * (ts.length + us.length + 2) + 1 ≤ depth + 1) :
    Gives (keysIn (depth + 1)) p (keyOf key :: keys) q := by
  obtain ⟨hopen, p₁, ha, hr⟩ := reads_cons.mp hr
  obtain ⟨p₂, h₂, hr⟩ := reads_append.mp hr
  obtain ⟨hclose, p₃, ha', h₃⟩ := reads_cons.mp hr
  rw [keysIn, gives_peek_bind, hopen]
  refine ha.bind ?_
  refine (ih.expression hkey h₂ (by simp [hclose]) (by omega)).bind ?_
  refine (gives_expect_sign.mpr (reads_singleton.mpr ⟨hclose, ha'⟩)).bind ?_
  exact (ih.keys hkeys h₃ hq (by omega)).bind (gives_pure.mpr ⟨rfl, rfl⟩)

theorem complete_keysIn (ih : CompleteAt depth) :
    Complete (keysIn (depth + 1)) Keys 12 1 (depth + 1) := by
  intro p ts q keys h hr hq hd
  cases h with
  | nil =>
      obtain rfl := reads_nil.mp hr
      rw [keysIn, gives_peek_bind]
      split
      · next ht => simp [ht] at hq
      · next ht => simp [ht] at hq
      · exact gives_pure.mpr ⟨rfl, rfl⟩
  | dot hkeys =>
      simp only [List.length_cons] at hd
      obtain ⟨hdot, p₁, ha, hr⟩ := reads_cons.mp hr
      obtain ⟨hname, p₂, ha', h₂⟩ := reads_cons.mp hr
      rw [keysIn, gives_peek_bind, hdot]
      refine ha.bind ?_
      refine (gives_propertyName (reads_singleton.mpr ⟨hname, ha'⟩)).bind ?_
      exact (ih.keys hkeys h₂ hq (by omega)).bind (gives_pure.mpr ⟨rfl, rfl⟩)
  | text hkey hkeys =>
      simp only [List.length_cons, List.length_append] at hd
      exact gives_bracket ih hkey hkeys hr hq (by omega)
  | computed hkey hne hkeys =>
      simp only [List.length_cons, List.length_append] at hd
      rw [← keyOf_of_ne hne]
      exact gives_bracket ih hkey hkeys hr hq (by omega)

theorem complete_primaryIn (ih : CompleteAt depth) :
    Complete (primaryIn (depth + 1)) Primary 13 1 (depth + 1) := by
  intro p ts q e h hr hq hd
  rw [primaryIn, gives_peek_bind]
  cases h with
  | number x =>
      obtain ⟨ht, ha⟩ := reads_singleton.mp hr
      rw [ht]
      exact gives_takeLiteral.mpr ⟨rfl, ha⟩
  | string s =>
      obtain ⟨ht, ha⟩ := reads_singleton.mp hr
      rw [ht]
      exact gives_takeLiteral.mpr ⟨rfl, ha⟩
  | boolean b =>
      obtain ⟨ht, ha⟩ := reads_singleton.mp hr
      rw [ht]
      exact gives_takeLiteral.mpr ⟨rfl, ha⟩
  | null =>
      obtain ⟨ht, ha⟩ := reads_singleton.mp hr
      rw [ht]
      exact gives_takeLiteral.mpr ⟨rfl, ha⟩
  | identifier name =>
      obtain ⟨ht, ha⟩ := reads_singleton.mp hr
      have hparen : q.current.token ≠ .sign .leftParen := by
        intro ht
        simp [ht] at hq
      rw [ht]
      exact ha.bind ((gives_accept_false hparen).bind (gives_pure.mpr ⟨rfl, rfl⟩))
  | call hargs =>
      simp only [List.length_cons, List.length_append, List.length_nil] at hd
      obtain ⟨ht, p₁, ha, hr⟩ := reads_cons.mp hr
      obtain ⟨hopen, p₂, ha', h₂⟩ := reads_cons.mp hr
      rw [ht]
      refine ha.bind ?_
      refine (gives_accept_true (reads_singleton.mpr ⟨hopen, ha'⟩)).bind ?_
      exact (ih.sequence (.inl rfl) hargs h₂ (by omega)).bind (gives_pure.mpr ⟨rfl, rfl⟩)
  | group hinner =>
      simp only [List.length_cons, List.length_append, List.length_nil] at hd
      obtain ⟨ht, p₁, ha, hr⟩ := reads_cons.mp hr
      obtain ⟨p₂, h₂, hclose⟩ := reads_append.mp hr
      rw [ht]
      refine ha.bind ?_
      refine (ih.expression hinner h₂ (by simp [current_of_reads hclose]) (by omega)).bind ?_
      exact (gives_expect_sign.mpr hclose).bind (gives_pure.mpr ⟨rfl, rfl⟩)
  | array hitems =>
      simp only [List.length_cons, List.length_append, List.length_nil] at hd
      obtain ⟨ht, p₁, ha, h₁⟩ := reads_cons.mp hr
      rw [ht]
      refine ha.bind ?_
      exact (ih.sequence (.inr rfl) hitems h₁ (by omega)).bind (gives_pure.mpr ⟨rfl, rfl⟩)
  | object hentries =>
      simp only [List.length_cons, List.length_append, List.length_nil] at hd
      obtain ⟨ht, p₁, ha, h₁⟩ := reads_cons.mp hr
      rw [ht]
      refine ha.bind ?_
      exact (ih.entries hentries h₁ (by omega)).bind (gives_pure.mpr ⟨rfl, rfl⟩)

/-- A closing sign ends the items before it. -/
theorem closing_grip (hclose : close = .rightParen ∨ close = .rightBracket) :
    (Token.sign close).grip = 0 ∧ Token.sign close ≠ .sign .comma := by
  rcases hclose with rfl | rfl <;> simp

theorem complete_sequenceIn (ih : CompleteAt depth) ⦃close : Sign⦄
    (hclose : close = .rightParen ∨ close = .rightBracket) ⦃p : Parser⦄ ⦃ts : List Token⦄
    ⦃q : Parser⦄ ⦃items : List Expr⦄ (h : Sequence ts items)
    (hr : Reads p (ts ++ [.sign close]) q) (hd : 24 * ts.length + 18 ≤ depth + 1) :
    Gives (sequenceIn (depth + 1) close) p items q := by
  rw [sequenceIn]
  cases h with
  | nil => exact (gives_accept_true hr).bind (gives_pure.mpr ⟨rfl, rfl⟩)
  | items hitems =>
      obtain ⟨p₁, h₁, h₂⟩ := reads_append.mp hr
      have hfirst : p.current.token ≠ .sign close := by
        obtain ⟨t, us, rfl, hparen, hbracket⟩ := items_head hitems
        rw [current_of_reads h₁]
        rcases hclose with rfl | rfl
        · exact hparen
        · exact hbracket
      obtain ⟨hgrip, hcomma⟩ := closing_grip hclose
      rw [← current_of_reads h₂] at hgrip hcomma
      refine (gives_accept_false hfirst).bind ?_
      refine (ih.items hitems h₁ hgrip hcomma (by omega)).bind ?_
      exact (gives_expect_sign.mpr h₂).bind (gives_pure.mpr ⟨rfl, rfl⟩)

theorem complete_itemsIn (ih : CompleteAt depth) ⦃p : Parser⦄ ⦃ts : List Token⦄ ⦃q : Parser⦄
    ⦃items : List Expr⦄ (h : Items ts items) (hr : Reads p ts q)
    (hq : q.current.token.grip = 0) (hcomma : q.current.token ≠ .sign .comma)
    (hd : 24 * ts.length + 17 ≤ depth + 1) : Gives (itemsIn (depth + 1)) p items q := by
  rw [itemsIn]
  cases h with
  | last hitem =>
      refine (ih.expression hitem hr (by omega) (by omega)).bind ?_
      exact (gives_accept_false hcomma).bind (gives_pure.mpr ⟨rfl, rfl⟩)
  | more hitem hitems =>
      simp only [List.length_cons, List.length_append] at hd
      obtain ⟨p₁, h₁, hr⟩ := reads_append.mp hr
      obtain ⟨ht, p₂, ha, h₂⟩ := reads_cons.mp hr
      refine (ih.expression hitem h₁ (by simp [ht]) (by omega)).bind ?_
      refine (gives_accept_true (reads_singleton.mpr ⟨ht, ha⟩)).bind ?_
      exact (ih.items hitems h₂ hq hcomma (by omega)).bind (gives_pure.mpr ⟨rfl, rfl⟩)

theorem complete_entriesIn (ih : CompleteAt depth) ⦃p : Parser⦄ ⦃ts : List Token⦄ ⦃q : Parser⦄
    ⦃entries : Entries⦄ (h : EntrySequence ts entries)
    (hr : Reads p (ts ++ [.sign .rightBrace]) q) (hd : 24 * ts.length + 2 ≤ depth + 1) :
    Gives (entriesIn (depth + 1)) p entries q := by
  rw [entriesIn]
  cases h with
  | nil => exact (gives_accept_true hr).bind (gives_pure.mpr ⟨rfl, rfl⟩)
  | pairs hpairs =>
      obtain ⟨p₁, h₁, h₂⟩ := reads_append.mp hr
      have hfirst : p.current.token ≠ .sign .rightBrace := by
        obtain ⟨t, key, us, rfl, hkey⟩ := pairs_head hpairs
        rw [current_of_reads h₁]
        cases hkey <;> simp
      have hend := current_of_reads h₂
      refine (gives_accept_false hfirst).bind ?_
      refine (ih.pairs hpairs h₁ (by simp [hend]) (by simp [hend]) (by omega)).bind ?_
      exact (gives_expect_sign.mpr h₂).bind (gives_pure.mpr ⟨rfl, rfl⟩)

theorem complete_pairsIn (ih : CompleteAt depth) ⦃p : Parser⦄ ⦃ts : List Token⦄ ⦃q : Parser⦄
    ⦃entries : Entries⦄ (h : Pairs ts entries) (hr : Reads p ts q)
    (hq : q.current.token.grip = 0) (hcomma : q.current.token ≠ .sign .comma)
    (hd : 24 * ts.length + 1 ≤ depth + 1) : Gives (pairsIn (depth + 1)) p entries q := by
  rw [pairsIn]
  cases h with
  | last hkey hvalue =>
      simp only [List.length_cons] at hd
      obtain ⟨ht, p₁, ha, hr⟩ := reads_cons.mp hr
      obtain ⟨hcolon, p₂, ha', h₂⟩ := reads_cons.mp hr
      refine (gives_objectKey hkey (reads_singleton.mpr ⟨ht, ha⟩)).bind ?_
      refine (gives_expect_sign.mpr (reads_singleton.mpr ⟨hcolon, ha'⟩)).bind ?_
      refine (ih.expression hvalue h₂ (by omega) (by omega)).bind ?_
      exact (gives_accept_false hcomma).bind (gives_pure.mpr ⟨rfl, rfl⟩)
  | more hkey hvalue hpairs =>
      simp only [List.length_cons, List.length_append] at hd
      obtain ⟨ht, p₁, ha, hr⟩ := reads_cons.mp hr
      obtain ⟨hcolon, p₂, ha', hr⟩ := reads_cons.mp hr
      obtain ⟨p₃, h₃, hr⟩ := reads_append.mp hr
      obtain ⟨hnext, p₄, ha'', h₄⟩ := reads_cons.mp hr
      refine (gives_objectKey hkey (reads_singleton.mpr ⟨ht, ha⟩)).bind ?_
      refine (gives_expect_sign.mpr (reads_singleton.mpr ⟨hcolon, ha'⟩)).bind ?_
      refine (ih.expression hvalue h₃ (by simp [hnext]) (by omega)).bind ?_
      refine (gives_accept_true (reads_singleton.mpr ⟨hnext, ha''⟩)).bind ?_
      exact (ih.pairs hpairs h₄ hq hcomma (by omega)).bind (gives_pure.mpr ⟨rfl, rfl⟩)

/-- No rule fits into no depth. -/
theorem complete_zero {step : Parse α} {rule : List Token → α → Prop} {limit cost : Nat}
    (hcost : 0 < cost) : Complete step rule limit cost 0 := by
  intro p ts q a _ _ _ hd
  omega

/-- The parser reads everything that the grammar derives, as far as its depth goes. -/
theorem completeAt (depth : Nat) : CompleteAt depth := by
  induction depth with
  | zero =>
      exact {
        expression := complete_zero (by decide)
        chain := by
          intro level p ts q e h hr hq hd
          have hlevel := chain_level_le h
          simp only [BinaryOp.tightestChain] at hlevel
          omega
        tail := fun _ => complete_zero (by decide)
        unary := complete_zero (by decide)
        ops := by intros; omega
        power := complete_zero (by decide)
        access := complete_zero (by decide)
        keys := complete_zero (by decide)
        primary := complete_zero (by decide)
        sequence := by intros; omega
        items := by intros; omega
        entries := by intros; omega
        pairs := by intros; omega }
  | succ depth ih =>
      exact {
        expression := complete_expressionIn ih
        chain := complete_chainIn ih
        tail := complete_tailIn ih
        unary := complete_unaryIn ih
        ops := complete_opsIn ih
        power := complete_powerIn ih
        access := complete_accessIn ih
        keys := complete_keysIn ih
        primary := complete_primaryIn ih
        sequence := complete_sequenceIn ih
        items := complete_itemsIn ih
        entries := complete_entriesIn ih
        pairs := complete_pairsIn ih }

end Parse
end Guest
