import Guest.Proofs.Expr.Invariants
import Guest.Proofs.Parser.Refusals

/-!
# Tokens that the parser of expressions refuses

The parser refuses no token that could go on a derivation: as long as the tokens in front of it
begin a list of a rule, the function of the rule goes past them.  With the depth of the recursion
as in the completeness of the parser, all functions are treated at once.
-/

namespace Guest
namespace Parse

open Guest.Parser Grammar

variable {α : Type} {p q : Parser} {depth level : Nat} {close : Sign}

theorem not_refuses_takeLiteral {v : Value} : ¬Refuses (takeLiteral v) p q := by
  intro h
  unfold takeLiteral at h
  rcases refuses_bind.mp h with ⟨position, expected, found, hout⟩ | ⟨_, r, -, h⟩
  · cases hout
  rcases refuses_bind.mp h with ha | ⟨_, r, -, h⟩
  · exact not_refuses_advance ha
  · exact not_refuses_pure h

/-! ## Every step is orderly -/

theorem orderly_propertyName : Orderly propertyName :=
  orderly_of_keeps fun p => keeps_propertyName (invariant_came p)

/-- The functions of the parser consume tokens only and blame the next one. -/
structure OrderlyAt (depth : Nat) : Prop where
  expression : Orderly (expressionIn depth)
  chain : ∀ level, Orderly (chainIn depth level)
  tail : ∀ level, Orderly (tailIn depth level)
  unary : Orderly (unaryIn depth)
  ops : Orderly (opsIn depth)
  power : Orderly (powerIn depth)
  access : Orderly (accessIn depth)
  keys : Orderly (keysIn depth)
  primary : Orderly (primaryIn depth)
  sequence : ∀ close, Orderly (sequenceIn depth close)
  items : Orderly (itemsIn depth)
  entries : Orderly (entriesIn depth)
  pairs : Orderly (pairsIn depth)

theorem orderlyAt (depth : Nat) : OrderlyAt depth := by
  have hkeeps := fun p => keepsAt (invariant_came p) depth
  exact {
    expression := orderly_of_keeps fun p => (hkeeps p).expression
    chain := fun level => orderly_of_keeps fun p => (hkeeps p).chain level
    tail := fun level => orderly_of_keeps fun p => (hkeeps p).tail level
    unary := orderly_of_keeps fun p => (hkeeps p).unary
    ops := orderly_of_keeps fun p => (hkeeps p).ops
    power := orderly_of_keeps fun p => (hkeeps p).power
    access := orderly_of_keeps fun p => (hkeeps p).access
    keys := orderly_of_keeps fun p => (hkeeps p).keys
    primary := orderly_of_keeps fun p => (hkeeps p).primary
    sequence := fun close => orderly_of_keeps fun p => (hkeeps p).sequence close
    items := orderly_of_keeps fun p => (hkeeps p).items
    entries := orderly_of_keeps fun p => (hkeeps p).entries
    pairs := orderly_of_keeps fun p => (hkeeps p).pairs }

/-! ## No step stops in front of a token that goes on a derivation -/

/-- As long as the tokens in front of a parser begin a list of a rule, a step goes past them, at a
depth that covers the tokens ahead and a constant cost. -/
def Follows (step : Nat → Parse α) (rule : List Token → α → Prop) (cost depth : Nat) : Prop :=
  ∀ ⦃p q us a⦄, rule us a → Shares p us q → 24 * p.left + cost ≤ depth → Passes (step depth) p q

/-- The functions of the parser go past all tokens that begin a list of their rule. -/
structure FollowsAt (depth : Nat) : Prop where
  expression : Follows expressionIn Expression 16 depth
  chain : ∀ level, Follows (chainIn · level) (Chain level) (16 - level) depth
  tail : ∀ level, Follows (tailIn · level) (Tail level) 1 depth
  unary : Follows unaryIn Unary 4 depth
  ops : Follows opsIn Prefixes 1 depth
  power : Follows powerIn Power 3 depth
  access : Follows accessIn Access 2 depth
  keys : Follows keysIn Keys 1 depth
  primary : Follows primaryIn Primary 1 depth
  sequence : ∀ close, close = .rightParen ∨ close = .rightBracket → Follows (sequenceIn · close)
    (fun ts items => ∃ us, ts = us ++ [.sign close] ∧ Sequence us items) 18 depth
  items : Follows itemsIn Items 17 depth
  entries : Follows entriesIn
    (fun ts entries => ∃ us, ts = us ++ [.sign .rightBrace] ∧ EntrySequence us entries) 2 depth
  pairs : Follows pairsIn Pairs 1 depth

theorem grip_of_shares_tail {us : List Token} {tail : List (BinaryOp × Expr)}
    (htail : Tail level us tail) (hs : Shares p us q) : p.current.token.grip ≤ level + 1 := by
  cases htail with
  | nil => exact absurd hs not_shares_nil
  | cons htoken hop _ _ =>
      simp [(shares_cons.mp hs).1, Token.grip_of_binaryOp? htoken, hop]

theorem grip_of_shares_keys {us : List Token} {keys : List Key} (hkeys : Keys us keys)
    (hs : Shares p us q) : p.current.token.grip ≤ 13 := by
  cases hkeys with
  | nil => exact absurd hs not_shares_nil
  | dot _ => simp [(shares_cons.mp hs).1]
  | text _ _ => simp [(shares_cons.mp hs).1]
  | computed _ _ _ => simp [(shares_cons.mp hs).1]

theorem follows_expressionIn (ih : FollowsAt depth) :
    Follows expressionIn Expression 16 (depth + 1) := by
  intro p q us e h hs hd
  have ho := orderlyAt depth
  have hc := completeAt depth
  have htest : ∀ {ts test}, Chain 1 ts test → Shares p ts q →
      Passes (expressionIn (depth + 1)) p q := by
    intro ts test dtest hs
    rw [expressionIn]
    refine (ih.chain 1 dtest hs (by omega)).bind fun _ => orderly_peek.bind fun t => ?_
    split
    · refine orderly_advance.bind fun _ => ho.expression.bind fun _ => ?_
      exact orderly_expect.bind fun _ => ho.expression.bind fun _ => orderly_pure
    · exact orderly_advance.bind fun _ => ho.expression.bind fun _ => orderly_pure
    · exact orderly_pure
  cases h with
  | chain dtest => exact htest dtest hs
  | conditional dtest dtrue dfalse =>
      rcases shares_append.mp hs with hs | ⟨p₁, h₁, hs⟩
      · exact htest dtest hs
      have hleft₁ := left_add_length_le h₁ (endless_chain dtest)
      obtain ⟨hquestion, hs⟩ := shares_cons.mp hs
      rw [expressionIn]
      refine passes_of_gives (hc.chain 1 dtest h₁ (by simp [hquestion]) (by omega)) ?_
      rw [passes_peek_bind, hquestion]
      rcases hs with rfl | ⟨p₂, ha, hs⟩
      · refine passes_advance.bind fun _ => ho.expression.bind fun _ => ?_
        exact orderly_expect.bind fun _ => ho.expression.bind fun _ => orderly_pure
      have hleft₂ := left_lt_of_advance hquestion (by simp) ha
      refine passes_of_gives ha ?_
      rcases shares_append.mp hs with hs | ⟨p₃, h₃, hs⟩
      · refine (ih.expression dtrue hs (by omega)).bind fun _ => ?_
        exact orderly_expect.bind fun _ => ho.expression.bind fun _ => orderly_pure
      have hleft₃ := left_add_length_le h₃ (endless_expression dtrue)
      obtain ⟨hcolon, hs⟩ := shares_cons.mp hs
      refine passes_of_gives (hc.expression dtrue h₃ (by simp [hcolon]) (by omega)) ?_
      rcases hs with rfl | ⟨p₄, ha, hs⟩
      · exact (passes_expect_sign hcolon).bind fun _ => ho.expression.bind fun _ => orderly_pure
      have hleft₄ := left_lt_of_advance hcolon (by simp) ha
      refine passes_of_gives (gives_expect_sign.mpr (reads_sign hcolon ha)) ?_
      exact (ih.expression dfalse hs (by omega)).bind fun _ => orderly_pure
  | elvis dtest dfalse =>
      rcases shares_append.mp hs with hs | ⟨p₁, h₁, hs⟩
      · exact htest dtest hs
      have hleft₁ := left_add_length_le h₁ (endless_chain dtest)
      obtain ⟨helvis, hs⟩ := shares_cons.mp hs
      rw [expressionIn]
      refine passes_of_gives (hc.chain 1 dtest h₁ (by simp [helvis]) (by omega)) ?_
      rw [passes_peek_bind, helvis]
      rcases hs with rfl | ⟨p₂, ha, hs⟩
      · exact passes_advance.bind fun _ => ho.expression.bind fun _ => orderly_pure
      have hleft₂ := left_lt_of_advance helvis (by simp) ha
      refine passes_of_gives ha ?_
      exact (ih.expression dfalse hs (by omega)).bind fun _ => orderly_pure

theorem follows_chainIn (ih : FollowsAt depth) (level : Nat) :
    Follows (chainIn · level) (Chain level) (16 - level) (depth + 1) := by
  intro p q us e h hs hd
  have ho := orderlyAt depth
  dsimp only
  rw [chainIn]
  cases h with
  | operands hlevel dhead dtail =>
      simp only [BinaryOp.tightestChain] at hlevel
      rw [if_neg (by simp only [BinaryOp.tightestChain]; omega)]
      rcases shares_append.mp hs with hs | ⟨p₁, h₁, hs⟩
      · refine (ih.chain (level + 1) dhead hs (by omega)).bind fun _ => ?_
        refine (ho.tail level).bind fun tail => ?_
        split <;> exact orderly_pure
      have hpos := chain_length_pos dhead
      have hleft₁ := left_add_length_le h₁ (endless_chain dhead)
      have hgrip := grip_of_shares_tail dtail hs
      have hhead := (completeAt depth).chain (level + 1) dhead h₁ hgrip (by omega)
      refine passes_of_gives hhead ?_
      refine (ih.tail level dtail hs (by omega)).bind fun tail => ?_
      split <;> exact orderly_pure
  | unary dunary =>
      simp only [BinaryOp.tightestChain] at hd ⊢
      exact ih.unary dunary hs (by omega)

theorem follows_tailIn (ih : FollowsAt depth) (level : Nat) :
    Follows (tailIn · level) (Tail level) 1 (depth + 1) := by
  intro p q us tail h hs hd
  have ho := orderlyAt depth
  dsimp only
  cases h with
  | nil => exact absurd hs not_shares_nil
  | cons htoken hop dright dtail =>
      obtain ⟨ht, hs⟩ := shares_cons.mp hs
      rw [tailIn, passes_peek_bind, ht, chainOp?_eq_some.mpr ⟨htoken, hop⟩]
      rcases hs with rfl | ⟨p₁, ha, hs⟩
      · refine passes_advance.bind fun _ => (ho.chain (level + 1)).bind fun _ => ?_
        exact (ho.tail level).bind fun _ => orderly_pure
      have hleft₁ := left_lt_of_advance ht (ne_endOfText_of_binaryOp? htoken) ha
      have hlevel := chain_level_le dright
      simp only [BinaryOp.tightestChain] at hlevel
      refine passes_of_gives ha ?_
      rcases shares_append.mp hs with hs | ⟨p₂, h₂, hs⟩
      · refine (ih.chain (level + 1) dright hs (by omega)).bind fun _ => ?_
        exact (ho.tail level).bind fun _ => orderly_pure
      have hleft₂ := left_add_length_le h₂ (endless_chain dright)
      have hgrip := grip_of_shares_tail dtail hs
      have hright := (completeAt depth).chain (level + 1) dright h₂ hgrip (by omega)
      refine passes_of_gives hright ?_
      exact (ih.tail level dtail hs (by omega)).bind fun _ => orderly_pure

theorem follows_unaryIn (ih : FollowsAt depth) : Follows unaryIn Unary 4 (depth + 1) := by
  intro p q us e h hs hd
  have ho := orderlyAt depth
  rw [unaryIn]
  cases h with
  | @prefixes us ts ops operand dops dpower =>
      rcases shares_append.mp hs with hs | ⟨p₁, h₁, hs⟩
      · refine (ih.ops dops hs (by omega)).bind fun ops => ?_
        split
        · exact ho.power
        · exact ho.power.bind fun _ => orderly_pure
      have hleft₁ := left_add_length_le h₁ (endless_prefixes dops)
      have hhead : p₁.current.token.unaryOp? = none := by
        obtain ⟨t, vs, rfl, ht, -⟩ := power_head dpower
        rw [(shares_cons.mp hs).1, ht]
      refine passes_of_gives ((completeAt depth).ops dops h₁ hhead (by omega)) ?_
      have hpower := ih.power dpower hs (by omega)
      cases ops with
      | nil => exact hpower
      | cons first rest => exact hpower.bind fun _ => orderly_pure

theorem follows_opsIn (ih : FollowsAt depth) : Follows opsIn Prefixes 1 (depth + 1) := by
  intro p q us ops h hs hd
  cases h with
  | nil => exact absurd hs not_shares_nil
  | cons hop dops =>
      obtain ⟨ht, hs⟩ := shares_cons.mp hs
      rw [opsIn, passes_peek_bind, ht, hop]
      rcases hs with rfl | ⟨p₁, ha, hs⟩
      · exact passes_advance.bind fun _ => (orderlyAt depth).ops.bind fun _ => orderly_pure
      have hleft₁ := left_lt_of_advance ht (ne_endOfText_of_unaryOp? hop) ha
      refine passes_of_gives ha ?_
      exact (ih.ops dops hs (by omega)).bind fun _ => orderly_pure

theorem follows_powerIn (ih : FollowsAt depth) : Follows powerIn Power 3 (depth + 1) := by
  intro p q us e h hs hd
  have ho := orderlyAt depth
  have hbase : ∀ {ts base}, Access ts base → Shares p ts q →
      Passes (powerIn (depth + 1)) p q := by
    intro ts base dbase hs
    rw [powerIn]
    refine (ih.access dbase hs (by omega)).bind fun _ => orderly_accept.bind fun more => ?_
    split
    · exact ho.unary.bind fun _ => orderly_pure
    · exact orderly_pure
  cases h with
  | base dbase => exact hbase dbase hs
  | power dbase dexponent =>
      rcases shares_append.mp hs with hs | ⟨p₁, h₁, hs⟩
      · exact hbase dbase hs
      have hleft₁ := left_add_length_le h₁ (endless_access dbase)
      obtain ⟨hstar, hs⟩ := shares_cons.mp hs
      have hgives := (completeAt depth).access dbase h₁ (by simp [hstar]) (by omega)
      rw [powerIn]
      refine passes_of_gives hgives ?_
      rcases hs with rfl | ⟨p₂, ha, hs⟩
      · refine (passes_accept hstar).bind fun more => ?_
        split
        · exact ho.unary.bind fun _ => orderly_pure
        · exact orderly_pure
      have hleft₂ := left_lt_of_advance hstar (by simp) ha
      refine passes_of_gives (gives_accept_true (reads_sign hstar ha)) ?_
      exact (ih.unary dexponent hs (by omega)).bind fun _ => orderly_pure

theorem follows_accessIn (ih : FollowsAt depth) : Follows accessIn Access 2 (depth + 1) := by
  intro p q us e h hs hd
  rw [accessIn]
  cases h with
  | keys dbase dkeys =>
      rcases shares_append.mp hs with hs | ⟨p₁, h₁, hs⟩
      · refine (ih.primary dbase hs (by omega)).bind fun _ => ?_
        refine (orderlyAt depth).keys.bind fun keys => ?_
        split <;> exact orderly_pure
      have hpos := primary_length_pos dbase
      have hleft₁ := left_add_length_le h₁ (endless_primary dbase)
      have hgrip := grip_of_shares_keys dkeys hs
      refine passes_of_gives ((completeAt depth).primary dbase h₁ hgrip (by omega)) ?_
      refine (ih.keys dkeys hs (by omega)).bind fun keys => ?_
      split <;> exact orderly_pure

/-- A key in brackets and the keys behind it. -/
theorem passes_bracket (ih : FollowsAt depth) {ts us : List Token} {key : Expr} {keys : List Key}
    (dkey : Expression ts key) (dkeys : Keys us keys)
    (hs : Shares p (.sign .leftBracket :: (ts ++ .sign .rightBracket :: us)) q)
    (hd : 24 * p.left + 1 ≤ depth + 1) : Passes (keysIn (depth + 1)) p q := by
  have ho := orderlyAt depth
  obtain ⟨hopen, hs⟩ := shares_cons.mp hs
  rw [keysIn, passes_peek_bind, hopen]
  rcases hs with rfl | ⟨p₁, ha, hs⟩
  · refine passes_advance.bind fun _ => ho.expression.bind fun _ => ?_
    exact orderly_expect.bind fun _ => ho.keys.bind fun _ => orderly_pure
  have hleft₁ := left_lt_of_advance hopen (by simp) ha
  refine passes_of_gives ha ?_
  rcases shares_append.mp hs with hs | ⟨p₂, h₂, hs⟩
  · refine (ih.expression dkey hs (by omega)).bind fun _ => ?_
    exact orderly_expect.bind fun _ => ho.keys.bind fun _ => orderly_pure
  have hleft₂ := left_add_length_le h₂ (endless_expression dkey)
  obtain ⟨hclose, hs⟩ := shares_cons.mp hs
  have hkey := (completeAt depth).expression dkey h₂ (by simp [hclose]) (by omega)
  refine passes_of_gives hkey ?_
  rcases hs with rfl | ⟨p₃, ha, hs⟩
  · exact (passes_expect_sign hclose).bind fun _ => ho.keys.bind fun _ => orderly_pure
  have hleft₃ := left_lt_of_advance hclose (by simp) ha
  refine passes_of_gives (gives_expect_sign.mpr (reads_sign hclose ha)) ?_
  exact (ih.keys dkeys hs (by omega)).bind fun _ => orderly_pure

theorem follows_keysIn (ih : FollowsAt depth) : Follows keysIn Keys 1 (depth + 1) := by
  intro p q us keys h hs hd
  have ho := orderlyAt depth
  cases h with
  | nil => exact absurd hs not_shares_nil
  | @dot name us keys dkeys =>
      obtain ⟨hdot, hs⟩ := shares_cons.mp hs
      rw [keysIn, passes_peek_bind, hdot]
      rcases hs with rfl | ⟨p₁, ha, hs⟩
      · refine passes_advance.bind fun _ => orderly_propertyName.bind fun _ => ?_
        exact ho.keys.bind fun _ => orderly_pure
      have hleft₁ := left_lt_of_advance hdot (by simp) ha
      refine passes_of_gives ha ?_
      obtain ⟨hname, hs⟩ := shares_cons.mp hs
      rcases hs with rfl | ⟨p₂, ha, hs⟩
      · have hpasses : Passes propertyName p₁ p₁ := by
          rw [propertyName, passes_peek_bind, hname]
          exact passes_advance.bind fun _ => orderly_pure
        exact hpasses.bind fun _ => ho.keys.bind fun _ => orderly_pure
      have hleft₂ := left_lt_of_advance hname (by simp) ha
      refine passes_of_gives (gives_propertyName (reads_singleton.mpr ⟨hname, ha⟩)) ?_
      exact (ih.keys dkeys hs (by omega)).bind fun _ => orderly_pure
  | text dkey dkeys => exact passes_bracket ih dkey dkeys hs hd
  | computed dkey _ dkeys => exact passes_bracket ih dkey dkeys hs hd

theorem passes_takeLiteral {v : Value} : Passes (takeLiteral v) p p := by
  rintro r (⟨e, h⟩ | h)
  · exact ⟨_, [], .of_advance (gives_takeLiteral.mp h).2⟩
  · exact absurd h not_refuses_takeLiteral

theorem follows_primaryIn (ih : FollowsAt depth) : Follows primaryIn Primary 1 (depth + 1) := by
  intro p q us e h hs hd
  have ho := orderlyAt depth
  have hname : ∀ {name}, p.current.token = .identifier name →
      Passes (primaryIn (depth + 1)) p p := by
    intro name ht
    rw [primaryIn, passes_peek_bind, ht]
    refine passes_advance.bind fun _ => orderly_accept.bind fun called => ?_
    split
    · exact (ho.sequence _).bind fun _ => orderly_pure
    · exact orderly_pure
  cases h with
  | number x =>
      obtain ⟨ht, rfl⟩ := shares_singleton.mp hs
      rw [primaryIn, passes_peek_bind, ht]
      exact passes_takeLiteral
  | string s =>
      obtain ⟨ht, rfl⟩ := shares_singleton.mp hs
      rw [primaryIn, passes_peek_bind, ht]
      exact passes_takeLiteral
  | boolean b =>
      obtain ⟨ht, rfl⟩ := shares_singleton.mp hs
      rw [primaryIn, passes_peek_bind, ht]
      exact passes_takeLiteral
  | null =>
      obtain ⟨ht, rfl⟩ := shares_singleton.mp hs
      rw [primaryIn, passes_peek_bind, ht]
      exact passes_takeLiteral
  | identifier name =>
      obtain ⟨ht, rfl⟩ := shares_singleton.mp hs
      exact hname ht
  | call dargs =>
      obtain ⟨ht, hs⟩ := shares_cons.mp hs
      rcases hs with rfl | ⟨p₁, ha, hs⟩
      · exact hname ht
      have hleft₁ := left_lt_of_advance ht (by simp) ha
      rw [primaryIn, passes_peek_bind, ht]
      refine passes_of_gives ha ?_
      obtain ⟨hopen, hs⟩ := shares_cons.mp hs
      rcases hs with rfl | ⟨p₂, ha, hs⟩
      · refine (passes_accept hopen).bind fun called => ?_
        split
        · exact (ho.sequence _).bind fun _ => orderly_pure
        · exact orderly_pure
      have hleft₂ := left_lt_of_advance hopen (by simp) ha
      refine passes_of_gives (gives_accept_true (reads_sign hopen ha)) ?_
      exact (ih.sequence _ (.inl rfl) ⟨_, rfl, dargs⟩ hs (by omega)).bind fun _ => orderly_pure
  | group dinner =>
      obtain ⟨hopen, hs⟩ := shares_cons.mp hs
      rw [primaryIn, passes_peek_bind, hopen]
      rcases hs with rfl | ⟨p₁, ha, hs⟩
      · refine passes_advance.bind fun _ => ho.expression.bind fun _ => ?_
        exact orderly_expect.bind fun _ => orderly_pure
      have hleft₁ := left_lt_of_advance hopen (by simp) ha
      refine passes_of_gives ha ?_
      rcases shares_append.mp hs with hs | ⟨p₂, h₂, hs⟩
      · refine (ih.expression dinner hs (by omega)).bind fun _ => ?_
        exact orderly_expect.bind fun _ => orderly_pure
      have hleft₂ := left_add_length_le h₂ (endless_expression dinner)
      obtain ⟨hclose, rfl⟩ := shares_singleton.mp hs
      have hinner := (completeAt depth).expression dinner h₂ (by simp [hclose]) (by omega)
      refine passes_of_gives hinner ?_
      exact (passes_expect_sign hclose).bind fun _ => orderly_pure
  | array ditems =>
      obtain ⟨hopen, hs⟩ := shares_cons.mp hs
      rw [primaryIn, passes_peek_bind, hopen]
      rcases hs with rfl | ⟨p₁, ha, hs⟩
      · exact passes_advance.bind fun _ => (ho.sequence _).bind fun _ => orderly_pure
      have hleft₁ := left_lt_of_advance hopen (by simp) ha
      refine passes_of_gives ha ?_
      exact (ih.sequence _ (.inr rfl) ⟨_, rfl, ditems⟩ hs (by omega)).bind fun _ => orderly_pure
  | object dentries =>
      obtain ⟨hopen, hs⟩ := shares_cons.mp hs
      rw [primaryIn, passes_peek_bind, hopen]
      rcases hs with rfl | ⟨p₁, ha, hs⟩
      · exact passes_advance.bind fun _ => ho.entries.bind fun _ => orderly_pure
      have hleft₁ := left_lt_of_advance hopen (by simp) ha
      refine passes_of_gives ha ?_
      exact (ih.entries ⟨_, rfl, dentries⟩ hs (by omega)).bind fun _ => orderly_pure

theorem follows_sequenceIn (ih : FollowsAt depth)
    (hclose : close = .rightParen ∨ close = .rightBracket) :
    Follows (sequenceIn · close)
      (fun ts items => ∃ us, ts = us ++ [.sign close] ∧ Sequence us items) 18 (depth + 1) := by
  rintro p q _ items ⟨us, rfl, h⟩ hs hd
  dsimp only
  rw [sequenceIn]
  cases h with
  | nil =>
      obtain ⟨ht, rfl⟩ := shares_singleton.mp hs
      refine (passes_accept ht).bind fun empty => ?_
      split
      · exact orderly_pure
      · exact (orderlyAt depth).items.bind fun _ => orderly_expect.bind fun _ => orderly_pure
  | items ditems =>
      have hopening : p.current.token ≠ .sign close := by
        obtain ⟨t, vs, rfl, ht⟩ := items_head ditems
        rw [(shares_cons.mp hs).1]
        rcases hclose with rfl | rfl
        · exact ht.1
        · exact ht.2
      refine passes_of_gives (gives_accept_false hopening) ?_
      rcases shares_append.mp hs with hs | ⟨p₁, h₁, hs⟩
      · refine (ih.items ditems hs (by omega)).bind fun _ => ?_
        exact orderly_expect.bind fun _ => orderly_pure
      have hleft₁ := left_add_length_le h₁ (endless_items ditems)
      obtain ⟨ht, rfl⟩ := shares_singleton.mp hs
      have hgrip : p₁.current.token.grip = 0 := by
        rcases hclose with rfl | rfl <;> simp [ht]
      have hcomma : p₁.current.token ≠ .sign .comma := by
        rcases hclose with rfl | rfl <;> simp [ht]
      refine passes_of_gives ((completeAt depth).items ditems h₁ hgrip hcomma (by omega)) ?_
      exact (passes_expect_sign ht).bind fun _ => orderly_pure

theorem follows_itemsIn (ih : FollowsAt depth) : Follows itemsIn Items 17 (depth + 1) := by
  intro p q us items h hs hd
  have ho := orderlyAt depth
  have hitem : ∀ {ts item}, Expression ts item → Shares p ts q →
      Passes (itemsIn (depth + 1)) p q := by
    intro ts item ditem hs
    rw [itemsIn]
    refine (ih.expression ditem hs (by omega)).bind fun _ => orderly_accept.bind fun more => ?_
    split
    · exact ho.items.bind fun _ => orderly_pure
    · exact orderly_pure
  cases h with
  | last ditem => exact hitem ditem hs
  | more ditem ditems =>
      rcases shares_append.mp hs with hs | ⟨p₁, h₁, hs⟩
      · exact hitem ditem hs
      have hleft₁ := left_add_length_le h₁ (endless_expression ditem)
      obtain ⟨hcomma, hs⟩ := shares_cons.mp hs
      have hgives := (completeAt depth).expression ditem h₁ (by simp [hcomma]) (by omega)
      rw [itemsIn]
      refine passes_of_gives hgives ?_
      rcases hs with rfl | ⟨p₂, ha, hs⟩
      · refine (passes_accept hcomma).bind fun more => ?_
        split
        · exact ho.items.bind fun _ => orderly_pure
        · exact orderly_pure
      have hleft₂ := left_lt_of_advance hcomma (by simp) ha
      refine passes_of_gives (gives_accept_true (reads_sign hcomma ha)) ?_
      exact (ih.items ditems hs (by omega)).bind fun _ => orderly_pure

theorem follows_entriesIn (ih : FollowsAt depth) : Follows entriesIn
    (fun ts entries => ∃ us, ts = us ++ [.sign .rightBrace] ∧ EntrySequence us entries) 2
    (depth + 1) := by
  rintro p q _ entries ⟨us, rfl, h⟩ hs hd
  rw [entriesIn]
  cases h with
  | nil =>
      obtain ⟨ht, rfl⟩ := shares_singleton.mp hs
      refine (passes_accept ht).bind fun empty => ?_
      split
      · exact orderly_pure
      · exact (orderlyAt depth).pairs.bind fun _ => orderly_expect.bind fun _ => orderly_pure
  | pairs dpairs =>
      have hkey : p.current.token ≠ .sign .rightBrace := by
        obtain ⟨t, key, vs, rfl, hkey⟩ := pairs_head dpairs
        rw [(shares_cons.mp hs).1]
        cases hkey <;> simp
      refine passes_of_gives (gives_accept_false hkey) ?_
      rcases shares_append.mp hs with hs | ⟨p₁, h₁, hs⟩
      · refine (ih.pairs dpairs hs (by omega)).bind fun _ => ?_
        exact orderly_expect.bind fun _ => orderly_pure
      have hleft₁ := left_add_length_le h₁ (endless_pairs dpairs)
      obtain ⟨ht, rfl⟩ := shares_singleton.mp hs
      have hpairs := (completeAt depth).pairs dpairs h₁ (by simp [ht]) (by simp [ht]) (by omega)
      refine passes_of_gives hpairs ?_
      exact (passes_expect_sign ht).bind fun _ => orderly_pure

theorem passes_objectKey {t : Token} {key : String} (hkey : EntryKey t key)
    (ht : p.current.token = t) : Passes objectKey p p := by
  rw [objectKey, passes_peek_bind, ht]
  cases hkey <;> exact passes_advance.bind fun _ => orderly_pure

/-- The key, the colon and the value of an entry. -/
theorem passes_entry (ih : FollowsAt depth) {token : Token} {key : String} {ts : List Token}
    {value : Expr} (hkey : EntryKey token key) (dvalue : Expression ts value)
    (hs : Shares p (token :: .sign .colon :: ts) q) (hd : 24 * p.left + 1 ≤ depth + 1) :
    Passes (pairsIn (depth + 1)) p q := by
  have ho := orderlyAt depth
  have hmore : ∀ (key : String) (value : Expr), Orderly do
      if ← accept .comma then return (key, value) :: (← pairsIn depth)
      else return [(key, value)] := by
    intro key value
    refine orderly_accept.bind fun more => ?_
    split
    · exact ho.pairs.bind fun _ => orderly_pure
    · exact orderly_pure
  rw [pairsIn]
  obtain ⟨ht, hs⟩ := shares_cons.mp hs
  rcases hs with rfl | ⟨p₁, ha, hs⟩
  · refine (passes_objectKey hkey ht).bind fun _ => orderly_expect.bind fun _ => ?_
    exact ho.expression.bind fun _ => hmore _ _
  have hleft₁ := left_lt_of_advance ht (ne_endOfText_of_entryKey hkey) ha
  refine passes_of_gives (gives_objectKey hkey (reads_singleton.mpr ⟨ht, ha⟩)) ?_
  obtain ⟨hcolon, hs⟩ := shares_cons.mp hs
  rcases hs with rfl | ⟨p₂, ha, hs⟩
  · exact (passes_expect_sign hcolon).bind fun _ => ho.expression.bind fun _ => hmore _ _
  have hleft₂ := left_lt_of_advance hcolon (by simp) ha
  refine passes_of_gives (gives_expect_sign.mpr (reads_sign hcolon ha)) ?_
  exact (ih.expression dvalue hs (by omega)).bind fun _ => hmore _ _

theorem follows_pairsIn (ih : FollowsAt depth) : Follows pairsIn Pairs 1 (depth + 1) := by
  intro p q us entries h hs hd
  have ho := orderlyAt depth
  cases h with
  | last hkey dvalue => exact passes_entry ih hkey dvalue hs hd
  | @more token key ts us value entries hkey dvalue dpairs =>
      have hsplit : token :: .sign .colon :: (ts ++ .sign .comma :: us) =
        (token :: .sign .colon :: ts) ++ .sign .comma :: us := rfl
      rw [hsplit] at hs
      rcases shares_append.mp hs with hs | ⟨p₃, hr, hs⟩
      · exact passes_entry ih hkey dvalue hs hd
      obtain ⟨ht, p₁, ha, hr⟩ := reads_cons.mp hr
      obtain ⟨hcolon, p₂, hcolon', hr⟩ := reads_cons.mp hr
      have hleft₁ := left_lt_of_advance ht (ne_endOfText_of_entryKey hkey) ha
      have hleft₂ := left_lt_of_advance hcolon (by simp) hcolon'
      have hleft₃ := left_add_length_le hr (endless_expression dvalue)
      obtain ⟨hcomma, hs⟩ := shares_cons.mp hs
      have hvalue := (completeAt depth).expression dvalue hr (by simp [hcomma]) (by omega)
      rw [pairsIn]
      refine passes_of_gives (gives_objectKey hkey (reads_singleton.mpr ⟨ht, ha⟩)) ?_
      refine passes_of_gives (gives_expect_sign.mpr (reads_sign hcolon hcolon')) ?_
      refine passes_of_gives hvalue ?_
      rcases hs with rfl | ⟨p₄, ha, hs⟩
      · refine (passes_accept hcomma).bind fun more => ?_
        split
        · exact ho.pairs.bind fun _ => orderly_pure
        · exact orderly_pure
      have hleft₄ := left_lt_of_advance hcomma (by simp) ha
      refine passes_of_gives (gives_accept_true (reads_sign hcomma ha)) ?_
      exact (ih.pairs dpairs hs (by omega)).bind fun _ => orderly_pure

/-- No depth covers a cost of its own. -/
theorem follows_zero {step : Nat → Parse α} {rule : List Token → α → Prop} {cost : Nat}
    (hcost : 0 < cost) : Follows step rule cost 0 := by
  intro p q us a _ _ hd
  omega

theorem followsAt (depth : Nat) : FollowsAt depth := by
  induction depth with
  | zero =>
      exact {
        expression := follows_zero (by decide)
        chain := fun level p q us e h _ hd => by
          have hlevel := chain_level_le h
          simp only [BinaryOp.tightestChain] at hlevel
          omega
        tail := fun _ => follows_zero (by decide)
        unary := follows_zero (by decide)
        ops := follows_zero (by decide)
        power := follows_zero (by decide)
        access := follows_zero (by decide)
        keys := follows_zero (by decide)
        primary := follows_zero (by decide)
        sequence := fun _ _ => follows_zero (by decide)
        items := follows_zero (by decide)
        entries := follows_zero (by decide)
        pairs := follows_zero (by decide) }
  | succ depth ih =>
      exact {
        expression := follows_expressionIn ih
        chain := follows_chainIn ih
        tail := follows_tailIn ih
        unary := follows_unaryIn ih
        ops := follows_opsIn ih
        power := follows_powerIn ih
        access := follows_accessIn ih
        keys := follows_keysIn ih
        primary := follows_primaryIn ih
        sequence := fun _ => follows_sequenceIn ih
        items := follows_itemsIn ih
        entries := follows_entriesIn ih
        pairs := follows_pairsIn ih }

/-- An expression is not refused at a token with which it could go on. -/
theorem passes_expression {us : List Token} {e : Expr} (h : Expression us e) (hs : Shares p us q) :
    Passes expression p q := by
  have hleft := left_le_depth p
  have hpasses := (followsAt p.depth).expression h hs (by omega)
  unfold Passes Halts Refuses Gives expression
  exact hpasses

theorem orderly_expression : Orderly expression :=
  orderly_of_keeps fun p => keeps_expression (invariant_came p)

theorem orderly_wholeExpression : Orderly wholeExpression :=
  orderly_expression.bind fun _ => orderly_expect.bind fun _ => orderly_pure

end Parse
end Guest
