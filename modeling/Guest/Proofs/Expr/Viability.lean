import Guest.Proofs.Expr.Refusals
import Guest.Proofs.Expr.RoundTrip

/-!
# What a refusing parser has read can be completed

Where the parser of expressions refuses a token, the tokens in front of it begin a list that derives
an expression.  What is missing is put together from a few tokens: an operand, a name, and the signs
that close what is open.
-/

namespace Guest
namespace Parse

open Guest.Parser Grammar

variable {α β : Type} {p q r : Parser} {depth level : Nat} {close : Sign}
  {ts us vs more : List Token} {rule : List Token → α → Prop} {rule' : List Token → β → Prop}

/-- The tokens that complete what a parser has read, with their texts. -/
inductive Filler : Token → String → Prop where
  | null : Filler .null "null"
  | name : Filler (.identifier "x") "x"
  | colon : Filler (.sign .colon) ":"
  | rightParen : Filler (.sign .rightParen) ")"
  | rightBracket : Filler (.sign .rightBracket) "]"
  | rightBrace : Filler (.sign .rightBrace) "\x7d"

/-- A list of fillers. -/
def Fills (ts : List Token) : Prop := ∀ t ∈ ts, ∃ text, Filler t text

theorem fills_nil : Fills [] := List.forall_mem_nil _

theorem fills_cons {t : Token} : Fills (t :: ts) ↔ (∃ text, Filler t text) ∧ Fills ts :=
  List.forall_mem_cons

theorem fills_append : Fills (ts ++ us) ↔ Fills ts ∧ Fills us := List.forall_mem_append

/-- What a parser reads between two places begins a list of a rule, and fillers complete it. -/
def Viable (rule : List Token → α → Prop) (p q : Parser) : Prop :=
  ∃ ts more a, Reads p ts q ∧ Fills more ∧ rule (ts ++ more) a

theorem viable_of_reads (hr : Reads p ts q) (hmore : Fills more)
    (h : ∃ a, rule (ts ++ more) a) : Viable rule p q := by
  obtain ⟨a, ha⟩ := h
  exact ⟨ts, more, a, hr, hmore, ha⟩

/-- A rule that contains another one between some tokens and fillers is viable with it. -/
theorem Viable.extend (h : Viable rule r q) (hr : Reads p ts r) (hvs : Fills vs)
    (hrule : ∀ us a, rule us a → ∃ b, rule' (ts ++ (us ++ vs)) b) : Viable rule' p q := by
  obtain ⟨us, more, a, hus, hmore, ha⟩ := h
  obtain ⟨b, hb⟩ := hrule _ a ha
  refine ⟨ts ++ us, more ++ vs, b, hr.trans hus, fills_append.mpr ⟨hmore, hvs⟩, ?_⟩
  simpa using hb

/-- A rule that starts with another one is viable with it. -/
theorem Viable.finish (h : Viable rule p q) (hvs : Fills vs)
    (hrule : ∀ us a, rule us a → ∃ b, rule' (us ++ vs) b) : Viable rule' p q :=
  h.extend (.nil p) hvs hrule

/-! ## The shortest lists of the rules -/

theorem binds_null (hlevel : level ≤ 14) : Expr.Binds level [.null] (.literal .null) :=
  Expr.binds_of_le hlevel (.primary .null)

theorem expression_null : Expression [.null] (.literal .null) :=
  Expr.expression_of_binds (binds_null (Nat.le_refl 14))

theorem fills_null : Fills [.null] := fills_cons.mpr ⟨⟨_, .null⟩, fills_nil⟩

theorem fills_close (h : ∃ text, Filler (.sign close) text) : Fills [.sign close] :=
  fills_cons.mpr ⟨h, fills_nil⟩

theorem fills_colon_null : Fills [.sign .colon, .null] := fills_cons.mpr ⟨⟨_, .colon⟩, fills_null⟩

/-! ## Every refusal is viable -/

/-- Where a step refuses a token, what it has read begins a list of its rule, at a depth that covers
the tokens ahead and a constant cost. -/
def Completes (step : Nat → Parse α) (rule : List Token → α → Prop) (cost depth : Nat) : Prop :=
  ∀ ⦃p q⦄, 24 * p.left + cost ≤ depth → Refuses (step depth) p q → Viable rule p q

/-- What the functions of the parser have read where they refuse a token begins a list of their
rule. -/
structure CompletesAt (depth : Nat) : Prop where
  expression : Completes expressionIn Expression 16 depth
  chain : ∀ level, 0 < level → level ≤ BinaryOp.tightestChain + 1 →
    Completes (chainIn · level) (Chain level) (16 - level) depth
  tail : ∀ level, 0 < level → level ≤ BinaryOp.tightestChain →
    Completes (tailIn · level) (Tail level) 1 depth
  unary : Completes unaryIn Unary 4 depth
  ops : ∀ ⦃p q⦄, 24 * p.left + 1 ≤ depth → ¬Refuses (opsIn depth) p q
  power : Completes powerIn Power 3 depth
  access : Completes accessIn Access 2 depth
  keys : Completes keysIn Keys 1 depth
  primary : Completes primaryIn Primary 1 depth
  sequence : ∀ close, close = .rightParen ∨ close = .rightBracket → Completes (sequenceIn · close)
    (fun ts items => ∃ us, ts = us ++ [.sign close] ∧ Sequence us items) 18 depth
  items : Completes itemsIn Items 17 depth
  entries : Completes entriesIn
    (fun ts entries => ∃ us, ts = us ++ [.sign .rightBrace] ∧ EntrySequence us entries) 2 depth
  pairs : Completes pairsIn Pairs 1 depth

theorem completes_expressionIn (ih : CompletesAt depth) :
    Completes expressionIn Expression 16 (depth + 1) := by
  intro p q hd h
  rw [expressionIn] at h
  rcases refuses_bind.mp h with h | ⟨test, p₁, htest, h⟩
  · refine (ih.chain 1 (by decide) (by decide) (by omega) h).finish fills_nil fun us e htest => ?_
    exact ⟨e, by simpa using Expression.chain htest⟩
  have hleft₁ := left_lt_of_chain (by decide) htest
  obtain ⟨ts, hts, dtest⟩ := (soundAt depth).chain 1 (by decide) htest
  rw [refuses_peek_bind] at h
  split at h
  · next hquestion =>
      rcases refuses_bind.mp h with h | ⟨_, p₂, ha, h⟩
      · exact absurd h not_refuses_advance
      have hleft₂ := left_lt_of_advance hquestion (by simp) ha
      have hr₂ := hts.trans (reads_sign hquestion ha)
      rcases refuses_bind.mp h with h | ⟨whenTrue, p₃, htrue, h⟩
      · refine (ih.expression (by omega) h).extend hr₂ fills_colon_null fun us e dtrue => ?_
        exact ⟨_, by simpa using Expression.conditional dtest dtrue expression_null⟩
      have hleft₃ := left_lt_of_expression htrue
      obtain ⟨us, hus, dtrue⟩ := (soundAt depth).expression htrue
      have hr₃ := hr₂.trans hus
      rcases refuses_bind.mp h with h | ⟨_, p₄, hcolon, h⟩
      · obtain ⟨-, rfl⟩ := refuses_expect.mp h
        refine viable_of_reads hr₃ fills_colon_null ?_
        exact ⟨_, by simpa using Expression.conditional dtest dtrue expression_null⟩
      have hcolon := gives_expect_sign.mp hcolon
      have hleft₄ := left_lt_of_sign hcolon
      rcases refuses_bind.mp h with h | ⟨whenFalse, p₅, -, h⟩
      · refine (ih.expression (by omega) h).extend (hr₃.trans hcolon) fills_nil
          fun vs e dfalse => ?_
        exact ⟨_, by simpa using Expression.conditional dtest dtrue dfalse⟩
      · exact absurd h not_refuses_pure
  · next helvis =>
      rcases refuses_bind.mp h with h | ⟨_, p₂, ha, h⟩
      · exact absurd h not_refuses_advance
      have hleft₂ := left_lt_of_advance helvis (by simp) ha
      rcases refuses_bind.mp h with h | ⟨whenFalse, p₃, -, h⟩
      · have hr₂ := hts.trans (reads_sign helvis ha)
        refine (ih.expression (by omega) h).extend hr₂ fills_nil fun vs e dfalse => ?_
        exact ⟨_, by simpa using Expression.elvis dtest dfalse⟩
      · exact absurd h not_refuses_pure
  · exact absurd h not_refuses_pure

theorem completes_chainIn (ih : CompletesAt depth) (hpos : 0 < level)
    (hlevel : level ≤ BinaryOp.tightestChain + 1) :
    Completes (chainIn · level) (Chain level) (16 - level) (depth + 1) := by
  intro p q hd h
  dsimp only at h
  rw [chainIn] at h
  split at h
  · next htight =>
      obtain rfl : level = BinaryOp.tightestChain + 1 := by omega
      simp only [BinaryOp.tightestChain] at hd
      refine (ih.unary (by omega) h).finish fills_nil fun us e dunary => ⟨e, ?_⟩
      simpa using Chain.unary dunary
  · next htight =>
      have hlevel : level ≤ BinaryOp.tightestChain := by omega
      have hbound := hlevel
      simp only [BinaryOp.tightestChain] at hbound
      rcases refuses_bind.mp h with h | ⟨head, p₁, hhead, h⟩
      · have hhead := ih.chain (level + 1) (by omega) (by omega) (by omega) h
        refine hhead.finish fills_nil fun us e dhead => ⟨e, ?_⟩
        simpa [chainOf] using Chain.operands hlevel dhead .nil
      have hleft₁ := left_lt_of_chain (by omega) hhead
      obtain ⟨ts, hts, dhead⟩ := (soundAt depth).chain (level + 1) (by omega) hhead
      rcases refuses_bind.mp h with h | ⟨tail, p₂, -, h⟩
      · refine (ih.tail level hpos hlevel (by omega) h).extend hts fills_nil fun us tail dtail => ?_
        exact ⟨_, by simpa using Chain.operands hlevel dhead dtail⟩
      · split at h <;> exact absurd h not_refuses_pure

theorem completes_tailIn (ih : CompletesAt depth) (hpos : 0 < level)
    (hlevel : level ≤ BinaryOp.tightestChain) :
    Completes (tailIn · level) (Tail level) 1 (depth + 1) := by
  intro p q hd h
  have hbound := hlevel
  simp only [BinaryOp.tightestChain] at hbound
  dsimp only at h
  rw [tailIn, refuses_peek_bind] at h
  split at h
  · exact absurd h not_refuses_pure
  · next op hop =>
      obtain ⟨htoken, hop⟩ := chainOp?_eq_some.mp hop
      rcases refuses_bind.mp h with h | ⟨_, p₁, ha, h⟩
      · exact absurd h not_refuses_advance
      have hleft₁ := left_lt_of_advance rfl (ne_endOfText_of_binaryOp? htoken) ha
      rcases refuses_bind.mp h with h | ⟨right, p₂, hright, h⟩
      · have hright := ih.chain (level + 1) (by omega) (by omega) (by omega) h
        refine hright.extend (.of_advance ha) fills_nil fun us e dright => ?_
        exact ⟨_, by simpa using Tail.cons htoken hop dright .nil⟩
      have hleft₂ := left_lt_of_chain (by omega) hright
      obtain ⟨ts, hts, dright⟩ := (soundAt depth).chain (level + 1) (by omega) hright
      rcases refuses_bind.mp h with h | ⟨tail, p₃, -, h⟩
      · have hr₂ := (Reads.of_advance ha).trans hts
        refine (ih.tail level hpos hlevel (by omega) h).extend hr₂ fills_nil fun us tail dtail => ?_
        exact ⟨_, by simpa using Tail.cons htoken hop dright dtail⟩
      · exact absurd h not_refuses_pure

theorem completes_unaryIn (ih : CompletesAt depth) : Completes unaryIn Unary 4 (depth + 1) := by
  intro p q hd h
  rw [unaryIn] at h
  rcases refuses_bind.mp h with h | ⟨ops, p₁, hops, h⟩
  · exact absurd h (ih.ops (by omega))
  have hleft₁ := left_le_of_ops hops
  obtain ⟨us, hus, dops⟩ := (soundAt depth).ops hops
  have hpower : Refuses (powerIn depth) p₁ q := by
    split at h
    · exact h
    · rcases refuses_bind.mp h with h | ⟨operand, p₂, -, h⟩
      · exact h
      · exact absurd h not_refuses_pure
  refine (ih.power (by omega) hpower).extend hus fills_nil fun ts e dpower => ?_
  exact ⟨_, by simpa using Unary.prefixes dops dpower⟩

theorem not_refuses_opsIn (ih : CompletesAt depth) (hd : 24 * p.left + 1 ≤ depth + 1) :
    ¬Refuses (opsIn (depth + 1)) p q := by
  intro h
  rw [opsIn, refuses_peek_bind] at h
  split at h
  · exact not_refuses_pure h
  · next op hop =>
      rcases refuses_bind.mp h with h | ⟨_, p₁, ha, h⟩
      · exact not_refuses_advance h
      have hleft₁ := left_lt_of_advance rfl (ne_endOfText_of_unaryOp? hop) ha
      rcases refuses_bind.mp h with h | ⟨ops, p₂, -, h⟩
      · exact ih.ops (by omega) h
      · exact not_refuses_pure h

theorem completes_powerIn (ih : CompletesAt depth) : Completes powerIn Power 3 (depth + 1) := by
  intro p q hd h
  rw [powerIn] at h
  rcases refuses_bind.mp h with h | ⟨base, p₁, hbase, h⟩
  · refine (ih.access (by omega) h).finish fills_nil fun us e dbase => ⟨e, ?_⟩
    simpa using Power.base dbase
  have hleft₁ := left_lt_of_access hbase
  obtain ⟨ts, hts, dbase⟩ := (soundAt depth).access hbase
  rcases refuses_bind.mp h with h | ⟨more, p₂, hmore, h⟩
  · exact absurd h not_refuses_accept
  rcases gives_accept.mp hmore with ⟨rfl, hstar⟩ | ⟨rfl, -, rfl⟩
  · have hleft₂ := left_lt_of_sign hstar
    rcases refuses_bind.mp h with h | ⟨exponent, p₃, -, h⟩
    · refine (ih.unary (by omega) h).extend (hts.trans hstar) fills_nil fun us e dexponent => ?_
      exact ⟨_, by simpa using Power.power dbase dexponent⟩
    · exact absurd h not_refuses_pure
  · exact absurd h not_refuses_pure

theorem completes_accessIn (ih : CompletesAt depth) :
    Completes accessIn Access 2 (depth + 1) := by
  intro p q hd h
  rw [accessIn] at h
  rcases refuses_bind.mp h with h | ⟨base, p₁, hbase, h⟩
  · refine (ih.primary (by omega) h).finish fills_nil fun us e dbase => ⟨e, ?_⟩
    simpa [accessed] using Access.keys dbase .nil
  have hleft₁ := left_lt_of_primary hbase
  obtain ⟨ts, hts, dbase⟩ := (soundAt depth).primary hbase
  rcases refuses_bind.mp h with h | ⟨keys, p₂, -, h⟩
  · refine (ih.keys (by omega) h).extend hts fills_nil fun us keys dkeys => ?_
    exact ⟨_, by simpa using Access.keys dbase dkeys⟩
  · split at h <;> exact absurd h not_refuses_pure

theorem completes_propertyName (h : Refuses propertyName p q) :
    Viable (fun ts name => ts = [.identifier name]) p q := by
  rw [propertyName, refuses_peek_bind] at h
  split at h
  · rcases refuses_bind.mp h with h | ⟨_, r, -, h⟩
    · exact absurd h not_refuses_advance
    · exact absurd h not_refuses_pure
  · obtain rfl := refuses_unexpected.mp h
    exact viable_of_reads (.nil p) (fills_cons.mpr ⟨⟨_, .name⟩, fills_nil⟩) ⟨"x", rfl⟩

theorem completes_keysIn (ih : CompletesAt depth) : Completes keysIn Keys 1 (depth + 1) := by
  intro p q hd h
  rw [keysIn, refuses_peek_bind] at h
  split at h
  · next hdot =>
      rcases refuses_bind.mp h with h | ⟨_, p₁, ha, h⟩
      · exact absurd h not_refuses_advance
      have hr₁ := reads_sign hdot ha
      have hleft₁ := left_lt_of_advance hdot (by simp) ha
      rcases refuses_bind.mp h with h | ⟨name, p₂, hname, h⟩
      · refine (completes_propertyName h).extend hr₁ fills_nil fun us name hname => ?_
        subst hname
        exact ⟨_, .dot .nil⟩
      have hleft₂ := left_lt_of_propertyName hname
      obtain ⟨_, hts, rfl⟩ := sound_propertyName hname
      rcases refuses_bind.mp h with h | ⟨keys, p₃, -, h⟩
      · refine (ih.keys (by omega) h).extend (hr₁.trans hts) fills_nil fun us keys dkeys => ?_
        exact ⟨_, by simpa using Keys.dot dkeys⟩
      · exact absurd h not_refuses_pure
  · next hopen =>
      rcases refuses_bind.mp h with h | ⟨_, p₁, ha, h⟩
      · exact absurd h not_refuses_advance
      have hr₁ := reads_sign hopen ha
      have hleft₁ := left_lt_of_advance hopen (by simp) ha
      rcases refuses_bind.mp h with h | ⟨key, p₂, hkey, h⟩
      · refine (ih.expression (by omega) h).extend hr₁ (fills_close ⟨_, .rightBracket⟩)
          fun us key dkey => ?_
        exact ⟨_, by simpa using keys_bracket dkey .nil⟩
      have hleft₂ := left_lt_of_expression hkey
      obtain ⟨ts, hts, dkey⟩ := (soundAt depth).expression hkey
      have hr₂ := hr₁.trans hts
      rcases refuses_bind.mp h with h | ⟨_, p₃, hclose, h⟩
      · obtain ⟨-, rfl⟩ := refuses_expect.mp h
        refine viable_of_reads hr₂ (fills_close ⟨_, .rightBracket⟩) ?_
        exact ⟨_, by simpa using keys_bracket dkey .nil⟩
      have hclose := gives_expect_sign.mp hclose
      have hleft₃ := left_lt_of_sign hclose
      rcases refuses_bind.mp h with h | ⟨keys, p₄, -, h⟩
      · refine (ih.keys (by omega) h).extend (hr₂.trans hclose) fills_nil fun us keys dkeys => ?_
        exact ⟨_, by simpa using keys_bracket dkey dkeys⟩
      · exact absurd h not_refuses_pure
  · exact absurd h not_refuses_pure

theorem completes_primaryIn (ih : CompletesAt depth) :
    Completes primaryIn Primary 1 (depth + 1) := by
  intro p q hd h
  rw [primaryIn, refuses_peek_bind] at h
  split at h
  · exact absurd h not_refuses_takeLiteral
  · exact absurd h not_refuses_takeLiteral
  · exact absurd h not_refuses_takeLiteral
  · exact absurd h not_refuses_takeLiteral
  · next name ht =>
      rcases refuses_bind.mp h with h | ⟨_, p₁, ha, h⟩
      · exact absurd h not_refuses_advance
      have hleft₁ := left_lt_of_advance ht (by simp) ha
      rcases refuses_bind.mp h with h | ⟨called, p₂, hcalled, h⟩
      · exact absurd h not_refuses_accept
      rcases gives_accept.mp hcalled with ⟨rfl, hopen⟩ | ⟨rfl, -, rfl⟩
      · have hleft₂ := left_lt_of_sign hopen
        rcases refuses_bind.mp h with h | ⟨args, p₃, -, h⟩
        · have hr := (reads_singleton.mpr ⟨ht, ha⟩).trans hopen
          refine (ih.sequence _ (.inl rfl) (by omega) h).extend hr fills_nil ?_
          rintro _ args ⟨us, rfl, dargs⟩
          exact ⟨_, by simpa using Primary.call dargs⟩
        · exact absurd h not_refuses_pure
      · exact absurd h not_refuses_pure
  · next hopen =>
      rcases refuses_bind.mp h with h | ⟨_, p₁, ha, h⟩
      · exact absurd h not_refuses_advance
      have hr₁ := reads_sign hopen ha
      have hleft₁ := left_lt_of_advance hopen (by simp) ha
      rcases refuses_bind.mp h with h | ⟨inner, p₂, hinner, h⟩
      · refine (ih.expression (by omega) h).extend hr₁ (fills_close ⟨_, .rightParen⟩)
          fun us e dinner => ?_
        exact ⟨_, by simpa using Primary.group dinner⟩
      obtain ⟨ts, hts, dinner⟩ := (soundAt depth).expression hinner
      rcases refuses_bind.mp h with h | ⟨_, p₃, -, h⟩
      · obtain ⟨-, rfl⟩ := refuses_expect.mp h
        refine viable_of_reads (hr₁.trans hts) (fills_close ⟨_, .rightParen⟩) ?_
        exact ⟨_, by simpa using Primary.group dinner⟩
      · exact absurd h not_refuses_pure
  · next hopen =>
      rcases refuses_bind.mp h with h | ⟨_, p₁, ha, h⟩
      · exact absurd h not_refuses_advance
      have hleft₁ := left_lt_of_advance hopen (by simp) ha
      rcases refuses_bind.mp h with h | ⟨items, p₂, -, h⟩
      · have hr := reads_sign hopen ha
        refine (ih.sequence _ (.inr rfl) (by omega) h).extend hr fills_nil ?_
        rintro _ items ⟨us, rfl, ditems⟩
        exact ⟨_, by simpa using Primary.array ditems⟩
      · exact absurd h not_refuses_pure
  · next hopen =>
      rcases refuses_bind.mp h with h | ⟨_, p₁, ha, h⟩
      · exact absurd h not_refuses_advance
      have hleft₁ := left_lt_of_advance hopen (by simp) ha
      rcases refuses_bind.mp h with h | ⟨entries, p₂, -, h⟩
      · refine (ih.entries (by omega) h).extend (reads_sign hopen ha) fills_nil ?_
        rintro _ entries ⟨us, rfl, dentries⟩
        exact ⟨_, by simpa using Primary.object dentries⟩
      · exact absurd h not_refuses_pure
  · obtain rfl := refuses_unexpected.mp h
    exact viable_of_reads (.nil p) fills_null ⟨_, .null⟩

theorem completes_sequenceIn (ih : CompletesAt depth)
    (hclose : close = .rightParen ∨ close = .rightBracket) :
    Completes (sequenceIn · close)
      (fun ts items => ∃ us, ts = us ++ [.sign close] ∧ Sequence us items) 18 (depth + 1) := by
  intro p q hd h
  have hfills : Fills [.sign close] := by
    rcases hclose with rfl | rfl
    · exact fills_close ⟨_, .rightParen⟩
    · exact fills_close ⟨_, .rightBracket⟩
  dsimp only at h
  rw [sequenceIn] at h
  rcases refuses_bind.mp h with h | ⟨empty, p₁, hempty, h⟩
  · exact absurd h not_refuses_accept
  rcases gives_accept.mp hempty with ⟨rfl, -⟩ | ⟨rfl, -, rfl⟩
  · exact absurd h not_refuses_pure
  rcases refuses_bind.mp h with h | ⟨items, p₂, hitems, h⟩
  · refine (ih.items (by omega) h).finish hfills fun us items ditems => ?_
    exact ⟨items, us, rfl, .items ditems⟩
  obtain ⟨ts, hts, ditems⟩ := (soundAt depth).items hitems
  rcases refuses_bind.mp h with h | ⟨_, p₃, -, h⟩
  · obtain ⟨-, rfl⟩ := refuses_expect.mp h
    exact viable_of_reads hts hfills ⟨_, ts, rfl, .items ditems⟩
  · exact absurd h not_refuses_pure

theorem completes_itemsIn (ih : CompletesAt depth) : Completes itemsIn Items 17 (depth + 1) := by
  intro p q hd h
  rw [itemsIn] at h
  rcases refuses_bind.mp h with h | ⟨item, p₁, hitem, h⟩
  · refine (ih.expression (by omega) h).finish fills_nil fun us e ditem => ?_
    exact ⟨_, by simpa using Items.last ditem⟩
  have hleft₁ := left_lt_of_expression hitem
  obtain ⟨ts, hts, ditem⟩ := (soundAt depth).expression hitem
  rcases refuses_bind.mp h with h | ⟨more, p₂, hmore, h⟩
  · exact absurd h not_refuses_accept
  rcases gives_accept.mp hmore with ⟨rfl, hcomma⟩ | ⟨rfl, -, rfl⟩
  · have hleft₂ := left_lt_of_sign hcomma
    rcases refuses_bind.mp h with h | ⟨items, p₃, -, h⟩
    · refine (ih.items (by omega) h).extend (hts.trans hcomma) fills_nil fun us items ditems => ?_
      exact ⟨_, by simpa using Items.more ditem ditems⟩
    · exact absurd h not_refuses_pure
  · exact absurd h not_refuses_pure

theorem completes_entriesIn (ih : CompletesAt depth) : Completes entriesIn
    (fun ts entries => ∃ us, ts = us ++ [.sign .rightBrace] ∧ EntrySequence us entries) 2
    (depth + 1) := by
  intro p q hd h
  have hfills : Fills [.sign .rightBrace] := fills_close ⟨_, .rightBrace⟩
  rw [entriesIn] at h
  rcases refuses_bind.mp h with h | ⟨empty, p₁, hempty, h⟩
  · exact absurd h not_refuses_accept
  rcases gives_accept.mp hempty with ⟨rfl, -⟩ | ⟨rfl, -, rfl⟩
  · exact absurd h not_refuses_pure
  rcases refuses_bind.mp h with h | ⟨entries, p₂, hentries, h⟩
  · refine (ih.pairs (by omega) h).finish hfills fun us entries dpairs => ?_
    exact ⟨entries, us, rfl, .pairs dpairs⟩
  obtain ⟨ts, hts, dpairs⟩ := (soundAt depth).pairs hentries
  rcases refuses_bind.mp h with h | ⟨_, p₃, -, h⟩
  · obtain ⟨-, rfl⟩ := refuses_expect.mp h
    exact viable_of_reads hts hfills ⟨_, ts, rfl, .pairs dpairs⟩
  · exact absurd h not_refuses_pure

theorem eq_of_refuses_objectKey (h : Refuses objectKey p q) : p = q := by
  rw [objectKey, refuses_peek_bind] at h
  split at h
  · rcases refuses_bind.mp h with h | ⟨_, r, -, h⟩
    · exact absurd h not_refuses_advance
    · exact absurd h not_refuses_pure
  · rcases refuses_bind.mp h with h | ⟨_, r, -, h⟩
    · exact absurd h not_refuses_advance
    · exact absurd h not_refuses_pure
  · rcases refuses_bind.mp h with h | ⟨_, r, -, h⟩
    · exact absurd h not_refuses_advance
    · exact absurd h not_refuses_pure
  · exact refuses_unexpected.mp h

theorem completes_pairsIn (ih : CompletesAt depth) : Completes pairsIn Pairs 1 (depth + 1) := by
  intro p q hd h
  rw [pairsIn] at h
  rcases refuses_bind.mp h with h | ⟨key, p₁, hkey, h⟩
  · obtain rfl := eq_of_refuses_objectKey h
    have hfills := fills_cons.mpr ⟨⟨_, .name⟩, fills_colon_null⟩
    exact viable_of_reads (.nil p) hfills ⟨_, .last (.identifier "x") expression_null⟩
  have hleft₁ := left_lt_of_objectKey hkey
  obtain ⟨_, hr₁, t, rfl, hkey⟩ := sound_objectKey hkey
  rcases refuses_bind.mp h with h | ⟨_, p₂, hcolon, h⟩
  · obtain ⟨-, rfl⟩ := refuses_expect.mp h
    exact viable_of_reads hr₁ fills_colon_null ⟨_, .last hkey expression_null⟩
  have hcolon := gives_expect_sign.mp hcolon
  have hleft₂ := left_lt_of_sign hcolon
  have hr₂ := hr₁.trans hcolon
  rcases refuses_bind.mp h with h | ⟨value, p₃, hvalue, h⟩
  · refine (ih.expression (by omega) h).extend hr₂ fills_nil fun us e dvalue => ?_
    exact ⟨_, by simpa using Pairs.last hkey dvalue⟩
  have hleft₃ := left_lt_of_expression hvalue
  obtain ⟨ts, hts, dvalue⟩ := (soundAt depth).expression hvalue
  rcases refuses_bind.mp h with h | ⟨more, p₄, hmore, h⟩
  · exact absurd h not_refuses_accept
  rcases gives_accept.mp hmore with ⟨rfl, hcomma⟩ | ⟨rfl, -, rfl⟩
  · have hleft₄ := left_lt_of_sign hcomma
    rcases refuses_bind.mp h with h | ⟨entries, p₅, -, h⟩
    · have hr₄ := (hr₂.trans hts).trans hcomma
      refine (ih.pairs (by omega) h).extend hr₄ fills_nil fun us entries dpairs => ?_
      exact ⟨_, by simpa using Pairs.more hkey dvalue dpairs⟩
    · exact absurd h not_refuses_pure
  · exact absurd h not_refuses_pure

theorem completes_zero {step : Nat → Parse α} {cost : Nat} (hcost : 0 < cost) :
    Completes step rule cost 0 := by
  intro p q hd
  omega

theorem completesAt (depth : Nat) : CompletesAt depth := by
  induction depth with
  | zero =>
      exact {
        expression := completes_zero (by decide)
        chain := fun level _ hlevel =>
          completes_zero (by simp only [BinaryOp.tightestChain] at hlevel; omega)
        tail := fun _ _ _ => completes_zero (by decide)
        unary := completes_zero (by decide)
        ops := fun _ _ hd => by omega
        power := completes_zero (by decide)
        access := completes_zero (by decide)
        keys := completes_zero (by decide)
        primary := completes_zero (by decide)
        sequence := fun _ _ => completes_zero (by decide)
        items := completes_zero (by decide)
        entries := completes_zero (by decide)
        pairs := completes_zero (by decide) }
  | succ depth ih =>
      exact {
        expression := completes_expressionIn ih
        chain := fun _ => completes_chainIn ih
        tail := fun _ => completes_tailIn ih
        unary := completes_unaryIn ih
        ops := fun _ _ => not_refuses_opsIn ih
        power := completes_powerIn ih
        access := completes_accessIn ih
        keys := completes_keysIn ih
        primary := completes_primaryIn ih
        sequence := fun _ => completes_sequenceIn ih
        items := completes_itemsIn ih
        entries := completes_entriesIn ih
        pairs := completes_pairsIn ih }

theorem refuses_expression : Refuses expression p q ↔ Refuses (expressionIn p.depth) p q := by
  unfold Refuses expression
  exact Iff.rfl

/-- What the parser has read in front of a token that it refuses begins an expression. -/
theorem viable_expression (h : Refuses expression p q) : Viable Expression p q := by
  have hleft := left_le_depth p
  exact (completesAt p.depth).expression (by omega) (refuses_expression.mp h)

end Parse
end Guest
