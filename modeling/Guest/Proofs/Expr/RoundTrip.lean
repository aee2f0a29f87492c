import Guest.Proofs.Expr.Exactness
import Guest.Proofs.Expr.Printing
import Guest.Proofs.Token.Writing

/-!
# Parsing what was printed

The tokens of a well-formed expression derive the expression, by the rule of its strength.  A rule
of some strength applies wherever a looser one is required, and between parentheses the loosest
rule gives the tightest.  Hence parsing the text of a well-formed expression gives the expression
back.
-/

namespace Guest
namespace Expr

open Grammar

/-! ## Rules by strength -/

/-- Tokens derive an expression by the rule of a strength. -/
inductive Binds : Nat → List Token → Expr → Prop where
  | expression {ts e} :
      Expression ts e → Binds 0 ts e
  | chain {level ts e} :
      0 < level → level ≤ BinaryOp.tightestChain + 1 → Chain level ts e → Binds level ts e
  | power {ts e} :
      Power ts e → Binds 12 ts e
  | access {ts e} :
      Access ts e → Binds 13 ts e
  | primary {ts e} :
      Primary ts e → Binds 14 ts e

variable {e : Expr} {ts us : List Token} {level limit : Nat}

theorem chain_of_binds (hpos : 0 < level) (hlevel : level ≤ BinaryOp.tightestChain + 1)
    (h : Binds level ts e) : Chain level ts e := by
  cases h with
  | expression => exact absurd hpos (by decide)
  | chain _ _ h => exact h
  | power => exact absurd hlevel (by decide)
  | access => exact absurd hlevel (by decide)
  | primary => exact absurd hlevel (by decide)

theorem unary_of_chain (hlevel : BinaryOp.tightestChain < level) (h : Chain level ts e) :
    Unary ts e := by
  cases h with
  | operands hle => exact absurd hlevel (Nat.not_lt.mpr hle)
  | unary h => exact h

theorem unary_of_binds (h : Binds 11 ts e) : Unary ts e :=
  unary_of_chain (by decide) (chain_of_binds (by decide) (by decide) h)

theorem power_of_binds (h : Binds 12 ts e) : Power ts e := by
  cases h with
  | chain _ hlevel => exact absurd hlevel (by decide)
  | power h => exact h

theorem access_of_binds (h : Binds 13 ts e) : Access ts e := by
  cases h with
  | chain _ hlevel => exact absurd hlevel (by decide)
  | access h => exact h

theorem primary_of_binds (h : Binds 14 ts e) : Primary ts e := by
  cases h with
  | chain _ hlevel => exact absurd hlevel (by decide)
  | primary h => exact h

/-- A rule applies where a rule that is looser by one is required. -/
theorem binds_of_succ (h : Binds (level + 1) ts e) : Binds level ts e := by
  generalize hnext : level + 1 = next at h
  cases h with
  | expression => exact absurd hnext (Nat.succ_ne_zero _)
  | @chain next ts e _ hle h =>
      subst hnext
      by_cases hpos : 0 < level
      · have hlevel : level ≤ BinaryOp.tightestChain := Nat.le_of_succ_le_succ hle
        have hchain := Chain.operands hlevel h .nil
        rw [List.append_nil] at hchain
        exact .chain hpos (Nat.le_succ_of_le hlevel) hchain
      · obtain rfl : level = 0 := Nat.eq_zero_of_not_pos hpos
        exact .expression (.chain h)
  | power h =>
      obtain rfl : level = 11 := Nat.succ.inj hnext
      exact .chain (by decide) (by decide) (.unary (.prefixes .nil h))
  | access h =>
      obtain rfl : level = 12 := Nat.succ.inj hnext
      exact .power (.base h)
  | primary h =>
      obtain rfl : level = 13 := Nat.succ.inj hnext
      have haccess := Access.keys h .nil
      rw [List.append_nil] at haccess
      exact .access haccess

theorem binds_of_le (hle : limit ≤ level) (h : Binds level ts e) : Binds limit ts e := by
  induction hle with
  | refl => exact h
  | step _ ih => exact ih (binds_of_succ h)

theorem expression_of_binds (h : Binds level ts e) : Expression ts e := by
  cases binds_of_le (Nat.zero_le _) h with
  | expression h => exact h
  | chain hpos => exact absurd hpos (by decide)

/-- With parentheses where its strength is less than the limit, an expression stands wherever the
limit is required. -/
theorem binds_wrap (hlimit : limit ≤ 14) (h : Binds e.strength ts e) :
    Binds limit (wrap (e.strength < limit) ts) e := by
  by_cases hless : e.strength < limit
  · rw [wrap, if_pos (decide_eq_true hless)]
    exact binds_of_le hlimit (.primary (.group (expression_of_binds h)))
  · rw [wrap, if_neg (by simpa using hless)]
    exact binds_of_le (Nat.not_lt.mp hless) h

/-! ## Derivations of the tokens of an expression -/

theorem prefixes_tokens (ops : List UnaryOp) : Prefixes (ops.map UnaryOp.token) ops := by
  induction ops with
  | nil => exact .nil
  | cons op ops ih => exact .cons op.unaryOp?_token ih

theorem prefixed_of_ne_nil {ops : List UnaryOp} (h : ops ≠ []) :
    prefixed e ops = .unary ops e := by
  cases ops with
  | nil => exact absurd rfl h
  | cons op ops => rfl

theorem accessed_of_ne_nil {keys : List Key} (h : keys ≠ []) :
    accessed e keys = .accessor e keys := by
  cases keys with
  | nil => exact absurd rfl h
  | cons key keys => rfl

theorem level_pos (op : BinaryOp) : 0 < op.level := by
  cases op <;> decide

/-- All operators but the power are those of a chain. -/
theorem limits_of_ne_power {op : BinaryOp} (h : op ≠ .power) :
    op.level ≤ BinaryOp.tightestChain ∧ op.strength = op.level ∧
      op.leftLimit = op.level + 1 ∧ op.rightLimit = op.level + 1 := by
  cases op <;> first | decide | exact absurd rfl h

theorem ne_power_of_level_le {op : BinaryOp} (h : op.level ≤ BinaryOp.tightestChain) :
    op ≠ .power := by
  rintro rfl
  exact absurd h (by decide)

/-- An operand of a chain. -/
theorem chain_wrap (hlevel : level ≤ BinaryOp.tightestChain) (h : Binds e.strength ts e) :
    Chain (level + 1) (wrap (e.strength < level + 1) ts) e := by
  have hlimit : level + 1 ≤ 14 := Nat.le_trans (Nat.succ_le_succ hlevel) (by decide)
  exact chain_of_binds (Nat.succ_pos _) (Nat.succ_le_succ hlevel) (binds_wrap hlimit h)

/-- The test of a conditional. -/
theorem chain_wrap_test (h : Binds e.strength ts e) : Chain 1 (wrap (e.strength < 1) ts) e :=
  chain_of_binds (by decide) (by decide) (binds_wrap (by decide) h)

theorem items_of_sequence {item : Expr} {more : List Expr} (h : Sequence ts (item :: more)) :
    Items ts (item :: more) := by
  cases h with
  | items h => exact h

theorem pairs_of_entrySequence {entry : String × Expr} {more : Entries}
    (h : EntrySequence ts (entry :: more)) : Pairs ts (entry :: more) := by
  cases h with
  | pairs h => exact h

mutual

/-- The tokens of a well-formed expression derive it by the rule of its strength. -/
theorem binds_tokens {e : Expr} : e.WellFormed → Binds e.strength e.tokens e
  | .null => .primary .null
  | .boolean b => .primary (.boolean b)
  | .number h => .primary (.number _)
  | .string s => .primary (.string s)
  | .array hitems => by
      rw [tokens]
      exact .primary (.array (sequence_itemTokens hitems))
  | .object hentries => by
      rw [tokens]
      exact .primary (.object (entrySequence_entryTokens hentries))
  | .identifier _ => .primary (.identifier _)
  | @WellFormed.unary ops _ hops hoperand => by
      have hpower := power_of_binds (binds_wrap (by decide) (binds_tokens hoperand))
      have hunary := Unary.prefixes (prefixes_tokens ops) hpower
      rw [prefixed_of_ne_nil hops] at hunary
      change Binds 11 _ _
      rw [tokens]
      exact .chain (by decide) (by decide) (.unary hunary)
  | .binary _ hhead (@WellFormedTail.cons _ op _ _ hop hright hmore) hsingle => by
      rw [tokens, tailTokens]
      by_cases hpower : op = .power
      · subst hpower
        obtain rfl := List.length_eq_zero_iff.mp (Nat.succ.inj (hsingle hop.symm))
        have hbase := access_of_binds (binds_wrap (by decide) (binds_tokens hhead))
        have hexponent := unary_of_binds (binds_wrap (by decide) (binds_tokens hright))
        rw [tailTokens, List.append_nil]
        exact .power (.power hbase hexponent)
      · obtain ⟨hlevel, hstrength, hleft, hlimit⟩ := limits_of_ne_power hpower
        have hchain := chain_wrap hlevel (binds_tokens hhead)
        have hoperand := chain_wrap hlevel (binds_tokens hright)
        have hrest := tail_tailTokens hlevel (hop ▸ hmore)
        have htail := Tail.cons op.binaryOp?_token rfl hoperand hrest
        rw [headLimit, hleft, hlimit, strength, hstrength]
        exact .chain (level_pos op) (Nat.le_succ_of_le hlevel) (.operands hlevel hchain htail)
  | .conditional htest .none hwhenFalse => by
      have hchain := chain_wrap_test (binds_tokens htest)
      rw [tokens, branchTokens]
      exact .expression (.elvis hchain (expression_of_binds (binds_tokens hwhenFalse)))
  | .conditional htest (.some hbranch) hwhenFalse => by
      have hchain := chain_wrap_test (binds_tokens htest)
      rw [tokens, branchTokens, List.cons_append, List.append_assoc]
      exact .expression (.conditional hchain (expression_of_binds (binds_tokens hbranch))
        (expression_of_binds (binds_tokens hwhenFalse)))
  | .accessor hkeys hbase hsteps => by
      have hprimary := primary_of_binds (binds_wrap (by decide) (binds_tokens hbase))
      have haccess := Access.keys hprimary (keys_keyTokens hsteps)
      rw [accessed_of_ne_nil hkeys] at haccess
      rw [tokens]
      exact .access haccess
  | .call _ hargs => by
      rw [tokens]
      exact .primary (.call (sequence_itemTokens hargs))

theorem sequence_itemTokens {items : List Expr} :
    WellFormedItems items → Sequence (itemTokens items) items
  | .nil => .nil
  | .cons hitem .nil => .items (.last (expression_of_binds (binds_tokens hitem)))
  | .cons hitem (.cons hnext hmore) => by
      have hitems := items_of_sequence (sequence_itemTokens (.cons hnext hmore))
      rw [itemTokens]
      · exact .items (.more (expression_of_binds (binds_tokens hitem)) hitems)
      · simp

theorem entrySequence_entryTokens {entries : Entries} :
    WellFormedEntries entries → EntrySequence (entryTokens entries) entries
  | .nil => .nil
  | .cons hvalue .nil =>
      .pairs (.last (.string _) (expression_of_binds (binds_tokens hvalue)))
  | .cons hvalue (@WellFormedEntries.cons key _ _ hnext hmore) => by
      have hrest := entrySequence_entryTokens (@WellFormedEntries.cons key _ _ hnext hmore)
      have hpairs := pairs_of_entrySequence hrest
      rw [entryTokens]
      · exact .pairs (.more (.string _) (expression_of_binds (binds_tokens hvalue)) hpairs)
      · simp

theorem tail_tailTokens {level : Nat} {tail : List (BinaryOp × Expr)}
    (hlevel : level ≤ BinaryOp.tightestChain) :
    WellFormedTail level tail → Tail level (tailTokens tail) tail
  | .nil => .nil
  | @WellFormedTail.cons _ op _ _ hop hright hmore => by
      have hoperand := chain_wrap hlevel (binds_tokens hright)
      have hrest := tail_tailTokens hlevel hmore
      have hlimit := (limits_of_ne_power (ne_power_of_level_le (hop ▸ hlevel))).2.2.2
      rw [tailTokens, hlimit, hop]
      exact .cons op.binaryOp?_token hop hoperand hrest

theorem keys_keyTokens {keys : List Key} : WellFormedKeys keys → Keys (keyTokens keys) keys
  | .nil => .nil
  | @WellFormedKeys.name name _ hmore => by
      have htext : Expression [.string name] (.literal (.string name)) :=
        expression_of_binds (.primary (.string name))
      rw [keyTokens]
      exact .text htext (keys_keyTokens hmore)
  | .computed hkey hwell hmore => by
      rw [keyTokens]
      exact .computed (expression_of_binds (binds_tokens hwell)) hkey (keys_keyTokens hmore)

end

/-- Parsing the text of a well-formed expression gives the expression back. -/
theorem parse_print {e : Expr} (h : e.WellFormed) : parse .extended e.print = .ok e := by
  have hyields : (Lexer.ofString .extended e.print).Yields e.tokens := by
    rw [Lexer.ofString, print, String.toList_ofList]
    exact Lexer.yields_spellAll (allSpellable_tokens h)
  exact parse_of_derivation hyields (expression_of_binds (binds_tokens h))

theorem isName_a : Token.IsName "a" := rfl

/-- Parentheses only around the base of the power, a quote inside of a text, and a choice without
a first branch. -/
theorem parse_print_choice :
    let e : Expr :=
      .conditional
        (.binary (.unary [.not] (.identifier "a"))
          [(.add, .accessor (.call "a" [.literal .null]) [.name "k"])])
        none
        (.binary (.unary [.minus] (.literal (.number .zero))) [(.power, .literal (.string "b'"))])
    e.WellFormed ∧ e.print = "! a + a ( null ) [ 'k' ] ?: ( - 0 ) ** 'b\\''" ∧
      parse .extended e.print = .ok e := by
  intro e
  have htest : WellFormed (.binary (.unary [.not] (.identifier "a"))
      [(.add, .accessor (.call "a" [.literal .null]) [.name "k"])]) :=
    .binary (by simp) (.unary (by simp) (.identifier isName_a))
      (.cons rfl (.accessor (by simp) (.call isName_a (.cons .null .nil)) (.name .nil)) .nil)
      (by decide)
  have hpower : WellFormed
      (.binary (.unary [.minus] (.literal (.number .zero))) [(.power, .literal (.string "b'"))]) :=
    .binary (by simp) (.unary (by simp) (.number representable_zero))
      (.cons rfl (.string "b'") .nil) (fun _ => rfl)
  have hwell : e.WellFormed := .conditional htest .none hpower
  exact ⟨hwell, rfl, parse_print hwell⟩

end Expr
end Guest
