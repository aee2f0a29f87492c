import Guest.Proofs.Expr.Exactness
import Guest.Proofs.Parser.Invariants

/-!
# What the parser of expressions keeps

Every function of the parser is made of steps that consume a token or fail at the next one, so all
of them keep what these steps keep.
-/

namespace Guest
namespace Parse

open Guest.Parser

variable {inv : Parser → Prop} {blame : ParseError → Parser → Prop} {p q : Parser}
  {depth level : Nat} {close : Sign}

/-- The functions of the parser keep a property of parsers, and their errors have one. -/
structure KeepsAt (inv : Parser → Prop) (blame : ParseError → Parser → Prop) (depth : Nat) :
    Prop where
  expression : Keeps inv blame (expressionIn depth)
  chain : ∀ level, Keeps inv blame (chainIn depth level)
  tail : ∀ level, Keeps inv blame (tailIn depth level)
  unary : Keeps inv blame (unaryIn depth)
  ops : Keeps inv blame (opsIn depth)
  power : Keeps inv blame (powerIn depth)
  access : Keeps inv blame (accessIn depth)
  keys : Keeps inv blame (keysIn depth)
  primary : Keeps inv blame (primaryIn depth)
  sequence : ∀ close, Keeps inv blame (sequenceIn depth close)
  items : Keeps inv blame (itemsIn depth)
  entries : Keeps inv blame (entriesIn depth)
  pairs : Keeps inv blame (pairsIn depth)

variable (h : Invariant inv blame)
include h

theorem keeps_takeLiteral {v : Value} : Keeps inv blame (takeLiteral v) := by
  constructor
  · intro p e q hp hgives
    exact h.advance hp (gives_takeLiteral.mp hgives).2
  · intro p e q hp hfails
    have hadvance :
        advance { p with current := { p.current with token := .endOfText } } = .error e q := by
      change EStateM.bind advance _ _ = _ at hfails
      unfold EStateM.bind at hfails
      split at hfails
      · cases hfails
      · next hadvance =>
          cases hfails
          exact hadvance
    obtain ⟨error, moved, hnext, rfl⟩ := exists_of_fails_advance hadvance
    exact h.lex hp hnext q

theorem keeps_objectKey : Keeps inv blame objectKey := by
  refine keeps_peek.bind fun t => ?_
  split
  · exact (keeps_advance h).bind fun _ => keeps_pure
  · exact (keeps_advance h).bind fun _ => keeps_pure
  · exact (keeps_advance h).bind fun _ => keeps_pure
  · exact keeps_unexpected h

theorem keeps_propertyName : Keeps inv blame propertyName := by
  refine keeps_peek.bind fun t => ?_
  split
  · exact (keeps_advance h).bind fun _ => keeps_pure
  · exact keeps_unexpected h

theorem keeps_expressionIn (ih : KeepsAt inv blame depth) :
    Keeps inv blame (expressionIn (depth + 1)) := by
  rw [expressionIn]
  refine (ih.chain 1).bind fun test => keeps_peek.bind fun t => ?_
  split
  · refine (keeps_advance h).bind fun _ => ih.expression.bind fun _ => ?_
    exact (keeps_expect h).bind fun _ => ih.expression.bind fun _ => keeps_pure
  · exact (keeps_advance h).bind fun _ => ih.expression.bind fun _ => keeps_pure
  · exact keeps_pure

omit h in
theorem keeps_chainIn (ih : KeepsAt inv blame depth) :
    Keeps inv blame (chainIn (depth + 1) level) := by
  rw [chainIn]
  split
  · exact ih.unary
  · refine (ih.chain (level + 1)).bind fun head => (ih.tail level).bind fun tail => ?_
    split <;> exact keeps_pure

theorem keeps_tailIn (ih : KeepsAt inv blame depth) :
    Keeps inv blame (tailIn (depth + 1) level) := by
  rw [tailIn]
  refine keeps_peek.bind fun t => ?_
  split
  · exact keeps_pure
  · refine (keeps_advance h).bind fun _ => (ih.chain (level + 1)).bind fun _ => ?_
    exact (ih.tail level).bind fun _ => keeps_pure

omit h in
theorem keeps_unaryIn (ih : KeepsAt inv blame depth) : Keeps inv blame (unaryIn (depth + 1)) := by
  rw [unaryIn]
  refine ih.ops.bind fun ops => ?_
  split
  · exact ih.power
  · exact ih.power.bind fun _ => keeps_pure

theorem keeps_opsIn (ih : KeepsAt inv blame depth) : Keeps inv blame (opsIn (depth + 1)) := by
  rw [opsIn]
  refine keeps_peek.bind fun t => ?_
  split
  · exact keeps_pure
  · exact (keeps_advance h).bind fun _ => ih.ops.bind fun _ => keeps_pure

theorem keeps_powerIn (ih : KeepsAt inv blame depth) : Keeps inv blame (powerIn (depth + 1)) := by
  rw [powerIn]
  refine ih.access.bind fun base => (keeps_accept h).bind fun more => ?_
  split
  · exact ih.unary.bind fun _ => keeps_pure
  · exact keeps_pure

omit h in
theorem keeps_accessIn (ih : KeepsAt inv blame depth) : Keeps inv blame (accessIn (depth + 1)) := by
  rw [accessIn]
  refine ih.primary.bind fun base => ih.keys.bind fun keys => ?_
  split <;> exact keeps_pure

theorem keeps_keysIn (ih : KeepsAt inv blame depth) : Keeps inv blame (keysIn (depth + 1)) := by
  rw [keysIn]
  refine keeps_peek.bind fun t => ?_
  split
  · refine (keeps_advance h).bind fun _ => (keeps_propertyName h).bind fun _ => ?_
    exact ih.keys.bind fun _ => keeps_pure
  · refine (keeps_advance h).bind fun _ => ih.expression.bind fun _ => ?_
    exact (keeps_expect h).bind fun _ => ih.keys.bind fun _ => keeps_pure
  · exact keeps_pure

theorem keeps_primaryIn (ih : KeepsAt inv blame depth) :
    Keeps inv blame (primaryIn (depth + 1)) := by
  rw [primaryIn]
  refine keeps_peek.bind fun t => ?_
  split
  · exact keeps_takeLiteral h
  · exact keeps_takeLiteral h
  · exact keeps_takeLiteral h
  · exact keeps_takeLiteral h
  · refine (keeps_advance h).bind fun _ => (keeps_accept h).bind fun called => ?_
    split
    · exact (ih.sequence _).bind fun _ => keeps_pure
    · exact keeps_pure
  · refine (keeps_advance h).bind fun _ => ih.expression.bind fun _ => ?_
    exact (keeps_expect h).bind fun _ => keeps_pure
  · exact (keeps_advance h).bind fun _ => (ih.sequence _).bind fun _ => keeps_pure
  · exact (keeps_advance h).bind fun _ => ih.entries.bind fun _ => keeps_pure
  · exact keeps_unexpected h

theorem keeps_sequenceIn (ih : KeepsAt inv blame depth) :
    Keeps inv blame (sequenceIn (depth + 1) close) := by
  rw [sequenceIn]
  refine (keeps_accept h).bind fun empty => ?_
  split
  · exact keeps_pure
  · exact ih.items.bind fun _ => (keeps_expect h).bind fun _ => keeps_pure

theorem keeps_itemsIn (ih : KeepsAt inv blame depth) : Keeps inv blame (itemsIn (depth + 1)) := by
  rw [itemsIn]
  refine ih.expression.bind fun item => (keeps_accept h).bind fun more => ?_
  split
  · exact ih.items.bind fun _ => keeps_pure
  · exact keeps_pure

theorem keeps_entriesIn (ih : KeepsAt inv blame depth) :
    Keeps inv blame (entriesIn (depth + 1)) := by
  rw [entriesIn]
  refine (keeps_accept h).bind fun empty => ?_
  split
  · exact keeps_pure
  · exact ih.pairs.bind fun _ => (keeps_expect h).bind fun _ => keeps_pure

theorem keeps_pairsIn (ih : KeepsAt inv blame depth) : Keeps inv blame (pairsIn (depth + 1)) := by
  rw [pairsIn]
  refine (keeps_objectKey h).bind fun key => (keeps_expect h).bind fun _ => ?_
  refine ih.expression.bind fun value => (keeps_accept h).bind fun more => ?_
  split
  · exact ih.pairs.bind fun _ => keeps_pure
  · exact keeps_pure

theorem keepsAt (depth : Nat) : KeepsAt inv blame depth := by
  induction depth with
  | zero =>
      exact {
        expression := keeps_unexpected h
        chain := fun _ => keeps_unexpected h
        tail := fun _ => keeps_unexpected h
        unary := keeps_unexpected h
        ops := keeps_unexpected h
        power := keeps_unexpected h
        access := keeps_unexpected h
        keys := keeps_unexpected h
        primary := keeps_unexpected h
        sequence := fun _ => keeps_unexpected h
        items := keeps_unexpected h
        entries := keeps_unexpected h
        pairs := keeps_unexpected h }
  | succ depth ih =>
      exact {
        expression := keeps_expressionIn h ih
        chain := fun _ => keeps_chainIn ih
        tail := fun _ => keeps_tailIn h ih
        unary := keeps_unaryIn ih
        ops := keeps_opsIn h ih
        power := keeps_powerIn h ih
        access := keeps_accessIn ih
        keys := keeps_keysIn h ih
        primary := keeps_primaryIn h ih
        sequence := fun _ => keeps_sequenceIn h ih
        items := keeps_itemsIn h ih
        entries := keeps_entriesIn h ih
        pairs := keeps_pairsIn h ih }

/-- An expression keeps what consuming its tokens keeps. -/
theorem keeps_expression : Keeps inv blame expression := by
  constructor
  · intro p e q hp hgives
    exact (keepsAt h p.depth).expression.gives hp (gives_expression.mp hgives)
  · intro p e q hp hfails
    exact (keepsAt h p.depth).expression.fails hp hfails

theorem keeps_wholeExpression : Keeps inv blame wholeExpression := by
  unfold wholeExpression
  exact (keeps_expression h).bind fun _ => (keeps_expect h).bind fun _ => keeps_pure

end Parse
end Guest
