import Guest.Proofs.Expr.Grammar
import Mathlib.Data.List.Chain

/-!
# The stars of expressions

In the tokens of an expression a star stands between two operands.  Hence no list of tokens that
derives an expression has two stars in a row.
-/

namespace Guest
namespace Grammar

variable {t : Token} {ts us : List Token}

/-- Of two tokens, at most one is a star. -/
def NotBothStars (t u : Token) : Prop := t = .sign .star → u ≠ .sign .star

/-- One or more tokens without two stars in a row and without a star at either end. -/
structure Spaced (ts : List Token) : Prop where
  ne_nil : ts ≠ []
  chain : ts.IsChain NotBothStars
  first : .sign .star ∉ ts.head?
  last : .sign .star ∉ ts.getLast?

theorem spaced_singleton (ht : t ≠ .sign .star) : Spaced [t] := by
  refine ⟨List.cons_ne_nil _ _, .singleton t, ?_, ?_⟩
  · simpa using ht
  · simpa using ht

theorem Spaced.append (h : Spaced ts) (h' : Spaced us) : Spaced (ts ++ us) := by
  refine ⟨List.append_ne_nil_of_left_ne_nil h.ne_nil _, ?_, ?_, ?_⟩
  · refine List.isChain_append.mpr ⟨h.chain, h'.chain, ?_⟩
    rintro t ht u hu rfl
    exact absurd ht h.last
  · rw [List.head?_append_of_ne_nil _ h.ne_nil]
    exact h.first
  · rw [List.getLast?_append_of_ne_nil _ h'.ne_nil]
    exact h'.last

theorem Spaced.cons (ht : t ≠ .sign .star) (h : Spaced ts) : Spaced (t :: ts) :=
  (spaced_singleton ht).append h

/-- Between two operands any token may stand. -/
theorem Spaced.between (h : Spaced ts) (h' : Spaced us) : Spaced (ts ++ t :: us) := by
  refine ⟨List.append_ne_nil_of_left_ne_nil h.ne_nil _, ?_, ?_, ?_⟩
  · refine List.isChain_append.mpr ⟨h.chain, List.isChain_cons.mpr ⟨?_, h'.chain⟩, ?_⟩
    · rintro u hu - rfl
      exact h'.first hu
    · rintro t ht u hu rfl
      exact absurd ht h.last
  · rw [List.head?_append_of_ne_nil _ h.ne_nil]
    exact h.first
  · rw [List.getLast?_append_of_ne_nil _ (List.cons_ne_nil _ _), ← List.singleton_append,
      List.getLast?_append_of_ne_nil _ h'.ne_nil]
    exact h'.last

/-- Nothing, or spaced tokens, between two signs that are no stars. -/
theorem spaced_enclosed {s s' : Sign} (hs : s ≠ .star) (hs' : s' ≠ .star)
    (h : ts = [] ∨ Spaced ts) : Spaced (.sign s :: (ts ++ [.sign s'])) := by
  have hopen : Spaced [.sign s] := spaced_singleton (by simpa using hs)
  have hclose : Spaced [.sign s'] := spaced_singleton (by simpa using hs')
  rcases h with rfl | h
  · exact hopen.append hclose
  · exact hopen.append (h.append hclose)

theorem spaced_bracket (h : Spaced ts) :
    Spaced (.sign .leftBracket :: (ts ++ [.sign .rightBracket])) :=
  spaced_enclosed (by decide) (by decide) (.inr h)

theorem append_bracket {keys : List Token} :
    ts ++ .sign .leftBracket :: (us ++ .sign .rightBracket :: keys) =
      ts ++ .sign .leftBracket :: (us ++ [.sign .rightBracket]) ++ keys := by
  simp

theorem ne_star_of_unaryOp? {op : UnaryOp} (h : t.unaryOp? = some op) : t ≠ .sign .star := by
  rintro rfl
  cases h

theorem spaced_prefixes {ops : List UnaryOp} (hops : Prefixes us ops) (h : Spaced ts) :
    Spaced (us ++ ts) := by
  induction hops with
  | nil => exact h
  | cons hop _ ih => exact .cons (ne_star_of_unaryOp? hop) ih

theorem ne_star_of_entryKey {key : String} (h : EntryKey t key) : t ≠ .sign .star := by
  cases h <;> exact Token.noConfusion

-- Operators with their right operands, and accesses, are spaced behind an operand only.
mutual

theorem spaced_expression {ts : List Token} {e : Expr} : Expression ts e → Spaced ts
  | .chain h => spaced_chain h
  | .conditional htest htrue hfalse =>
      (spaced_chain htest).between ((spaced_expression htrue).between (spaced_expression hfalse))
  | .elvis htest hfalse => (spaced_chain htest).between (spaced_expression hfalse)

theorem spaced_chain {level : Nat} {ts : List Token} {e : Expr} : Chain level ts e → Spaced ts
  | .operands _ hhead htail => spaced_tail htail (spaced_chain hhead)
  | .unary h => spaced_unary h

theorem spaced_tail {level : Nat} {ts us : List Token} {tail : List (BinaryOp × Expr)} :
    Tail level us tail → Spaced ts → Spaced (ts ++ us)
  | .nil, h => by rwa [List.append_nil]
  | .cons _ _ hright htail, h => by
      rw [← List.cons_append, ← List.append_assoc]
      exact spaced_tail htail (h.between (spaced_chain hright))

theorem spaced_unary {ts : List Token} {e : Expr} : Unary ts e → Spaced ts
  | .prefixes hops hpower => spaced_prefixes hops (spaced_power hpower)

theorem spaced_power {ts : List Token} {e : Expr} : Power ts e → Spaced ts
  | .base h => spaced_access h
  | .power hbase hexponent => (spaced_access hbase).between (spaced_unary hexponent)

theorem spaced_access {ts : List Token} {e : Expr} : Access ts e → Spaced ts
  | .keys hbase hkeys => spaced_keys hkeys (spaced_primary hbase)

theorem spaced_keys {ts us : List Token} {keys : List Key} :
    Keys us keys → Spaced ts → Spaced (ts ++ us)
  | .nil, h => by rwa [List.append_nil]
  | .dot hkeys, h => by
      rw [List.append_cons, List.append_cons]
      exact spaced_keys hkeys ((h.append (spaced_singleton (by decide))).append
        (spaced_singleton Token.noConfusion))
  | .text hkey hkeys, h => by
      rw [append_bracket]
      exact spaced_keys hkeys (h.append (spaced_bracket (spaced_expression hkey)))
  | .computed hkey _ hkeys, h => by
      rw [append_bracket]
      exact spaced_keys hkeys (h.append (spaced_bracket (spaced_expression hkey)))

theorem spaced_primary {ts : List Token} {e : Expr} : Primary ts e → Spaced ts
  | .number _ => spaced_singleton Token.noConfusion
  | .string _ => spaced_singleton Token.noConfusion
  | .boolean _ => spaced_singleton Token.noConfusion
  | .null => spaced_singleton Token.noConfusion
  | .identifier _ => spaced_singleton Token.noConfusion
  | .call hargs =>
      .cons Token.noConfusion (spaced_enclosed (by decide) (by decide) (spaced_sequence hargs))
  | .group h => spaced_enclosed (by decide) (by decide) (.inr (spaced_expression h))
  | .array hitems => spaced_enclosed (by decide) (by decide) (spaced_sequence hitems)
  | .object hentries => spaced_enclosed (by decide) (by decide) (spaced_entrySequence hentries)

theorem spaced_sequence {ts : List Token} {items : List Expr} :
    Sequence ts items → ts = [] ∨ Spaced ts
  | .nil => .inl rfl
  | .items h => .inr (spaced_items h)

theorem spaced_items {ts : List Token} {items : List Expr} : Items ts items → Spaced ts
  | .last h => spaced_expression h
  | .more h hitems => (spaced_expression h).between (spaced_items hitems)

theorem spaced_entrySequence {ts : List Token} {entries : Entries} :
    EntrySequence ts entries → ts = [] ∨ Spaced ts
  | .nil => .inl rfl
  | .pairs h => .inr (spaced_pairs h)

theorem spaced_pairs {ts : List Token} {entries : Entries} : Pairs ts entries → Spaced ts
  | .last hkey hvalue =>
      (spaced_singleton (ne_star_of_entryKey hkey)).between (spaced_expression hvalue)
  | .more hkey hvalue hpairs =>
      (spaced_singleton (ne_star_of_entryKey hkey)).between
        ((spaced_expression hvalue).between (spaced_pairs hpairs))

end

end Grammar
end Guest
