import Guest.Proofs.Expr.Completeness

/-!
# The braces of expressions

Every list of tokens that derives an expression, or entries of an object, has its braces in pairs.
-/

namespace Guest
namespace Grammar

variable {t : Token} {ts us : List Token}

/-- A token that is no brace. -/
def Braceless (t : Token) : Prop := t ≠ .sign .leftBrace ∧ t ≠ .sign .rightBrace

/-- The braces of a list stand in pairs. -/
inductive Braced : List Token → Prop where
  | nil :
      Braced []
  | cons {t : Token} {ts : List Token} :
      Braceless t → Braced ts → Braced (t :: ts)
  | braces {ts us : List Token} :
      Braced ts → Braced us → Braced (.sign .leftBrace :: (ts ++ .sign .rightBrace :: us))

theorem Braced.append (h : Braced ts) (h' : Braced us) : Braced (ts ++ us) := by
  induction h with
  | nil => exact h'
  | cons ht _ ih => exact .cons ht ih
  | braces hinner _ _ ih =>
      rw [List.cons_append, List.append_assoc]
      exact .braces hinner ih

theorem braced_sign {s : Sign} (hs : s ≠ .leftBrace ∧ s ≠ .rightBrace) (h : Braced ts) :
    Braced (.sign s :: ts) :=
  .cons ⟨by simpa using hs.1, by simpa using hs.2⟩ h

theorem braced_singleton (ht : Braceless t) : Braced [t] := .cons ht .nil

theorem braceless_of_unaryOp? {op : UnaryOp} (h : t.unaryOp? = some op) : Braceless t := by
  constructor <;> rintro rfl <;> cases h

theorem braceless_of_binaryOp? {op : BinaryOp} (h : t.binaryOp? = some op) : Braceless t := by
  constructor <;> rintro rfl <;> cases h

theorem braceless_of_entryKey {key : String} (h : EntryKey t key) : Braceless t := by
  cases h <;> simp [Braceless]

theorem braced_prefixes {ops : List UnaryOp} (h : Prefixes ts ops) : Braced ts := by
  induction h with
  | nil => exact .nil
  | cons hop _ ih => exact .cons (braceless_of_unaryOp? hop) ih

mutual

theorem braced_expression {ts : List Token} {e : Expr} : Expression ts e → Braced ts
  | .chain h => braced_chain h
  | .conditional htest htrue hfalse =>
      (braced_chain htest).append (braced_sign (by decide)
        ((braced_expression htrue).append (braced_sign (by decide) (braced_expression hfalse))))
  | .elvis htest hfalse =>
      (braced_chain htest).append (braced_sign (by decide) (braced_expression hfalse))

theorem braced_chain {level : Nat} {ts : List Token} {e : Expr} : Chain level ts e → Braced ts
  | .operands _ hhead htail => (braced_chain hhead).append (braced_tail htail)
  | .unary h => braced_unary h

theorem braced_tail {level : Nat} {ts : List Token} {tail : List (BinaryOp × Expr)} :
    Tail level ts tail → Braced ts
  | .nil => .nil
  | .cons hop _ hright htail =>
      .cons (braceless_of_binaryOp? hop) ((braced_chain hright).append (braced_tail htail))

theorem braced_unary {ts : List Token} {e : Expr} : Unary ts e → Braced ts
  | .prefixes hops hpower => (braced_prefixes hops).append (braced_power hpower)

theorem braced_power {ts : List Token} {e : Expr} : Power ts e → Braced ts
  | .base h => braced_access h
  | .power hbase hexponent =>
      (braced_access hbase).append (braced_sign (by decide) (braced_unary hexponent))

theorem braced_access {ts : List Token} {e : Expr} : Access ts e → Braced ts
  | .keys hbase hkeys => (braced_primary hbase).append (braced_keys hkeys)

theorem braced_keys {ts : List Token} {keys : List Key} : Keys ts keys → Braced ts
  | .nil => .nil
  | .dot hkeys => braced_sign (by decide) (.cons (by simp [Braceless]) (braced_keys hkeys))
  | .text hkey hkeys =>
      braced_sign (by decide)
        ((braced_expression hkey).append (braced_sign (by decide) (braced_keys hkeys)))
  | .computed hkey _ hkeys =>
      braced_sign (by decide)
        ((braced_expression hkey).append (braced_sign (by decide) (braced_keys hkeys)))

theorem braced_primary {ts : List Token} {e : Expr} : Primary ts e → Braced ts
  | .number _ => braced_singleton (by simp [Braceless])
  | .string _ => braced_singleton (by simp [Braceless])
  | .boolean _ => braced_singleton (by simp [Braceless])
  | .null => braced_singleton (by simp [Braceless])
  | .identifier _ => braced_singleton (by simp [Braceless])
  | .call hargs =>
      .cons (by simp [Braceless]) (braced_sign (by decide)
        ((braced_sequence hargs).append (braced_sign (by decide) .nil)))
  | .group h =>
      braced_sign (by decide) ((braced_expression h).append (braced_sign (by decide) .nil))
  | .array hitems =>
      braced_sign (by decide) ((braced_sequence hitems).append (braced_sign (by decide) .nil))
  | .object hentries => .braces (braced_entrySequence hentries) .nil

theorem braced_sequence {ts : List Token} {items : List Expr} : Sequence ts items → Braced ts
  | .nil => .nil
  | .items h => braced_items h

theorem braced_items {ts : List Token} {items : List Expr} : Items ts items → Braced ts
  | .last h => braced_expression h
  | .more h hitems =>
      (braced_expression h).append (braced_sign (by decide) (braced_items hitems))

theorem braced_entrySequence {ts : List Token} {entries : Entries} :
    EntrySequence ts entries → Braced ts
  | .nil => .nil
  | .pairs h => braced_pairs h

theorem braced_pairs {ts : List Token} {entries : Entries} : Pairs ts entries → Braced ts
  | .last hkey hvalue =>
      .cons (braceless_of_entryKey hkey) (braced_sign (by decide) (braced_expression hvalue))
  | .more hkey hvalue hpairs =>
      .cons (braceless_of_entryKey hkey) (braced_sign (by decide)
        ((braced_expression hvalue).append (braced_sign (by decide) (braced_pairs hpairs))))

end

end Grammar
end Guest
