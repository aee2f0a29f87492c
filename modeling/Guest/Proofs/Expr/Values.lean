import Guest.Proofs.Expr.Grammar
import Guest.Proofs.Expr.Keyed

/-!
# The values of expressions

What the grammar derives has only atomic literals, so an object comes from an entry list or from
the host.  Hence the value of a derived expression is keyed, whatever a host answers.
-/

namespace Guest
namespace Grammar

open Guest.Expr Script

theorem keyed_chainOf {head : Expr} {tail : List (BinaryOp × Expr)} (hhead : head.Keyed)
    (htail : ∀ step ∈ tail, step.2.Keyed) : (chainOf head tail).Keyed := by
  cases tail with
  | nil => exact hhead
  | cons step more => exact .binary hhead htail

theorem keyed_prefixed {operand : Expr} {ops : List UnaryOp} (hoperand : operand.Keyed) :
    (prefixed operand ops).Keyed := by
  cases ops with
  | nil => exact hoperand
  | cons op more => exact .unary _ hoperand

theorem keyed_accessed {base : Expr} {keys : List Key} (hbase : base.Keyed)
    (hkeys : ∀ key, .computed key ∈ keys → key.Keyed) : (accessed base keys).Keyed := by
  cases keys with
  | nil => exact hbase
  | cons key more => exact .accessor hbase hkeys

theorem forall_computed_cons_name {name : String} {keys : List Key} {p : Expr → Prop}
    (h : ∀ key, .computed key ∈ keys → p key) : ∀ key, .computed key ∈ .name name :: keys → p key :=
  fun key hkey => h key ((List.mem_cons.mp hkey).resolve_left Key.noConfusion)

mutual

/-- The literals of a derived expression are atomic. -/
theorem keyed_expression {ts : List Token} {e : Expr} : Expression ts e → e.Keyed
  | .chain h => keyed_chain h
  | .conditional htest hwhenTrue hwhenFalse =>
      .conditional (keyed_chain htest)
        (fun branch hbranch => by cases hbranch; exact keyed_expression hwhenTrue)
        (keyed_expression hwhenFalse)
  | .elvis htest hwhenFalse =>
      .conditional (keyed_chain htest) nofun (keyed_expression hwhenFalse)

theorem keyed_chain {level : Nat} {ts : List Token} {e : Expr} : Chain level ts e → e.Keyed
  | .operands _ hhead htail => keyed_chainOf (keyed_chain hhead) (keyed_tail htail)
  | .unary h => keyed_unary h

theorem keyed_tail {level : Nat} {ts : List Token} {tail : List (BinaryOp × Expr)} :
    Tail level ts tail → ∀ step ∈ tail, step.2.Keyed
  | .nil => List.forall_mem_nil _
  | .cons _ _ hright hmore => List.forall_mem_cons.mpr ⟨keyed_chain hright, keyed_tail hmore⟩

theorem keyed_unary {ts : List Token} {e : Expr} : Unary ts e → e.Keyed
  | .prefixes _ hpower => keyed_prefixed (keyed_power hpower)

theorem keyed_power {ts : List Token} {e : Expr} : Power ts e → e.Keyed
  | .base h => keyed_access h
  | .power hbase hexponent =>
      .binary (keyed_access hbase) (List.forall_mem_singleton.mpr (keyed_unary hexponent))

theorem keyed_access {ts : List Token} {e : Expr} : Access ts e → e.Keyed
  | .keys hbase hkeys => keyed_accessed (keyed_primary hbase) (keyed_keys hkeys)

theorem keyed_keys {ts : List Token} {keys : List Key} :
    Keys ts keys → ∀ key, .computed key ∈ keys → key.Keyed
  | .nil => nofun
  | .dot hmore => forall_computed_cons_name (keyed_keys hmore)
  | .text _ hmore => forall_computed_cons_name (keyed_keys hmore)
  | .computed hkey _ hmore => fun key hmem => by
      rcases List.mem_cons.mp hmem with heq | hmem
      · cases heq
        exact keyed_expression hkey
      · exact keyed_keys hmore key hmem

theorem keyed_primary {ts : List Token} {e : Expr} : Primary ts e → e.Keyed
  | .number x => .literal (.number x)
  | .string s => .literal (.string s)
  | .boolean b => .literal (.boolean b)
  | .null => .literal .null
  | .identifier name => .identifier name
  | .call hargs => .call _ (keyed_sequence hargs)
  | .group h => keyed_expression h
  | .array hitems => .array (keyed_sequence hitems)
  | .object hentries => .object (keyed_entrySequence hentries)

theorem keyed_sequence {ts : List Token} {items : List Expr} :
    Sequence ts items → ∀ item ∈ items, item.Keyed
  | .nil => List.forall_mem_nil _
  | .items h => keyed_items h

theorem keyed_items {ts : List Token} {items : List Expr} :
    Items ts items → ∀ item ∈ items, item.Keyed
  | .last hitem => List.forall_mem_singleton.mpr (keyed_expression hitem)
  | .more hitem hmore => List.forall_mem_cons.mpr ⟨keyed_expression hitem, keyed_items hmore⟩

theorem keyed_entrySequence {ts : List Token} {entries : Entries} :
    EntrySequence ts entries → ∀ entry ∈ entries, entry.2.Keyed
  | .nil => List.forall_mem_nil _
  | .pairs h => keyed_pairs h

theorem keyed_pairs {ts : List Token} {entries : Entries} :
    Pairs ts entries → ∀ entry ∈ entries, entry.2.Keyed
  | .last _ hvalue => List.forall_mem_singleton.mpr (keyed_expression hvalue)
  | .more _ hvalue hmore => List.forall_mem_cons.mpr ⟨keyed_expression hvalue, keyed_pairs hmore⟩

end

end Grammar
end Guest
