import Guest.Proofs.Evaluation.Ensured

/-!
# Expressions with keyed literals

The literals of a tree may be any values.  If they are keyed, so is every value that a host gets
from the script of the tree or sees on the way, whatever keyed values it answers with: setting the
entries of a list in turn leaves no key twice, and no operator and no access makes an object.
-/

namespace Guest

namespace Expr

open Script

/-- The literals of a tree are keyed. -/
inductive Keyed : Expr → Prop where
  | literal {v : Value} :
      v.Keyed → Keyed (.literal v)
  | array {items : List Expr} :
      (∀ item ∈ items, Keyed item) → Keyed (.array items)
  | object {entries : Entries} :
      (∀ entry ∈ entries, Keyed entry.2) → Keyed (.object entries)
  | identifier (name : String) :
      Keyed (.identifier name)
  | unary {operand : Expr} (ops : List UnaryOp) :
      Keyed operand → Keyed (.unary ops operand)
  | binary {head : Expr} {tail : List (BinaryOp × Expr)} :
      Keyed head → (∀ step ∈ tail, Keyed step.2) → Keyed (.binary head tail)
  | conditional {test whenFalse : Expr} {whenTrue : Option Expr} :
      Keyed test → (∀ branch ∈ whenTrue, Keyed branch) → Keyed whenFalse →
      Keyed (.conditional test whenTrue whenFalse)
  | accessor {base : Expr} {keys : List Key} :
      Keyed base → (∀ key, .computed key ∈ keys → Keyed key) → Keyed (.accessor base keys)
  | call {args : List Expr} (name : String) :
      (∀ arg ∈ args, Keyed arg) → Keyed (.call name args)

variable {e : Expr} {items : List Expr} {entries : Entries} {tail : List (BinaryOp × Expr)}
  {keys : List Key}

theorem ensures_scripts (h : ∀ item ∈ items, item.script.Ensures Value.Keyed) :
    (scripts items).Ensures fun vs => ∀ v ∈ vs, v.Keyed := by
  induction items with
  | nil => exact .done (List.forall_mem_nil _)
  | cons item rest ih =>
      obtain ⟨hitem, hrest⟩ := List.forall_mem_cons.mp h
      rw [scripts]
      exact hitem.bind fun v hv => (ih hrest).map fun vs hvs => List.forall_mem_cons.mpr ⟨hv, hvs⟩

theorem ensures_entryScripts (h : ∀ entry ∈ entries, entry.2.script.Ensures Value.Keyed) :
    (entryScripts entries).Ensures fun fields => ∀ field ∈ fields, field.2.Keyed := by
  induction entries with
  | nil => exact .done (List.forall_mem_nil _)
  | cons entry rest ih =>
      obtain ⟨hentry, hrest⟩ := List.forall_mem_cons.mp h
      rw [entryScripts]
      exact hentry.bind fun v hv =>
        (ih hrest).map fun fields hfields => List.forall_mem_cons.mpr ⟨hv, hfields⟩

theorem ensures_tailScript (h : ∀ step ∈ tail, step.2.script.Ensures Value.Keyed) {left : Value}
    (hleft : left.Keyed) : (tailScript left tail).Ensures Value.Keyed := by
  induction tail generalizing left with
  | nil => exact .done hleft
  | cons step rest ih =>
      obtain ⟨op, right⟩ := step
      obtain ⟨hright, hrest⟩ := List.forall_mem_cons.mp h
      rw [tailScript]
      split
      · exact ih hrest hleft
      · apply hright.bind
        intro v hv
        apply ih hrest
        split
        · exact hv
        · exact Value.keyed_binary op hleft hv

theorem ensures_access {target key : Value} (htarget : target.Keyed) :
    (Script.access target key).Ensures Value.Keyed := by
  unfold Script.access
  cases h : target.access? key with
  | none => exact .nullAccess _
  | some v => exact .done (Value.keyed_access htarget h)

theorem ensures_keysScript (h : ∀ key, .computed key ∈ keys → key.script.Ensures Value.Keyed)
    {target : Value} (htarget : target.Keyed) : (keysScript target keys).Ensures Value.Keyed := by
  induction keys generalizing target with
  | nil => exact .done htarget
  | cons key rest ih =>
      have hrest (target : Value) : target.Keyed → (keysScript target rest).Ensures Value.Keyed :=
        ih fun key hkey => h key (List.mem_cons_of_mem _ hkey)
      cases key with
      | name name =>
          rw [keysScript]
          exact (ensures_access htarget).bind hrest
      | computed key =>
          rw [keysScript]
          exact (h key List.mem_cons_self).bind fun k _ => (ensures_access htarget).bind hrest

/-- The value of a tree with keyed literals has no key twice in its objects, whatever keyed values
the host answers with. -/
theorem Keyed.ensures (h : e.Keyed) : e.script.Ensures Value.Keyed := by
  induction h with
  | literal hv => exact .done hv
  | array _ ih =>
      rw [script]
      exact (ensures_scripts ih).map fun items hitems => .array hitems
  | object _ ih =>
      rw [script]
      exact (ensures_entryScripts ih).map fun entries hentries => Value.keyed_insertAll hentries
  | identifier name => exact .lookup fun v hv => .done hv
  | unary ops _ ih =>
      rw [script]
      exact ih.map fun v hv => Value.keyed_applyAll ops hv
  | binary _ _ hhead htail =>
      rw [script]
      exact hhead.bind fun left hleft => ensures_tailScript htail hleft
  | @conditional test whenFalse whenTrue _ _ _ htest hwhenTrue hwhenFalse =>
      rw [script]
      apply htest.bind
      intro v hv
      split
      · cases whenTrue with
        | some branch => exact hwhenTrue branch rfl
        | none => exact .done hv
      · exact hwhenFalse
  | accessor _ _ hbase hkeys =>
      rw [script]
      exact hbase.bind fun target htarget => ensures_keysScript hkeys htarget
  | call name _ ih =>
      rw [script]
      apply Ensures.known
      intro known
      split
      · exact (ensures_scripts ih).bind fun args hargs => .call hargs fun v hv => .done hv
      · exact .done .null

end Expr

end Guest
