import Guest.Value.Access

/-!
# Scripts

A script is what an evaluation asks of its host, step by step, and how it goes on with each
answer.  Evaluation builds scripts; a host runs them.
-/

namespace Guest

/-- A computation that asks a host for values. -/
inductive Script (α : Type) where
  | done (result : α)
  /-- The computation reads a property of null; the key is given as text. -/
  | nullAccess (key : String)
  | lookup (name : String) (next : Value → Script α)
  | known (name : String) (next : Bool → Script α)
  | call (name : String) (args : List Value) (next : Value → Script α)

namespace Script

/-- One computation after another. -/
def bind : Script α → (α → Script β) → Script β
  | done a, f => f a
  | nullAccess key, _ => nullAccess key
  | lookup name next, f => lookup name fun v => (next v).bind f
  | known name next, f => known name fun b => (next b).bind f
  | call name args next, f => call name args fun v => (next v).bind f

instance : Monad Script where
  pure := done
  bind := bind

/-- Reads a part of a value. -/
def access (target key : Value) : Script Value :=
  match target.access? key with
  | some v => done v
  | none => nullAccess key.text

end Script

end Guest
