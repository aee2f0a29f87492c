import Guest.Operator
import Guest.Value.Basic

/-!
# Expressions

The trees that expression text is read into.  A chain of operators of one level is flat; a key of
an access is either known or computed.
-/

namespace Guest

mutual

/-- An expression. -/
inductive Expr where
  | literal (value : Value)
  | array (items : List Expr)
  /-- An object; a repeated key keeps its first place and its last value. -/
  | object (entries : List (String × Expr))
  | identifier (name : String)
  /-- Operators before an operand, in the order of the text; the last one applies first. -/
  | unary (ops : List UnaryOp) (operand : Expr)
  /-- A first operand and the operators that follow, each with its right operand. -/
  | binary (head : Expr) (tail : List (BinaryOp × Expr))
  /-- A choice; without a first branch, the value of the test stands for it. -/
  | conditional (test : Expr) (whenTrue : Option Expr) (whenFalse : Expr)
  | accessor (base : Expr) (keys : List Key)
  | call (name : String) (args : List Expr)

/-- One step of access. -/
inductive Key where
  | name (name : String)
  | computed (expr : Expr)

end

instance : Inhabited Expr := ⟨.literal .null⟩

/-- The entries of an object literal. -/
abbrev Entries := List (String × Expr)

end Guest
