/-!
# Operators

The operators written before their operand and those written between two, with their symbols and
the strength with which the latter bind.
-/

namespace Guest

/-- An operator before its operand. -/
inductive UnaryOp where
  | complement
  | not
  | plus
  | minus
  deriving DecidableEq, Repr

namespace UnaryOp

/-- The symbol of the operator. -/
def symbol : UnaryOp → String
  | complement => "~"
  | not => "!"
  | plus => "+"
  | minus => "-"

end UnaryOp

/-- An operator between two operands. -/
inductive BinaryOp where
  /-- The left operand if it is true, else the right one. -/
  | or
  /-- The left operand if it is false, else the right one. -/
  | and
  | bitOr
  | bitXor
  | bitAnd
  | equal
  | notEqual
  | strictEqual
  | strictNotEqual
  | less
  | lessEqual
  | greater
  | greaterEqual
  | shiftLeft
  /-- Shift to the right that keeps the sign. -/
  | shiftRight
  /-- Shift to the right that fills with zeros. -/
  | shiftRightZero
  /-- Sum, or concatenation of texts. -/
  | add
  | subtract
  | multiply
  | divide
  | remainder
  /-- Power; the only one that associates to the right. -/
  | power
  deriving DecidableEq, Repr

namespace BinaryOp

/-- The symbol of the operator. -/
def symbol : BinaryOp → String
  | or => "||"
  | and => "&&"
  | bitOr => "|"
  | bitXor => "^"
  | bitAnd => "&"
  | equal => "=="
  | notEqual => "!="
  | strictEqual => "==="
  | strictNotEqual => "!=="
  | less => "<"
  | lessEqual => "<="
  | greater => ">"
  | greaterEqual => ">="
  | shiftLeft => "<<"
  | shiftRight => ">>"
  | shiftRightZero => ">>>"
  | add => "+"
  | subtract => "-"
  | multiply => "*"
  | divide => "/"
  | remainder => "%"
  | power => "**"

/-- How tightly the operator binds, from 1 for the loosest. -/
def level : BinaryOp → Nat
  | or => 1
  | and => 2
  | bitOr => 3
  | bitXor => 4
  | bitAnd => 5
  | equal => 6
  | notEqual => 6
  | strictEqual => 6
  | strictNotEqual => 6
  | less => 7
  | lessEqual => 7
  | greater => 7
  | greaterEqual => 7
  | shiftLeft => 8
  | shiftRight => 8
  | shiftRightZero => 8
  | add => 9
  | subtract => 9
  | multiply => 10
  | divide => 10
  | remainder => 10
  | power => 11

/-- The level of the tightest operators that associate to the left. -/
def tightestChain : Nat := 10

/-- Tells the operators whose right operand may be skipped. -/
def isLazy : BinaryOp → Bool
  | or => true
  | and => true
  | _ => false

end BinaryOp

end Guest
