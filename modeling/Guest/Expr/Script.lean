import Guest.Expr.Basic
import Guest.Script
import Guest.Value.Operation

/-!
# The meaning of expressions

Every expression is a script.  Operands, items, keys and arguments are evaluated from left to
right; the right operand of a lazy operator, the branch that is not chosen and the arguments of a
function that does not exist are not evaluated.
-/

namespace Guest

/-- The left operand decides a lazy operator: a true one decides `or`, a false one `and`. -/
def BinaryOp.decides (op : BinaryOp) (left : Value) : Bool :=
  op.isLazy && left.isTruthy == (op == .or)

/-- The operators before an operand apply from the last one to the first. -/
def UnaryOp.applyAll (ops : List UnaryOp) (v : Value) : Value :=
  ops.foldr (fun op v => op.apply v) v

namespace Expr

mutual

/-- The script of an expression. -/
def script : Expr → Script Value
  | literal v => .done v
  | array items => do return .array (← scripts items)
  | object entries => do return .object (Fields.insertAll [] (← entryScripts entries))
  | identifier name => .lookup name .done
  | unary ops operand => do return UnaryOp.applyAll ops (← script operand)
  | binary head tail => do tailScript (← script head) tail
  | conditional test whenTrue whenFalse => do
    let v ← script test
    if v.isTruthy then
      match whenTrue with
      | some branch => script branch
      | none => return v
    else script whenFalse
  | accessor base keys => do keysScript (← script base) keys
  | call name args =>
    .known name fun known =>
      if known then do .call name (← scripts args) .done else .done .null

/-- The values of expressions in order. -/
def scripts : List Expr → Script (List Value)
  | [] => .done []
  | item :: rest => do
    let v ← script item
    return v :: (← scripts rest)

/-- The values of the entries of an object in order. -/
def entryScripts : List (String × Expr) → Script (List (String × Value))
  | [] => .done []
  | (key, value) :: rest => do
    let v ← script value
    return (key, v) :: (← entryScripts rest)

/-- A chain, from the value of what precedes it. -/
def tailScript (left : Value) : List (BinaryOp × Expr) → Script Value
  | [] => .done left
  | (op, right) :: rest =>
    if op.decides left then tailScript left rest
    else do
      let v ← script right
      tailScript (if op.isLazy then v else op.apply left v) rest

/-- Steps of access, from the value that they start at. -/
def keysScript (target : Value) : List Key → Script Value
  | [] => .done target
  | .name name :: rest => do keysScript (← Script.access target (.string name)) rest
  | .computed key :: rest => do
    let k ← script key
    keysScript (← Script.access target k) rest

end

end Expr

end Guest
