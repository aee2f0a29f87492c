import Guest.Number.Elementary
import Guest.Operator
import Guest.Value.Compare

/-!
# Operators on values

The result of every operator on evaluated operands.  Bitwise operators work on 32-bit words, and a
sum with a text, an array or an object concatenates.
-/

namespace Guest

namespace UnaryOp

/-- The result of the operator. -/
def apply (op : UnaryOp) (v : Value) : Value :=
  match op with
  | complement => .number (Number.ofSigned (~~~v.toNumber.toWord))
  | not => .boolean (!v.isTruthy)
  | plus => .number v.toNumber
  | minus => .number v.toNumber.neg

end UnaryOp

namespace Value

/-- Tells the values that make a sum a concatenation. -/
def concatenates : Value → Bool
  | string _ => true
  | array _ => true
  | object _ => true
  | _ => false

/-- The sum or the concatenation. -/
def sum (v w : Value) : Value :=
  if v.concatenates || w.concatenates then string (v.text ++ w.text)
  else number (v.toNumber + w.toNumber)

/-- The word of a value in bitwise operations. -/
def word (v : Value) : BitVec 32 := v.toNumber.toWord

/-- The word of a value that is shifted with zeros. -/
def unsignedWord (v : Value) : BitVec 32 := BitVec.ofNat 32 v.toNumber.toUnsigned

/-- The count of a shift. -/
def shiftCount (v : Value) : Nat := v.toNumber.toUnsigned % 32

end Value

namespace BinaryOp

/-- The result of the operator. -/
def apply (op : BinaryOp) (v w : Value) : Value :=
  match op with
  | or => if v.isTruthy then v else w
  | and => if v.isTruthy then w else v
  | bitOr => .number (Number.ofSigned (v.word ||| w.word))
  | bitXor => .number (Number.ofSigned (v.word ^^^ w.word))
  | bitAnd => .number (Number.ofSigned (v.word &&& w.word))
  | equal => .boolean (v.looseEq w)
  | notEqual => .boolean (!v.looseEq w)
  | strictEqual => .boolean (v.strictEq w)
  | strictNotEqual => .boolean (!v.strictEq w)
  | less => .boolean (v.compare w == some .lt)
  | lessEqual => .boolean (v.compare w == some .lt || v.compare w == some .eq)
  | greater => .boolean (v.compare w == some .gt)
  | greaterEqual => .boolean (v.compare w == some .gt || v.compare w == some .eq)
  | shiftLeft => .number (Number.ofSigned (v.word <<< w.shiftCount))
  | shiftRight => .number (Number.ofSigned (v.word.sshiftRight w.shiftCount))
  | shiftRightZero => .number (Number.ofUnsigned (v.unsignedWord >>> w.shiftCount))
  | add => v.sum w
  | subtract => .number (v.toNumber - w.toNumber)
  | multiply => .number (v.toNumber * w.toNumber)
  | divide => .number (v.toNumber / w.toNumber)
  | remainder => .number (v.toNumber % w.toNumber)
  | power => .number (v.toNumber.pow w.toNumber)

end BinaryOp

end Guest
