import Guest.Number.Text
import Guest.Operator
import Guest.Position
import Guest.Text.Quoted

/-!
# Tokens

The words and signs that expressions are made of, and the dialects that decide which of them are
known.
-/

namespace Guest

/-- The dialects of the language. -/
inductive Dialect where
  /-- Operators and literals: no power, no binary literals, no word operators. -/
  | basic
  | extended
  /-- The full language with a single equals sign, for query filters. -/
  | filter
  deriving DecidableEq, Repr

namespace Dialect

/-- Tells the dialects with the power operator, binary literals and word operators. -/
def isRich : Dialect → Bool
  | basic => false
  | extended => true
  | filter => true

end Dialect

/-- A sign. -/
inductive Sign where
  | plus | minus | star | starStar | slash | percent
  | increment | decrement
  | shiftLeft | shiftRight | shiftRightZero
  | less | lessEqual | greater | greaterEqual
  | equal | notEqual | strictEqual | strictNotEqual
  | assign
  | ampersand | caret | bar | tilde
  | andAnd | orOr | bang
  | question | elvis | colon
  | leftBracket | rightBracket | leftParen | rightParen | leftBrace | rightBrace
  | dot | comma
  deriving DecidableEq, Repr

namespace Sign

/-- The characters of a sign. -/
def text : Sign → String
  | plus => "+"
  | minus => "-"
  | star => "*"
  | starStar => "**"
  | slash => "/"
  | percent => "%"
  | increment => "++"
  | decrement => "--"
  | shiftLeft => "<<"
  | shiftRight => ">>"
  | shiftRightZero => ">>>"
  | less => "<"
  | lessEqual => "<="
  | greater => ">"
  | greaterEqual => ">="
  | equal => "=="
  | notEqual => "!="
  | strictEqual => "==="
  | strictNotEqual => "!=="
  | assign => "="
  | ampersand => "&"
  | caret => "^"
  | bar => "|"
  | tilde => "~"
  | andAnd => "&&"
  | orOr => "||"
  | bang => "!"
  | question => "?"
  | elvis => "?:"
  | colon => ":"
  | leftBracket => "["
  | rightBracket => "]"
  | leftParen => "("
  | rightParen => ")"
  | leftBrace => "\x7b"
  | rightBrace => "\x7d"
  | dot => "."
  | comma => ","

end Sign

/-- An operator that is written as a word. -/
inductive OperatorWord where
  | and
  | or
  | not
  deriving DecidableEq, Repr

namespace OperatorWord

/-- The word. -/
def text : OperatorWord → String
  | and => "AND"
  | or => "OR"
  | not => "NOT"

end OperatorWord

/-- A token. -/
inductive Token where
  | number (value : Number)
  /-- A text literal, without its quotes and escapes. -/
  | string (value : String)
  | boolean (value : Bool)
  | null
  | identifier (name : String)
  | word (word : OperatorWord)
  | sign (sign : Sign)
  | endOfText
  deriving DecidableEq

namespace Token

/-- The operator that a token denotes between two operands. -/
def binaryOp? : Token → Option BinaryOp
  | sign .orOr => some .or
  | word .or => some .or
  | sign .andAnd => some .and
  | word .and => some .and
  | sign .bar => some .bitOr
  | sign .caret => some .bitXor
  | sign .ampersand => some .bitAnd
  | sign .equal => some .equal
  | sign .notEqual => some .notEqual
  | sign .strictEqual => some .strictEqual
  | sign .strictNotEqual => some .strictNotEqual
  | sign .less => some .less
  | sign .lessEqual => some .lessEqual
  | sign .greater => some .greater
  | sign .greaterEqual => some .greaterEqual
  | sign .shiftLeft => some .shiftLeft
  | sign .shiftRight => some .shiftRight
  | sign .shiftRightZero => some .shiftRightZero
  | sign .plus => some .add
  | sign .minus => some .subtract
  | sign .star => some .multiply
  | sign .slash => some .divide
  | sign .percent => some .remainder
  | sign .starStar => some .power
  | _ => none

/-- The operator that a token denotes before an operand. -/
def unaryOp? : Token → Option UnaryOp
  | sign .tilde => some .complement
  | sign .bang => some .not
  | word .not => some .not
  | sign .plus => some .plus
  | sign .minus => some .minus
  | _ => none

/-- Tells tokens of one kind; literals and names are of one kind whatever they denote. -/
def sameKind : Token → Token → Bool
  | number _, number _ => true
  | string _, string _ => true
  | boolean _, boolean _ => true
  | null, null => true
  | identifier _, identifier _ => true
  | word w, word v => w == v
  | sign s, sign t => s == t
  | endOfText, endOfText => true
  | _, _ => false

/-- The token in words, for error messages. -/
def describe : Token → String
  | number x => s!"number {String.ofList x.text}"
  | string s => s!"string {String.ofList (Text.quoted s.toList)}"
  | boolean b => if b then "true" else "false"
  | null => "null"
  | identifier name => s!"identifier '{name}'"
  | word w => s!"'{w.text}'"
  | sign s => s!"'{s.text}'"
  | endOfText => "end of input"

end Token

/-- A token with the range it was read from. -/
structure Spanned where
  token : Token
  start : Position
  stop : Position
  deriving DecidableEq

end Guest
