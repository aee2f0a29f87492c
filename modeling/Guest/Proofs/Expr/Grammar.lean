import Guest.Expr.Basic
import Guest.Token.Basic

/-!
# The grammar of expressions

The grammar is given by rules alone, without an order in which they are tried and without a place
at which the parser stands: a rule relates the whole list of its tokens to the tree that it
builds.  A conditional is loosest; then come the levels of the operators that associate to the
left, operators before an operand, the power, accesses and primaries.
-/

namespace Guest
namespace Grammar

/-- A chain is flat, and an operand without operators is no chain. -/
def chainOf (head : Expr) : List (BinaryOp × Expr) → Expr
  | [] => head
  | tail => .binary head tail

/-- An operand without operators before it stands for itself. -/
def prefixed (operand : Expr) : List UnaryOp → Expr
  | [] => operand
  | ops => .unary ops operand

/-- A primary without accesses stands for itself. -/
def accessed (base : Expr) : List Key → Expr
  | [] => base
  | keys => .accessor base keys

/-- The tokens of operators before an operand. -/
inductive Prefixes : List Token → List UnaryOp → Prop where
  | nil :
      Prefixes [] []
  | cons {token op us ops} :
      Token.unaryOp? token = some op → Prefixes us ops → Prefixes (token :: us) (op :: ops)

/-- The token of an entry's key: a name, a text or a number. -/
inductive EntryKey : Token → String → Prop where
  | identifier (name : String) : EntryKey (.identifier name) name
  | string (s : String) : EntryKey (.string s) s
  | number (x : Number) : EntryKey (.number x) (String.ofList x.text)

mutual

/-- A chain of the loosest level, or a conditional with two branches or with one. -/
inductive Expression : List Token → Expr → Prop where
  | chain {ts e} :
      Chain 1 ts e → Expression ts e
  | conditional {ts us vs test whenTrue whenFalse} :
      Chain 1 ts test → Expression us whenTrue → Expression vs whenFalse →
      Expression (ts ++ .sign .question :: (us ++ .sign .colon :: vs))
        (.conditional test (some whenTrue) whenFalse)
  | elvis {ts us test whenFalse} :
      Chain 1 ts test → Expression us whenFalse →
      Expression (ts ++ .sign .elvis :: us) (.conditional test none whenFalse)

/-- Operands of the next level between operators of a level; above the tightest level, operators
before an operand. -/
inductive Chain : Nat → List Token → Expr → Prop where
  | operands {level ts us head tail} :
      level ≤ BinaryOp.tightestChain →
      Chain (level + 1) ts head → Tail level us tail →
      Chain level (ts ++ us) (chainOf head tail)
  | unary {ts e} :
      Unary ts e → Chain (BinaryOp.tightestChain + 1) ts e

/-- Operators of a level, each with its right operand of the next level. -/
inductive Tail : Nat → List Token → List (BinaryOp × Expr) → Prop where
  | nil {level} :
      Tail level [] []
  | cons {level token op ts us right tail} :
      Token.binaryOp? token = some op → op.level = level →
      Chain (level + 1) ts right → Tail level us tail →
      Tail level (token :: (ts ++ us)) ((op, right) :: tail)

/-- Operators before a power. -/
inductive Unary : List Token → Expr → Prop where
  | prefixes {us ts ops operand} :
      Prefixes us ops → Power ts operand → Unary (us ++ ts) (prefixed operand ops)

/-- An access, or an access raised to a power. -/
inductive Power : List Token → Expr → Prop where
  | base {ts e} :
      Access ts e → Power ts e
  | power {ts us base exponent} :
      Access ts base → Unary us exponent →
      Power (ts ++ .sign .starStar :: us) (.binary base [(.power, exponent)])

/-- A primary with accesses. -/
inductive Access : List Token → Expr → Prop where
  | keys {ts us base keys} :
      Primary ts base → Keys us keys → Access (ts ++ us) (accessed base keys)

/-- Accesses by a name behind a point or by an expression in brackets; a text literal in brackets
is a known key too. -/
inductive Keys : List Token → List Key → Prop where
  | nil :
      Keys [] []
  | dot {name us keys} :
      Keys us keys → Keys (.sign .dot :: .identifier name :: us) (.name name :: keys)
  | text {ts us s keys} :
      Expression ts (.literal (.string s)) → Keys us keys →
      Keys (.sign .leftBracket :: (ts ++ .sign .rightBracket :: us)) (.name s :: keys)
  | computed {ts us key keys} :
      Expression ts key → (∀ s, key ≠ .literal (.string s)) → Keys us keys →
      Keys (.sign .leftBracket :: (ts ++ .sign .rightBracket :: us)) (.computed key :: keys)

/-- A literal, a name, a call, a group, an array or an object. -/
inductive Primary : List Token → Expr → Prop where
  | number (x : Number) :
      Primary [.number x] (.literal (.number x))
  | string (s : String) :
      Primary [.string s] (.literal (.string s))
  | boolean (b : Bool) :
      Primary [.boolean b] (.literal (.boolean b))
  | null :
      Primary [.null] (.literal .null)
  | identifier (name : String) :
      Primary [.identifier name] (.identifier name)
  | call {name ts args} :
      Sequence ts args →
      Primary (.identifier name :: .sign .leftParen :: (ts ++ [.sign .rightParen]))
        (.call name args)
  | group {ts e} :
      Expression ts e → Primary (.sign .leftParen :: (ts ++ [.sign .rightParen])) e
  | array {ts items} :
      Sequence ts items →
      Primary (.sign .leftBracket :: (ts ++ [.sign .rightBracket])) (.array items)
  | object {ts entries} :
      EntrySequence ts entries →
      Primary (.sign .leftBrace :: (ts ++ [.sign .rightBrace])) (.object entries)

/-- Nothing, or expressions between commas. -/
inductive Sequence : List Token → List Expr → Prop where
  | nil :
      Sequence [] []
  | items {ts items} :
      Items ts items → Sequence ts items

/-- One or more expressions between commas. -/
inductive Items : List Token → List Expr → Prop where
  | last {ts item} :
      Expression ts item → Items ts [item]
  | more {ts us item items} :
      Expression ts item → Items us items → Items (ts ++ .sign .comma :: us) (item :: items)

/-- Nothing, or entries between commas. -/
inductive EntrySequence : List Token → Entries → Prop where
  | nil :
      EntrySequence [] []
  | pairs {ts entries} :
      Pairs ts entries → EntrySequence ts entries

/-- One or more entries between commas, each with a key, a colon and an expression. -/
inductive Pairs : List Token → Entries → Prop where
  | last {token key ts value} :
      EntryKey token key → Expression ts value →
      Pairs (token :: .sign .colon :: ts) [(key, value)]
  | more {token key ts us value entries} :
      EntryKey token key → Expression ts value → Pairs us entries →
      Pairs (token :: .sign .colon :: (ts ++ .sign .comma :: us)) ((key, value) :: entries)

end

end Grammar
end Guest
