import Guest.Expr.Basic
import Guest.Parser.Basic

/-!
# Parsing expressions

One function per rule of the grammar.  From loose to tight: a conditional, ten levels of chains,
operators before an operand, the power, accesses, primaries.  The recursion is bounded by a depth
that the length of the text determines.
-/

namespace Guest

namespace Parse

/-- The operator of a level that comes next. -/
def chainOp? (level : Nat) (token : Token) : Option BinaryOp :=
  match token.binaryOp? with
  | some op => if op.level = level then some op else none
  | none => none

/-- The key of an object's entry: a name, a text, or the text of a number. -/
def objectKey : Parse String := do
  match ← peek with
  | .identifier name => advance; return name
  | .string s => advance; return s
  | .number x => advance; return String.ofList x.text
  | _ => unexpected .objectKey

/-- The name after a point. -/
def propertyName : Parse String := do
  match ← peek with
  | .identifier name => advance; return name
  | _ => unexpected .propertyName

/-- A literal, taken out of the next token. -/
def takeLiteral (value : Value) : Parse Expr := do
  takeOut
  advance
  return .literal value

/-- The key of a bracketed access: a text literal is known, all else is computed. -/
def keyOf : Expr → Key
  | .literal (.string s) => .name s
  | expr => .computed expr

mutual

/-- A chain or a conditional. -/
def expressionIn : Nat → Parse Expr
  | 0 => unexpected .expression
  | depth + 1 => do
    let test ← chainIn depth 1
    match ← peek with
    | .sign .question =>
      advance
      let whenTrue ← expressionIn depth
      expect (.sign .colon)
      let whenFalse ← expressionIn depth
      return .conditional test (some whenTrue) whenFalse
    | .sign .elvis =>
      advance
      let whenFalse ← expressionIn depth
      return .conditional test none whenFalse
    | _ => return test

/-- A chain of operators of one level. -/
def chainIn : Nat → Nat → Parse Expr
  | 0, _ => unexpected .expression
  | depth + 1, level => do
    if BinaryOp.tightestChain < level then unaryIn depth
    else
      let head ← chainIn depth (level + 1)
      match ← tailIn depth level with
      | [] => return head
      | tail => return .binary head tail

/-- The operators of one level that follow, each with its right operand. -/
def tailIn : Nat → Nat → Parse (List (BinaryOp × Expr))
  | 0, _ => unexpected .expression
  | depth + 1, level => do
    match chainOp? level (← peek) with
    | none => return []
    | some op =>
      advance
      let right ← chainIn depth (level + 1)
      let tail ← tailIn depth level
      return (op, right) :: tail

/-- Operators before an operand. -/
def unaryIn : Nat → Parse Expr
  | 0 => unexpected .expression
  | depth + 1 => do
    match ← opsIn depth with
    | [] => powerIn depth
    | ops => return .unary ops (← powerIn depth)

/-- The operators that stand before an operand. -/
def opsIn : Nat → Parse (List UnaryOp)
  | 0 => unexpected .expression
  | depth + 1 => do
    match (← peek).unaryOp? with
    | none => return []
    | some op =>
      advance
      return op :: (← opsIn depth)

/-- An access, raised to a power if one follows. -/
def powerIn : Nat → Parse Expr
  | 0 => unexpected .expression
  | depth + 1 => do
    let base ← accessIn depth
    if ← accept .starStar then return .binary base [(.power, ← unaryIn depth)]
    else return base

/-- A primary with the accesses that follow. -/
def accessIn : Nat → Parse Expr
  | 0 => unexpected .expression
  | depth + 1 => do
    let base ← primaryIn depth
    match ← keysIn depth with
    | [] => return base
    | keys => return .accessor base keys

/-- The accesses that follow. -/
def keysIn : Nat → Parse (List Key)
  | 0 => unexpected .expression
  | depth + 1 => do
    match ← peek with
    | .sign .dot =>
      advance
      let name ← propertyName
      return .name name :: (← keysIn depth)
    | .sign .leftBracket =>
      advance
      let key ← expressionIn depth
      expect (.sign .rightBracket)
      return keyOf key :: (← keysIn depth)
    | _ => return []

/-- A literal, a name, a call, a group, an array or an object. -/
def primaryIn : Nat → Parse Expr
  | 0 => unexpected .expression
  | depth + 1 => do
    match ← peek with
    | .number x => takeLiteral (.number x)
    | .string s => takeLiteral (.string s)
    | .boolean b => takeLiteral (.boolean b)
    | .null => takeLiteral .null
    | .identifier name =>
      advance
      if ← accept .leftParen then return .call name (← sequenceIn depth .rightParen)
      else return .identifier name
    | .sign .leftParen =>
      advance
      let inner ← expressionIn depth
      expect (.sign .rightParen)
      return inner
    | .sign .leftBracket =>
      advance
      return .array (← sequenceIn depth .rightBracket)
    | .sign .leftBrace =>
      advance
      return .object (← entriesIn depth)
    | _ => unexpected .expression

/-- Expressions between commas up to a closing sign. -/
def sequenceIn : Nat → Sign → Parse (List Expr)
  | 0, _ => unexpected .expression
  | depth + 1, close => do
    if ← accept close then return []
    else
      let items ← itemsIn depth
      expect (.sign close)
      return items

/-- One or more expressions between commas. -/
def itemsIn : Nat → Parse (List Expr)
  | 0 => unexpected .expression
  | depth + 1 => do
    let item ← expressionIn depth
    if ← accept .comma then return item :: (← itemsIn depth)
    else return [item]

/-- The entries of an object up to its closing brace. -/
def entriesIn : Nat → Parse Entries
  | 0 => unexpected .expression
  | depth + 1 => do
    if ← accept .rightBrace then return []
    else
      let entries ← pairsIn depth
      expect (.sign .rightBrace)
      return entries

/-- One or more entries between commas. -/
def pairsIn : Nat → Parse Entries
  | 0 => unexpected .expression
  | depth + 1 => do
    let key ← objectKey
    expect (.sign .colon)
    let value ← expressionIn depth
    if ← accept .comma then return (key, value) :: (← pairsIn depth)
    else return [(key, value)]

end

/-- An expression, whatever follows it. -/
def expression : Parse Expr := fun parser => expressionIn parser.depth parser

/-- The entries of an object up to its closing brace. -/
def objectEntries : Parse Entries := fun parser => entriesIn parser.depth parser

/-- An expression that ends with the text. -/
def wholeExpression : Parse Expr := do
  let expr ← expression
  expect .endOfText
  return expr

end Parse

namespace Expr

/-- The expression that a text denotes. -/
def parse (dialect : Dialect) (source : String) : Except ParseError Expr :=
  Parser.run Parse.wholeExpression dialect source.toList

end Expr

end Guest
