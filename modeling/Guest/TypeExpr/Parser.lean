import Guest.Expr.Parser
import Guest.TypeExpr.Basic

/-!
# Parsing type expressions

Template arguments stand between angle brackets, so that nested ones may end in a sign that is a
shift elsewhere.  Such a sign is consumed one bracket at a time.
-/

namespace Guest

namespace Parse

/-- Consumes the first bracket of the next token and leaves the rest of it. -/
def splitAngle (rest : Sign) : Parse Unit := fun parser =>
  let start := parser.current.start
  .ok () { parser with
    current := ⟨.sign rest, ⟨start.offset + 1, start.line, start.column + 1⟩, parser.current.stop⟩
    consumed := start.offset + 1 }

/-- Consumes one closing angle bracket, also out of a longer sign. -/
def closingAngle : Parse Unit := do
  match ← peek with
  | .sign .greater => advance
  | .sign .shiftRight => splitAngle .greater
  | .sign .shiftRightZero => splitAngle .shiftRight
  | _ => unexpected .closingAngle

/-- The name of a type and the offset at which it starts. -/
def typeName : Parse (Nat × String) := fun parser =>
  match parser.current.token with
  | .identifier name =>
    match advance parser with
    | .ok _ moved => .ok (parser.current.start.offset, name) moved
    | .error error moved => .error error moved
  | _ => unexpected .typeName parser

/-- The source text from an offset to the last consumed token. -/
def textFrom (start : Nat) : Parse String := fun parser =>
  .ok (String.ofList (parser.lexer.slice start parser.consumed)) parser

/-- The configuration of a type, if one follows. -/
def typeConfig : Parse (Option Entries) := do
  if ← accept .leftBrace then return some (← objectEntries) else return none

mutual

/-- One or more single types between bars. -/
def unionIn : Nat → Parse TypeUnion
  | 0 => unexpected .typeName
  | depth + 1 => do
    let first ← termIn depth
    if ← accept .bar then return first :: (← unionIn depth)
    else return [first]

/-- A single type. -/
def termIn : Nat → Parse TypeTerm
  | 0 => unexpected .typeName
  | depth + 1 => do
    let (start, name) ← typeName
    let template ← templateIn depth
    let config ← typeConfig
    return ⟨name, config, ← textFrom start, template⟩

/-- The template arguments, if there are any. -/
def templateIn : Nat → Parse (List TypeUnion)
  | 0 => unexpected .typeName
  | depth + 1 => do
    if ← accept .less then
      let arguments ← argumentsIn depth
      closingAngle
      return arguments
    else return []

/-- One or more unions between commas. -/
def argumentsIn : Nat → Parse (List TypeUnion)
  | 0 => unexpected .typeName
  | depth + 1 => do
    let first ← unionIn depth
    if ← accept .comma then return first :: (← argumentsIn depth)
    else return [first]

end

/-- A type expression that ends with the text. -/
def wholeType : Parse TypeUnion := do
  let union ← fun parser => unionIn parser.depth parser
  expect .endOfText
  return union

end Parse

namespace TypeUnion

/-- The type expression that a text denotes. -/
def parse (source : String) : Except ParseError TypeUnion :=
  Parser.run Parse.wholeType .extended source.toList

end TypeUnion

end Guest
