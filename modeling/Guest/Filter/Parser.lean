import Guest.Filter.Basic
import Guest.Parser.Basic

/-!
# Parsing filters

A filter starts with a word for a group or a negation, or with the name of a field; the names of
searches are names of fields too unless a parenthesis follows.  Operands are literals, not
expressions.
-/

namespace Guest

namespace Parse

/-- The meaning of a word, whatever the case of its letters. -/
def wordMeaning? : List (String × α) → String → Option α
  | [], _ => none
  | (name, meaning) :: rest, word =>
    if word.toList.map Char.toUpper = name.toList then some meaning else wordMeaning? rest word

/-- A name where one is expected. -/
def nameFor (expected : Expected) : Parse String := do
  match ← peek with
  | .identifier name => advance; return name
  | _ => unexpected expected

/-- The literal that a token denotes; only numbers can follow a minus. -/
def operandOf? (negative : Bool) : Token → Option Value
  | .number x => some (.number (if negative then x.neg else x))
  | .string s => if negative then none else some (.string s)
  | .boolean b => if negative then none else some (.boolean b)
  | .null => if negative then none else some .null
  | _ => none

/-- A literal. -/
def operand : Parse Value := do
  let negative ← accept .minus
  match operandOf? negative (← peek) with
  | some v => advance; return v
  | none => unexpected .literal

/-- One or more literals between commas. -/
def operandsIn : Nat → Parse (List Value)
  | 0 => unexpected .literal
  | depth + 1 => do
    let first ← operand
    if ← accept .comma then return first :: (← operandsIn depth) else return [first]

/-- One or more literals between commas. -/
def operands : Parse (List Value) := fun parser => operandsIn parser.depth parser

/-- The comparison that a token denotes. -/
def comparisonOf? : Token → Option Comparison
  | .sign .assign => some .equal
  | .sign .equal => some .equal
  | .sign .notEqual => some .notEqual
  | .sign .less => some .less
  | .sign .lessEqual => some .lessEqual
  | .sign .greater => some .greater
  | .sign .greaterEqual => some .greaterEqual
  | .identifier word => wordMeaning? Comparison.words word
  | _ => none

/-- A comparison. -/
def comparison : Parse Comparison := do
  match comparisonOf? (← peek) with
  | some op => advance; return op
  | none => unexpected .comparison

/-- The rest of a comparison of a field. -/
def comparisonOf (field : String) : Parse Filter := do
  let op ← comparison
  if op = .oneOf then
    expect (.sign .leftParen)
    let items ← operands
    expect (.sign .rightParen)
    return .compare field op (.array items)
  else return .compare field op (← operand)

/-- The rest of a full-text search. -/
def searchOf (kind : SearchKind) : Parse Filter := do
  expect (.sign .leftParen)
  let field ← nameFor .fieldName
  expect (.sign .comma)
  let term ← operand
  let language ← (do if ← accept .comma then return some (← operand).text else return none)
  expect (.sign .rightParen)
  return .search field kind term.text language

/-- A condition that starts with a name. -/
def condition : Parse Filter := do
  let field ← nameFor .fieldName
  match wordMeaning? SearchKind.words field, (← peek).sameKind (.sign .leftParen) with
  | some kind, true => searchOf kind
  | _, _ => comparisonOf field

mutual

/-- A filter. -/
def filterIn : Nat → Parse Filter
  | 0 => unexpected .condition
  | depth + 1 => do
    match ← peek with
    | .word .and =>
      advance
      return .all (← groupIn depth)
    | .word .or =>
      advance
      return .any (← groupIn depth)
    | .word .not =>
      advance
      expect (.sign .leftParen)
      let inner ← filterIn depth
      expect (.sign .rightParen)
      return .not inner
    | .identifier _ => condition
    | _ => unexpected .condition

/-- The items of a group in parentheses. -/
def groupIn : Nat → Parse (List Filter)
  | 0 => unexpected .condition
  | depth + 1 => do
    expect (.sign .leftParen)
    let items ← filtersIn depth
    expect (.sign .rightParen)
    return items

/-- One or more filters between commas. -/
def filtersIn : Nat → Parse (List Filter)
  | 0 => unexpected .condition
  | depth + 1 => do
    let first ← filterIn depth
    if ← accept .comma then return first :: (← filtersIn depth) else return [first]

end

/-- A filter that ends with the text. -/
def wholeFilter : Parse Filter := do
  let filter ← fun parser => filterIn parser.depth parser
  expect .endOfText
  return filter

end Parse

namespace Filter

/-- The filter that a text denotes. -/
def parse (source : String) : Except ParseError Filter :=
  Parser.run Parse.wholeFilter .filter source.toList

end Filter

end Guest
