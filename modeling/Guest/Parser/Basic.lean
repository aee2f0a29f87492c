import Guest.Token.Lexer

/-!
# Parsers

A parser holds one token that has been read and not yet consumed.  A failing step leaves the parser
where it stopped, so that a caller may go on from there.
-/

namespace Guest

/-- What a parser expects where it finds something else. -/
inductive Expected where
  /-- A token of the same kind. -/
  | token (token : Token)
  | expression
  | objectKey
  | propertyName
  | typeName
  /-- The end of template arguments. -/
  | closingAngle
  | condition
  | fieldName
  | comparison
  | literal
  deriving DecidableEq

namespace Expected

/-- What is expected, in words. -/
def describe : Expected → String
  | .token t => t.describe
  | expression => "expression"
  | objectKey => "object key"
  | propertyName => "property name"
  | typeName => "type name"
  | closingAngle => "'>'"
  | condition => "condition"
  | fieldName => "field name"
  | comparison => "comparison operator"
  | literal => "literal value"

end Expected

/-- What is wrong with the form of a message. -/
inductive MessageFault where
  | unclosedInterpolation
  | missingSeparator
  | emptySpeaker
  | emptyContent
  | doubledSeparator
  deriving DecidableEq, Repr

namespace MessageFault

/-- The fault in words. -/
def describe : MessageFault → String
  | unclosedInterpolation => "expected '\x7d\x7d' to close interpolation"
  | missingSeparator => "expected ':' between speaker and content"
  | emptySpeaker => "empty speaker"
  | emptyContent => "empty content"
  | doubledSeparator => "doubled ':' separator"

end MessageFault

/-- Why a text cannot be parsed. -/
inductive ParseError where
  | lex (error : LexError)
  | unexpected (position : Position) (expected : Expected) (found : Token)
  | messageForm (position : Position) (fault : MessageFault)
  deriving DecidableEq

namespace ParseError

/-- Where the error is. -/
def position : ParseError → Position
  | lex error => error.position
  | unexpected position _ _ => position
  | messageForm position _ => position

/-- The error in words. -/
def message : ParseError → String
  | lex error => error.message
  | unexpected position expected found =>
    s!"expected {expected.describe}, found {found.describe} at {position.describe}"
  | messageForm position fault => s!"{fault.describe} at {position.describe}"

end ParseError

/-- A lexer and the token that is consumed next. -/
structure Parser where
  lexer : Lexer
  current : Spanned
  /-- The offset behind the last consumed token. -/
  consumed : Nat

/-- A step of a parser that may fail. -/
abbrev Parse := EStateM ParseError Parser

namespace Parser

/-- A parser at the first token. -/
def ofLexer (lexer : Lexer) : Except ParseError Parser :=
  match lexer.next with
  | (.ok current, moved) => .ok ⟨moved, current, 0⟩
  | (.error error, _) => .error (.lex error)

/-- A parser at the first token of a text. -/
def ofChars (dialect : Dialect) (source : List Char) : Except ParseError Parser :=
  ofLexer (Lexer.ofChars dialect source)

/-- The next token is of the same kind. -/
def sees (parser : Parser) (token : Token) : Bool := parser.current.token.sameKind token

/-- The next token is a sign. -/
def seesSign (parser : Parser) (sign : Sign) : Bool := parser.sees (.sign sign)

/-- A bound for the depth of the recursion over the rest of the text. -/
def depth (parser : Parser) : Nat := 24 * (parser.lexer.rest.length + 4)

end Parser

namespace Parse

/-- Fails at the next token. -/
def unexpected (expected : Expected) : Parse α := fun parser =>
  .error (.unexpected parser.current.start expected parser.current.token) parser

/-- Consumes the next token and reads another one. -/
def advance : Parse Unit := fun parser =>
  match parser.lexer.next with
  | (.ok current, moved) => .ok () ⟨moved, current, parser.current.stop.offset⟩
  | (.error error, moved) =>
    .error (.lex error) { parser with lexer := moved, consumed := parser.current.stop.offset }

/-- Consumes the next token if it is of the given kind, and fails otherwise. -/
def expect (token : Token) : Parse Unit := fun parser =>
  if parser.sees token then advance parser else unexpected (.token token) parser

/-- Consumes the next token if it is the given sign, and tells whether it did. -/
def accept (sign : Sign) : Parse Bool := fun parser =>
  if parser.seesSign sign then
    match advance parser with
    | .ok _ parser => .ok true parser
    | .error error parser => .error error parser
  else .ok false parser

/-- The next token. -/
def peek : Parse Token := fun parser => .ok parser.current.token parser

/-- Replaces the next token by the end of the text, as when a literal is taken out of it. -/
def takeOut : Parse Unit := fun parser =>
  .ok () { parser with current := { parser.current with token := .endOfText } }

end Parse

namespace Parser

/-- The result of a step, without the parser. -/
def result : EStateM.Result ParseError Parser α → Except ParseError α
  | .ok a _ => .ok a
  | .error error _ => .error error

/-- Runs a step at the start of a text. -/
def run (step : Parse α) (dialect : Dialect) (source : List Char) : Except ParseError α :=
  match ofChars dialect source with
  | .ok parser => result (step parser)
  | .error error => .error error

end Parser

end Guest
