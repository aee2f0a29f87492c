import Guest.Evaluation

/-!
# Templates

Text in which expressions stand between double braces.  The end of an expression is where its
parser stops, so braces inside of it do not end it.
-/

namespace Guest

/-- A part of a template. -/
inductive Segment where
  | text (text : String)
  /-- An expression; its value stands for it. -/
  | expr (expr : Expr)

/-- The parts of a template in order. -/
abbrev Template := List Segment

namespace Parse

/-- Requires that the next token is a closing brace directly behind the last one; gives the offset
behind it. -/
def secondBrace : Parse Nat := fun parser =>
  if parser.seesSign .rightBrace && parser.current.start.offset == parser.consumed then
    .ok parser.current.stop.offset parser
  else .error (.messageForm parser.current.start .unclosedInterpolation) parser

/-- An expression and the two braces that close it; also gives the offset behind them. -/
def interpolation : Parse (Expr × Nat) := do
  let expr ← expression
  expect (.sign .rightBrace)
  return (expr, ← secondBrace)

end Parse

namespace Template

/-- A template of one text. -/
def ofText (text : String) : Template := [.text text]

/-- The expression behind two opening braces, and how many characters follow up to the end of the
braces that close it. -/
def interpolation (s : List Char) : Except ParseError (Expr × Nat) :=
  Parser.run Parse.interpolation .extended s

/-- Two opening braces start here. -/
def opens (c : Char) (rest : List Char) : Bool := c == '\x7b' && rest.head? == some '\x7b'

/-- Puts text before segments; there is no empty text. -/
def withText (text : List Char) (segments : List Segment) : Template :=
  if text.isEmpty then segments else .text (String.ofList text) :: segments

/-- The text up to the first expression and the segments from there on, after the first `skip`
characters, which belong to the last expression. -/
def segmentsFrom : Nat → List Char → Except ParseError (List Char × List Segment)
  | _, [] => .ok ([], [])
  | skip + 1, _ :: rest => segmentsFrom skip rest
  | 0, c :: rest =>
    if opens c rest then do
      let (expr, length) ← interpolation rest.tail
      let (text, segments) ← segmentsFrom (length + 1) rest
      return ([], .expr expr :: withText text segments)
    else do
      let (text, segments) ← segmentsFrom 0 rest
      return (c :: text, segments)

/-- The template that characters denote. -/
def ofChars (s : List Char) : Except ParseError Template := do
  let (text, segments) ← segmentsFrom 0 s
  return withText text segments

/-- The template that a text denotes. -/
def parse (source : String) : Except ParseError Template := ofChars source.toList

/-- The text of a template, each expression of which is evaluated without waiting. -/
def renderWith : Template → Session Evaluator String
  | [] => return ""
  | .text text :: rest => do return text ++ (← renderWith rest)
  | .expr expr :: rest => do
    let v ← expr.evaluate
    return v.text ++ (← renderWith rest)

/-- The text of a template. -/
def render (template : Template) : Session Context String := template.renderWith.isolated

/-- The script of the text of a template, for an evaluation that may wait. -/
def script : Template → Script String
  | [] => .done ""
  | .text text :: rest => do return text ++ (← script rest)
  | .expr expr :: rest => do
    let v ← expr.script
    return v.text ++ (← script rest)

end Template

end Guest
