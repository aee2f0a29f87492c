import Guest.Json.Value
import Guest.Template

/-!
# Messages

A message is a line with a speaker, a colon and a content.  The speaker is an expression that ends
at the colon, a name being its own speaker, or else text up to the first colon outside of an
interpolation.  The content is a text literal or a template.
-/

namespace Guest

/-- A line that was read. -/
structure Line where
  speaker : Template
  content : Template

/-- A line with its templates evaluated. -/
structure Message where
  speaker : String
  content : String
  deriving DecidableEq, Repr

/-- The JSON value of a message. -/
def Message.toJson (message : Message) : JsonValue :=
  .object [("speaker", .string message.speaker), ("content", .string message.content)]

namespace Parse

/-- An expression at whose end a colon stands; also gives the offset behind the colon. -/
def speaker : Parse (Option (Expr × Nat)) := do
  let expr ← expression
  fun parser =>
    .ok (if parser.seesSign .colon then some (expr, parser.current.stop.offset) else none) parser

end Parse

namespace Line

/-- The speaker that an expression stands for: a name for itself, all else for its value. -/
def speakerOf : Expr → Template
  | .identifier name => .ofText name
  | expr => [.expr expr]

/-- A speaker that is an expression, and the offset behind its colon. -/
def expressionSpeaker? (s : List Char) : Option (Template × Nat) :=
  match Parser.run Parse.speaker .extended s with
  | .ok (some (expr, after)) => some (speakerOf expr, after)
  | _ => none

/-- The offset of the first colon outside of the interpolations, after the first `skip` characters,
which belong to the last interpolation. -/
def separatorFrom : Nat → List Char → Except ParseError (Option Nat)
  | _, [] => .ok none
  | skip + 1, _ :: rest => do return (← separatorFrom skip rest).map (· + 1)
  | 0, c :: rest =>
    if Template.opens c rest then do
      let (_, length) ← Template.interpolation rest.tail
      return (← separatorFrom (length + 1) rest).map (· + 1)
    else if c = ':' then .ok (some 0)
    else do return (← separatorFrom 0 rest).map (· + 1)

/-- A speaker that is text, and the offset behind its colon. -/
def textSpeaker? (s : List Char) : Except ParseError (Option (List Char × Nat)) := do
  return (← separatorFrom 0 s).map fun offset => (s.take offset, offset + 1)

/-- The text of a content that is one text literal. -/
def literalContent? (content : List Char) : Option String :=
  let (first, lexer) := (Lexer.ofChars .extended content).next
  match first, lexer.next.1 with
  | .ok ⟨.string text, _, _⟩, .ok ⟨.endOfText, _, _⟩ => some text
  | _, _ => none

/-- A fault in the form of the message on a line, at a column from 1. -/
def fault (line column : Nat) (fault : MessageFault) : Except ParseError α :=
  .error (.messageForm ⟨column - 1, line, column⟩ fault)

/-- The speaker of a line and the offset behind its colon. -/
def speakerIn (line : Nat) (s : List Char) : Except ParseError (Template × Nat) :=
  match expressionSpeaker? s with
  | some found => .ok found
  | none => do
    match ← textSpeaker? s with
    | none => fault line (s.length + 1) .missingSeparator
    | some (text, after) =>
      let text := Text.trim text
      if text.isEmpty then fault line 1 .emptySpeaker
      else return (← Template.ofChars text, after)

/-- The content of a line behind an offset. -/
def contentIn (line offset : Nat) (s : List Char) : Except ParseError Template :=
  match Text.trim (s.drop offset) with
  | [] => fault line (offset + 1) .emptyContent
  | ':' :: _ => fault line (offset + 1) .doubledSeparator
  | content =>
    match literalContent? content with
    | some text => .ok (.ofText text)
    | none => Template.ofChars content

/-- The message on a line with a number. -/
def ofChars (line : Nat) (s : List Char) : Except ParseError Line := do
  let (speaker, offset) ← speakerIn line s
  return ⟨speaker, ← contentIn line offset s⟩

/-- The message that a line denotes. -/
def parse (source : String) : Except ParseError Line := ofChars 1 source.toList

/-- The messages on lines that are numbered from `number`; blank lines hold none. -/
def ofLines (number : Nat) : List (List Char) → Except ParseError (List Line)
  | [] => .ok []
  | s :: rest =>
    if s.all Text.isBlank then ofLines (number + 1) rest
    else do
      let line ← ofChars number s
      return line :: (← ofLines (number + 1) rest)

/-- The messages that a text denotes. -/
def parseAll (source : String) : Except ParseError (List Line) :=
  ofLines 1 (Text.lines source.toList)

/-- The message of a line. -/
def render (line : Line) : Session Context Message := do
  let speaker ← line.speaker.render
  return ⟨speaker, ← line.content.render⟩

/-- The messages of lines in order. -/
def renderAll : List Line → Session Context (List Message)
  | [] => return []
  | line :: rest => do
    let message ← render line
    return message :: (← renderAll rest)

/-- The script of a message, for an evaluation that may wait. -/
def script (line : Line) : Script Message := do
  let speaker ← line.speaker.script
  return ⟨speaker, ← line.content.script⟩

/-- The script of messages in order, for an evaluation that may wait. -/
def scripts : List Line → Script (List Message)
  | [] => .done []
  | line :: rest => do
    let message ← script line
    return message :: (← scripts rest)

end Line

namespace Message

/-- The messages of a source text. -/
def evaluate (source : String) (context : Context) : Except Error (List Message) × Context :=
  runSource ((Line.parseAll source).map Line.renderAll) context

end Message

end Guest
