import Guest.Builtin.Table
import Guest.Filter.Parser
import Guest.Filter.Query
import Guest.Json.Printer
import Guest.Json.Reader
import Guest.Message
import Guest.Paragraph
import Guest.TypeExpr.Record

/-!
# Commands

What the program does with a source text: it evaluates or checks an expression, evaluates a type
expression, renders messages, compiles a filter or splits paragraphs.  The identifiers of an
evaluation are given as the text of a JSON object.
-/

namespace Guest

/-- Why a command fails. -/
inductive CommandError where
  | parse (error : ParseError)
  | eval (error : EvalError)
  | json
  | notObject (typeName : String)
  deriving DecidableEq

namespace CommandError

/-- The error in words. -/
def message : CommandError → String
  | parse error => s!"Parse error: {error.message}"
  | eval error => s!"Evaluation error: {error.message}"
  | json => "Invalid JSON"
  | notObject typeName => s!"--vars must be a JSON object, got {typeName}"

/-- The error of a source text. -/
def ofError : Error → CommandError
  | .parse error => parse error
  | .eval error => eval error

end CommandError

namespace Command

/-- The bindings in the text of a JSON object; without a text there are none. -/
def bindings : Option String → Except CommandError Fields
  | none => .ok []
  | some text =>
    match JsonText.read text.toList with
    | none => .error .json
    | some (.object fields) => .ok fields
    | some v => .error (.notObject v.typeName)

/-- A context with the built-ins and the bindings in a text. -/
def contextOf (bound : Option String) : Except CommandError Context := do
  return Context.initial.withIdentifiers (.bindings (← bindings bound))

/-- A parsed source. -/
def parsed (result : Except ParseError α) : Except CommandError α := result.mapError .parse

/-- The result of an evaluation. -/
def evaluated (result : Except Error α) : Except CommandError α := result.mapError .ofError

/-- A value and the identifiers that were reached, if they were tracked. -/
def report (value : Value) : Option (List String) → Value
  | none => value
  | some names => .object [("value", value), ("identifiers", .array (names.map .string))]

/-- The value of an expression. -/
def evaluate (dialect : Dialect) (bound : Option String) (tracks : Bool) (source : String) :
    Except CommandError Value := do
  let expr ← parsed (Expr.parse dialect source)
  let context ← contextOf bound
  let (result, context) := expr.evaluate.isolated (if tracks then context.track else context)
  return report (← result.mapError .eval) context.usage

/-- Tells whether a source is an expression. -/
def check (dialect : Dialect) (source : String) : Except CommandError Unit := do
  let _ ← parsed (Expr.parse dialect source)

/-- The records of a type expression. -/
def types (bound : Option String) (source : String) : Except CommandError Value := do
  let context ← contextOf bound
  let records ← evaluated (TypeUnion.evaluateSource source context).1
  return (JsonValue.array (TypeRecord.unionJson records)).toValue

/-- The messages of a text. -/
def messages (bound : Option String) (source : String) : Except CommandError Value := do
  let context ← contextOf bound
  let messages ← evaluated (Message.evaluate source context).1
  return (JsonValue.array (messages.map Message.toJson)).toValue

/-- The query string of a filter. -/
def query (source : String) : Except CommandError Value := do
  return .string (← parsed (Filter.parse source)).query

/-- The paragraphs of a text. -/
def paragraphs (source : String) : Except CommandError Value :=
  .ok (JsonValue.array ((Paragraph.split source).map Paragraph.toJson)).toValue

end Command

end Guest
