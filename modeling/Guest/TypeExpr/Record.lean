import Guest.Evaluation
import Guest.Json.Value
import Guest.TypeExpr.Parser
import Guest.TypeExpr.Script
import Guest.Value.Source

/-!
# Type records

What a type expression evaluates to, taken out of its value, and the canonical text of it.
-/

namespace Guest

/-- A type: its name, its configuration, its source text, and unions as template arguments. -/
structure TypeRecord where
  name : String
  config : Fields
  fullname : String
  template : List (List TypeRecord)

namespace TypeRecord

/-- The text of a field, if it is one. -/
def textField? (fields : Fields) (key : String) : Option String :=
  (Fields.find? fields key).bind Value.string?

/-- The configuration among the fields of a record; it is empty unless it is an object. -/
def configField (fields : Fields) : Fields :=
  match Fields.find? fields "config" with
  | some (.object config) => config
  | _ => []

/-- The record with some fields and template arguments; it needs a name and a source text. -/
def ofFields? (fields : Fields) (template : List (List TypeRecord)) : Option TypeRecord :=
  match textField? fields "name", textField? fields "fullname" with
  | some name, some fullname => some ⟨name, configField fields, fullname, template⟩
  | _, _ => none

mutual

/-- The template arguments among the fields of a record. -/
def templateField : List (String × Value) → List (List TypeRecord)
  | [] => []
  | (key, .array items) :: rest =>
    if key = "template" then unionsOf items else templateField rest
  | (key, _) :: rest => if key = "template" then [] else templateField rest

/-- The unions that values denote. -/
def unionsOf : List Value → List (List TypeRecord)
  | [] => []
  | .array members :: rest => recordsOf members :: unionsOf rest
  | .object fields :: rest =>
    (ofFields? fields (templateField fields)).toList :: unionsOf rest
  | _ :: rest => [] :: unionsOf rest

/-- The records that values denote; a value that denotes none is left out. -/
def recordsOf : List Value → List TypeRecord
  | [] => []
  | .object fields :: rest =>
    (ofFields? fields (templateField fields)).toList ++ recordsOf rest
  | _ :: rest => recordsOf rest

end

/-- The records of a value: of the items of an array, or of the value itself. -/
def ofValue : Value → List TypeRecord
  | .array members => recordsOf members
  | .object fields => (ofFields? fields (templateField fields)).toList
  | _ => []

mutual

/-- The canonical text of a record. -/
def chars : TypeRecord → List Char
  | ⟨name, config, _, template⟩ =>
    name.toList ++ templateChars template ++
      (if config.isEmpty then [] else (Value.object config).source)

/-- The canonical text of template arguments. -/
def templateChars : List (List TypeRecord) → List Char
  | [] => []
  | argument :: rest => '<' :: unionChars argument ++ argumentChars rest

/-- The canonical text of the template arguments after the first one. -/
def argumentChars : List (List TypeRecord) → List Char
  | [] => ['>']
  | argument :: rest => ',' :: ' ' :: unionChars argument ++ argumentChars rest

/-- The canonical text of a union. -/
def unionChars : List TypeRecord → List Char
  | [] => []
  | [member] => chars member
  | member :: rest => chars member ++ ' ' :: '|' :: ' ' :: unionChars rest

end

/-- The canonical text of a union. -/
def unionText (union : List TypeRecord) : String := String.ofList (unionChars union)

mutual

/-- The value of a record. -/
def toValue : TypeRecord → Value
  | ⟨name, config, fullname, template⟩ =>
    TypeTerm.record name (.object config) fullname (templateValues template)

/-- The values of records. -/
def unionValues : List TypeRecord → List Value
  | [] => []
  | member :: rest => toValue member :: unionValues rest

/-- The values of template arguments. -/
def templateValues : List (List TypeRecord) → List Value
  | [] => []
  | argument :: rest => .array (unionValues argument) :: templateValues rest

end

mutual

/-- The JSON value of a record. -/
def toJson : TypeRecord → JsonValue
  | ⟨name, config, fullname, template⟩ =>
    .object [("name", .string name), ("config", (Value.object config).toJson),
      ("fullname", .string fullname), ("template", .array (templateJson template))]

/-- The JSON values of records. -/
def unionJson : List TypeRecord → List JsonValue
  | [] => []
  | member :: rest => toJson member :: unionJson rest

/-- The JSON values of template arguments. -/
def templateJson : List (List TypeRecord) → List JsonValue
  | [] => []
  | argument :: rest => .array (unionJson argument) :: templateJson rest

end

end TypeRecord

namespace TypeUnion

/-- The value of a union. -/
def evaluate (union : TypeUnion) : Session Evaluator Value := union.script.runNow

/-- The records of a union. -/
def records (union : TypeUnion) : Session Context (List TypeRecord) := do
  return TypeRecord.ofValue (← union.evaluate.isolated)

/-- The script of the records of a union, for an evaluation that may wait. -/
def recordsScript (union : TypeUnion) : Script (List TypeRecord) := do
  return TypeRecord.ofValue (← union.script)

/-- The records of a source text. -/
def evaluateSource (source : String) (context : Context) :
    Except Error (List TypeRecord) × Context :=
  runSource ((parse source).map records) context

end TypeUnion

end Guest
