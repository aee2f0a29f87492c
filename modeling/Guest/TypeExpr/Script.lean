import Guest.Expr.Script
import Guest.TypeExpr.Basic

/-!
# The meaning of type expressions

A union is a list of records, one for each single type.  A record holds the name, the value of the
configuration, the source text and the template arguments.  The configuration of a type is evaluated
before its template arguments.
-/

namespace Guest

namespace TypeTerm

/-- The script of a configuration; without one it is empty. -/
def configScript (config : Option Entries) : Script Value :=
  match config with
  | some entries => Expr.script (.object entries)
  | none => .done (.object [])

/-- The record of a single type. -/
def record (name : String) (config : Value) (fullname : String) (template : List Value) : Value :=
  .object [("name", .string name), ("config", config), ("fullname", .string fullname),
    ("template", .array template)]

mutual

/-- The script of a single type. -/
def script : TypeTerm → Script Value
  | ⟨name, config, fullname, template⟩ => do
    let config ← configScript config
    return record name config fullname (← argumentScripts template)

/-- The records of single types in order. -/
def memberScripts : List TypeTerm → Script (List Value)
  | [] => .done []
  | member :: rest => do
    let v ← script member
    return v :: (← memberScripts rest)

/-- The values of template arguments in order. -/
def argumentScripts : List (List TypeTerm) → Script (List Value)
  | [] => .done []
  | argument :: rest => do
    let members ← memberScripts argument
    return .array members :: (← argumentScripts rest)

end

end TypeTerm

namespace TypeUnion

/-- The script of a union. -/
def script (union : TypeUnion) : Script Value := do
  return .array (← TypeTerm.memberScripts union)

end TypeUnion

end Guest
