import Guest.Filter.Basic
import Guest.Text.Blank

/-!
# Filters as query strings

A query string names the field first and the comparison with its operand behind it.  A negation has
no place of its own: it is a mark on the condition or group below it, and two negations cancel.
Texts that hold characters with a meaning are quoted.
-/

namespace Guest

namespace Query

/-- The characters with a meaning in lists and groups. -/
def reserved : List Char := [',', '(', ')', '"', '\\']

/-- Tells the texts that are quoted: those with a reserved character, with blanks at an end, or
without any character. -/
def needsQuotes (s : List Char) : Bool :=
  s.any reserved.contains || Text.trim s != s || s.isEmpty

/-- A character inside of quotes. -/
def escaped (c : Char) : List Char := if c = '\\' ∨ c = '"' then ['\\', c] else [c]

/-- A text as an operand. -/
def term (s : List Char) : List Char :=
  if needsQuotes s then '"' :: s.flatMap escaped ++ ['"'] else s

/-- A scalar as an operand. -/
def scalar : Value → List Char
  | .string s => term s.toList
  | v => v.chars

/-- Scalars between commas. -/
def scalars : List Value → List Char
  | [] => []
  | [v] => scalar v
  | v :: rest => scalar v ++ ',' :: scalars rest

/-- An operand: a scalar, or a list in parentheses. -/
def operand : Value → List Char
  | .array items => '(' :: scalars items ++ [')']
  | v => scalar v

/-- The mark of a negation. -/
def mark (negated : Bool) : List Char := if negated then "not.".toList else []

/-- A condition; at the root an equals sign follows the field, inside of a group a point. -/
def condition (root negated : Bool) (field op operand : List Char) : List Char :=
  field ++ (if root then '=' else '.') :: mark negated ++ op ++ '.' :: operand

/-- A group. -/
def group (root negated : Bool) (name items : List Char) : List Char :=
  mark negated ++ name ++ (if root then ['=', '('] else ['(']) ++ items ++ [')']

/-- A search with its language, if it has one. -/
def searchOp (kind : SearchKind) (language : Option String) : List Char :=
  match language with
  | some language => kind.name.toList ++ '(' :: language.toList ++ [')']
  | none => kind.name.toList

end Query

namespace Filter

mutual

/-- The query string of a filter at the root or inside of a group, below an even or an odd number
of negations. -/
def render (root negated : Bool) : Filter → List Char
  | compare field op operand =>
    Query.condition root negated field.toList op.name.toList (Query.operand operand)
  | search field kind term language =>
    Query.condition root negated field.toList (Query.searchOp kind language)
      (Query.term term.toList)
  | not inner => render root (!negated) inner
  | all items => Query.group root negated ['a', 'n', 'd'] (renderItems items)
  | any items => Query.group root negated ['o', 'r'] (renderItems items)

/-- The query strings of the items of a group between commas. -/
def renderItems : List Filter → List Char
  | [] => []
  | [item] => render false false item
  | item :: rest => render false false item ++ ',' :: renderItems rest

end

/-- The query string of a filter. -/
def query (filter : Filter) : String := String.ofList (render true false filter)

end Filter

end Guest
