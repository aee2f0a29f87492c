import Guest.Text.Blank
import Guest.Value.Basic

/-!
# Values as JSON text

The compact text has no blanks between its parts; the indented one has a line for every item and
field.  Numbers without a JSON form are written as null.
-/

namespace Guest

namespace JsonText

/-- How the parts of a text are laid out. -/
inductive Layout where
  | compact
  /-- On lines of their own, two blanks deeper for every level. -/
  | indented (depth : Nat)

namespace Layout

/-- The layout one level deeper. -/
def deeper : Layout → Layout
  | compact => compact
  | indented depth => indented (depth + 1)

/-- What starts a line. -/
def lineStart : Layout → List Char
  | compact => []
  | indented depth => '\n' :: List.replicate (2 * depth) ' '

/-- What stands between a key and its value. -/
def colon : Layout → List Char
  | compact => [':']
  | indented _ => [':', ' ']

end Layout

/-- The four digits of a code point in an escape. -/
def hexDigits (code : Nat) : List Char :=
  [Numeral.digit (code / 4096 % 16), Numeral.digit (code / 256 % 16),
    Numeral.digit (code / 16 % 16), Numeral.digit (code % 16)]

/-- A character inside of a string. -/
def escaped (c : Char) : List Char :=
  if c = '"' then ['\\', '"']
  else if c = '\\' then ['\\', '\\']
  else if c = '\n' then ['\\', 'n']
  else if c = '\r' then ['\\', 'r']
  else if c = '\t' then ['\\', 't']
  else if Text.isControl c then '\\' :: 'u' :: hexDigits c.toNat
  else [c]

/-- A string. -/
def string (s : List Char) : List Char := '"' :: s.flatMap escaped ++ ['"']

/-- The word for null. -/
def nullWord : List Char := ['n', 'u', 'l', 'l']

/-- A number. -/
def number (x : Number) : List Char := if x.isFinite then x.text else nullWord

mutual

/-- The JSON text of a value. -/
def write (layout : Layout) : Value → List Char
  | .null => nullWord
  | .boolean b => if b then ['t', 'r', 'u', 'e'] else ['f', 'a', 'l', 's', 'e']
  | .number x => number x
  | .string s => string s.toList
  | .array items =>
    '[' :: writeItems layout.deeper items ++ (if items.isEmpty then [] else layout.lineStart) ++
      [']']
  | .object fields =>
    '\x7b' :: writeFields layout.deeper fields ++
      (if fields.isEmpty then [] else layout.lineStart) ++ ['\x7d']

/-- The JSON text of the items of an array. -/
def writeItems (layout : Layout) : List Value → List Char
  | [] => []
  | [item] => layout.lineStart ++ write layout item
  | item :: rest => layout.lineStart ++ write layout item ++ ',' :: writeItems layout rest

/-- The JSON text of the fields of an object. -/
def writeFields (layout : Layout) : List (String × Value) → List Char
  | [] => []
  | [(key, value)] =>
    layout.lineStart ++ string key.toList ++ layout.colon ++ write layout value
  | (key, value) :: rest =>
    layout.lineStart ++ string key.toList ++ layout.colon ++ write layout value ++
      ',' :: writeFields layout rest

end

end JsonText

namespace Value

/-- The compact JSON text of a value. -/
def json (v : Value) : String := String.ofList (JsonText.write .compact v)

/-- The indented JSON text of a value. -/
def jsonIndented (v : Value) : String := String.ofList (JsonText.write (.indented 0) v)

mutual

/-- The value with null for every number that has no JSON form. -/
def withoutNonFinite : Value → Value
  | null => null
  | boolean b => boolean b
  | number x => if x.isFinite then number x else null
  | string s => string s
  | array items => array (itemsWithoutNonFinite items)
  | object fields => object (fieldsWithoutNonFinite fields)

/-- The items with null for every number that has no JSON form. -/
def itemsWithoutNonFinite : List Value → List Value
  | [] => []
  | item :: rest => withoutNonFinite item :: itemsWithoutNonFinite rest

/-- The fields with null for every number that has no JSON form. -/
def fieldsWithoutNonFinite : List (String × Value) → List (String × Value)
  | [] => []
  | (key, value) :: rest => (key, withoutNonFinite value) :: fieldsWithoutNonFinite rest

end

end Value

end Guest
