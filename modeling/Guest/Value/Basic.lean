import Guest.Number.Read

/-!
# Values

What expressions compute: null, booleans, numbers, texts, arrays, and objects whose fields keep
the order in which their keys first came.  The module also holds the conversions to a truth value,
a number and a text.
-/

namespace Guest

/-- A value of the language. -/
inductive Value where
  | null
  | boolean (value : Bool)
  | number (value : Number)
  | string (value : String)
  | array (items : List Value)
  /-- Fields in the order of their keys' first insertion. -/
  | object (fields : List (String × Value))
  deriving Inhabited

/-- The fields of an object. -/
abbrev Fields := List (String × Value)

namespace Fields

/-- The value of a key. -/
def find? : Fields → String → Option Value
  | [], _ => none
  | (name, value) :: rest, key => if name = key then some value else find? rest key

/-- Sets a key: in place where it is present, at the end otherwise. -/
def insert : Fields → String → Value → Fields
  | [], key, value => [(key, value)]
  | (name, old) :: rest, key, value =>
    if name = key then (name, value) :: rest else (name, old) :: insert rest key value

/-- The fields after setting each key of a list in turn. -/
def insertAll (fields : Fields) (entries : List (String × Value)) : Fields :=
  entries.foldl (fun fields (key, value) => insert fields key value) fields

end Fields

namespace Value

/-- The name of a value's type. -/
def typeName : Value → String
  | null => "null"
  | boolean _ => "boolean"
  | number _ => "number"
  | string _ => "string"
  | array _ => "array"
  | object _ => "object"

/-- Null, `false`, zero, what is not a number and the empty text are false; all else is true, also
empty arrays and objects. -/
def isTruthy : Value → Bool
  | null => false
  | boolean b => b
  | number x => !x.isZero && !x.isNaN
  | string s => s != ""
  | array _ => true
  | object _ => true

/-- Tells arrays and objects. -/
def isComposite : Value → Bool
  | array _ => true
  | object _ => true
  | _ => false

/-- Tells null. -/
def isNull : Value → Bool
  | null => true
  | _ => false

/-- The text of a value, if it is one. -/
def string? : Value → Option String
  | string s => some s
  | _ => none

mutual

/-- The characters of a value's text.  The items of an array stand between commas, and null is
written there as nothing. -/
def chars : Value → List Char
  | null => ['n', 'u', 'l', 'l']
  | boolean b => if b then ['t', 'r', 'u', 'e'] else ['f', 'a', 'l', 's', 'e']
  | number x => x.text
  | string s => s.toList
  | array items => itemChars items
  | object _ => "[object Object]".toList

/-- The characters of an array's text. -/
def itemChars : List Value → List Char
  | [] => []
  | item :: rest =>
    (match item with
      | null => []
      | item => chars item) ++
    (match rest with
      | [] => []
      | rest => ',' :: itemChars rest)

end

/-- The text of a value. -/
def text (v : Value) : String := String.ofList v.chars

/-- The number that a value stands for in arithmetic. -/
def toNumber : Value → Number
  | null => Number.zero
  | boolean b => if b then Number.one else Number.zero
  | number x => x
  | string s => Number.ofText s.toList
  | array items => Number.ofText (itemChars items)
  | object _ => Number.nan

/-- The value of a text given by its characters. -/
def ofChars (s : List Char) : Value := string (String.ofList s)

/-- The value of a count. -/
def ofCount (n : Nat) : Value := number (Number.ofNat n)

end Value

end Guest
