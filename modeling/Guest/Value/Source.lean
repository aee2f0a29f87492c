import Guest.Token.Scan
import Guest.Value.Basic

/-!
# Values as source text

The expression that denotes a value.  Numbers that no literal denotes are written as the names of
built-in constants, and keys that are not plain names as text literals.
-/

namespace Guest

namespace Source

/-- The words that are no names in some dialect. -/
def reserved : List (List Char) :=
  ["true".toList, "false".toList, "null".toList, "AND".toList, "OR".toList]

/-- The start of a word that is read as an operator. -/
def negation : List Char := ['N', 'O', 'T']

/-- Tells the keys that are names in every dialect. -/
def isPlainKey : List Char → Bool
  | [] => false
  | c :: rest =>
    Lexeme.isNameStart c && rest.all Lexeme.isNamePart && !reserved.contains (c :: rest) &&
      !Text.startsWith negation (c :: rest)

/-- A character inside of a text literal. -/
def escaped (c : Char) : List Char := if c = '\\' ∨ c = '"' then ['\\', c] else [c]

/-- A text literal. -/
def stringLiteral (s : List Char) : List Char := '"' :: s.flatMap escaped ++ ['"']

/-- The key of an object's entry. -/
def key (s : List Char) : List Char := if isPlainKey s then s else stringLiteral s

/-- The constant for what is not a number. -/
def nanName : List Char := "Number_NaN".toList

/-- The constant for an infinity. -/
def infinityName (negative : Bool) : List Char :=
  if negative then "Number_NEGATIVE_INFINITY".toList else "Number_POSITIVE_INFINITY".toList

/-- A number. -/
def number : Number → List Char
  | .nan => nanName
  | .infinite negative => infinityName negative
  | x@(.finite ..) => x.text

end Source

namespace Value

mutual

/-- The source text of a value. -/
def source : Value → List Char
  | null => ['n', 'u', 'l', 'l']
  | boolean b => if b then ['t', 'r', 'u', 'e'] else ['f', 'a', 'l', 's', 'e']
  | number x => Source.number x
  | string s => Source.stringLiteral s.toList
  | array items => '[' :: itemsSource items ++ [']']
  | object fields => '\x7b' :: fieldsSource fields ++ ['\x7d']

/-- The source text of the items of an array. -/
def itemsSource : List Value → List Char
  | [] => []
  | [item] => source item
  | item :: rest => source item ++ ',' :: ' ' :: itemsSource rest

/-- The source text of the fields of an object. -/
def fieldsSource : List (String × Value) → List Char
  | [] => []
  | [(name, value)] => Source.key name.toList ++ ':' :: ' ' :: source value
  | (name, value) :: rest =>
    Source.key name.toList ++ ':' :: ' ' :: source value ++ ',' :: ' ' :: fieldsSource rest

end

end Value

end Guest
