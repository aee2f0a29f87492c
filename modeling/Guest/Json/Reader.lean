import Guest.Json.Numeral
import Guest.Number.Read
import Guest.Text.Units
import Guest.Value.Basic

/-!
# Values from JSON text

A reader for JSON text.  Objects keep the order of their keys, and a repeated key keeps its first
place and its last value.  Nesting is limited, and strings hold no lone surrogates.
-/

namespace Guest

namespace JsonText

/-- How deep arrays and objects may be nested. -/
def mostNesting : Nat := 127

/-- Tells blanks between the parts of a text. -/
def isSpace (c : Char) : Bool := c == ' ' || c == '\n' || c == '\t' || c == '\r'

/-- The text without blanks at its front. -/
def skipSpaces (s : List Char) : List Char := s.dropWhile isSpace

/-- The character that an escape of one letter stands for. -/
def escape? : Char → Option Char
  | '"' => some '"'
  | '\\' => some '\\'
  | '/' => some '/'
  | 'b' => some '\x08'
  | 'f' => some '\x0c'
  | 'n' => some '\n'
  | 'r' => some '\r'
  | 't' => some '\t'
  | _ => none

/-- The number of four hexadecimal digits. -/
def hexValue? (a b c d : Char) : Option Nat := do
  let a ← Numeral.digitValue? 16 a
  let b ← Numeral.digitValue? 16 b
  let c ← Numeral.digitValue? 16 c
  let d ← Numeral.digitValue? 16 d
  return ((a * 16 + b) * 16 + c) * 16 + d

/-- Puts a character before the text that was read. -/
def push (c : Char) (read : Option (List Char × List Char)) : Option (List Char × List Char) :=
  read.map fun (s, rest) => (c :: s, rest)

/-- The rest of a string up to its closing quote, and what follows. -/
def stringRest : List Char → Option (List Char × List Char)
  | [] => none
  | '"' :: rest => some ([], rest)
  | '\\' :: 'u' :: a :: b :: c :: d :: rest =>
    match hexValue? a b c d with
    | none => none
    | some unit =>
      if Text.isLowSurrogate unit then none
      else if Text.isHighSurrogate unit then
        match rest with
        | '\\' :: 'u' :: e :: f :: g :: h :: rest =>
          match hexValue? e f g h with
          | some low =>
            if Text.isLowSurrogate low then
              push (Char.ofNat (Text.pairCode unit low)) (stringRest rest)
            else none
          | none => none
        | _ => none
      else push (Char.ofNat unit) (stringRest rest)
  | '\\' :: c :: rest =>
    match escape? c with
    | some c => push c (stringRest rest)
    | none => none
  | c :: rest => if c.toNat < 0x20 || c == '\\' then none else push c (stringRest rest)

/-- An optional minus at the front of a text: whether it is there, and what follows it. -/
def spanMinus : List Char → Bool × List Char
  | '-' :: rest => (true, rest)
  | s => (false, s)

/-- The digits before a point: zero alone, or digits that start with another one. -/
def wholeDigits? (s : List Char) : Option (List Char × List Char) :=
  match Number.spanDigits s with
  | ([], _) => none
  | ('0' :: _ :: _, _) => none
  | found => some found

/-- The digits after a point, if there is one. -/
def fractionDigits? : List Char → Option (List Char × List Char)
  | '.' :: rest =>
    match Number.spanDigits rest with
    | ([], _) => none
    | found => some found
  | s => some ([], s)

/-- The sign and the digits of an exponent, if there is one. -/
def exponentDigits? : List Char → Option (Bool × List Char × List Char)
  | [] => some (false, [], [])
  | c :: rest =>
    if c = 'e' ∨ c = 'E' then
      let (negative, unsigned) := Number.spanSign rest
      match Number.spanDigits unsigned with
      | ([], _) => none
      | (digits, rest) => some (negative, digits, rest)
    else some (false, [], c :: rest)

/-- The numeral at the front of a text, and what follows. -/
def numeral? (s : List Char) : Option (JsonNumeral × List Char) := do
  let (negative, unsigned) := spanMinus s
  let (whole, afterWhole) ← wholeDigits? unsigned
  let (fraction, afterFraction) ← fractionDigits? afterWhole
  let (exponentNegative, exponent, rest) ← exponentDigits? afterFraction
  return (⟨negative, whole, fraction, exponentNegative, exponent⟩, rest)

/-- The word or the number at the front of a text, and what follows. -/
def scalar? (number? : JsonNumeral → Option Number) (s : List Char) :
    Option (Value × List Char) :=
  match s with
  | '"' :: rest => (stringRest rest).map fun (s, rest) => (.ofChars s, rest)
  | 'n' :: 'u' :: 'l' :: 'l' :: rest => some (.null, rest)
  | 't' :: 'r' :: 'u' :: 'e' :: rest => some (.boolean true, rest)
  | 'f' :: 'a' :: 'l' :: 's' :: 'e' :: rest => some (.boolean false, rest)
  | s => do
    let (numeral, rest) ← numeral? s
    return (.number (← number? numeral), rest)

/-- The key of a field with its colon, and what follows. -/
def key? (s : List Char) : Option (String × List Char) :=
  match skipSpaces s with
  | '"' :: rest =>
    match stringRest rest with
    | some (key, rest) =>
      match skipSpaces rest with
      | ':' :: rest => some (String.ofList key, rest)
      | _ => none
    | none => none
  | _ => none

mutual

/-- The value at the front of a text, and what follows.  `fuel` bounds the recursion, and `depth`
is how deep arrays and objects may still be nested. -/
def valueIn (number? : JsonNumeral → Option Number) :
    Nat → Nat → List Char → Option (Value × List Char)
  | 0, _, _ => none
  | fuel + 1, depth, s =>
    match skipSpaces s, depth with
    | '[' :: _, 0 => none
    | '\x7b' :: _, 0 => none
    | '[' :: rest, depth + 1 =>
      match skipSpaces rest with
      | ']' :: rest => some (.array [], rest)
      | rest => do
        let (items, rest) ← itemsIn number? fuel depth rest
        return (.array items, rest)
    | '\x7b' :: rest, depth + 1 =>
      match skipSpaces rest with
      | '\x7d' :: rest => some (.object [], rest)
      | rest => do
        let (fields, rest) ← fieldsIn number? fuel depth rest
        return (.object (Fields.insertAll [] fields), rest)
    | s, _ => scalar? number? s

/-- One or more items between commas up to the end of an array, and what follows. -/
def itemsIn (number? : JsonNumeral → Option Number) :
    Nat → Nat → List Char → Option (List Value × List Char)
  | 0, _, _ => none
  | fuel + 1, depth, s => do
    let (item, rest) ← valueIn number? fuel depth s
    match skipSpaces rest with
    | ',' :: rest => do
      let (items, rest) ← itemsIn number? fuel depth rest
      return (item :: items, rest)
    | ']' :: rest => return ([item], rest)
    | _ => none

/-- One or more fields between commas up to the end of an object, and what follows. -/
def fieldsIn (number? : JsonNumeral → Option Number) :
    Nat → Nat → List Char → Option (List (String × Value) × List Char)
  | 0, _, _ => none
  | fuel + 1, depth, s => do
    let (key, rest) ← key? s
    let (value, rest) ← valueIn number? fuel depth rest
    match skipSpaces rest with
    | ',' :: rest => do
      let (fields, rest) ← fieldsIn number? fuel depth rest
      return ((key, value) :: fields, rest)
    | '\x7d' :: rest => return ([(key, value)], rest)
    | _ => none

end

/-- The value that a whole text denotes, numerals being read by `number?` and arrays and objects
being nested at most `nesting` deep.  Every step of the recursion but the last one of a nesting
consumes a character, so twice the length bounds it. -/
def readWithin (number? : JsonNumeral → Option Number) (nesting : Nat) (s : List Char) :
    Option Value :=
  match valueIn number? (2 * s.length + 2) nesting s with
  | some (v, rest) => if (skipSpaces rest).isEmpty then some v else none
  | none => none

/-- The value that a whole text denotes. -/
def read (s : List Char) : Option Value := readWithin JsonNumeral.value? mostNesting s

end JsonText

end Guest
