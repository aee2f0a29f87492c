import Guest.Json.Reader
import Guest.Proofs.Token.Literals

/-!
# The texts of JSON

Which texts are JSON is given by rules, apart from the reader.  A text stands for a tree, whose
leaves are words, strings and numerals; a numeral is not a number yet.  What number it becomes is
up to a reader, and the nearest one is what it denotes.
-/

namespace Guest

namespace JsonNumeral

/-- The numeral without its sign. -/
def literal (n : JsonNumeral) : Number.Literal :=
  ⟨n.whole, n.fraction, n.exponentNegative, n.exponent⟩

/-- The number nearest to what the numeral denotes. -/
def nearest (n : JsonNumeral) : Number :=
  if n.negative then n.literal.value.neg else n.literal.value

end JsonNumeral

/-- The tree of a JSON text. -/
inductive JsonTree where
  | null
  | boolean (value : Bool)
  | numeral (value : JsonNumeral)
  | string (value : String)
  | array (items : List JsonTree)
  /-- Fields in the order of the text; keys may be repeated. -/
  | object (fields : List (String × JsonTree))

namespace JsonTree

mutual

/-- How deep arrays and objects are nested. -/
def nesting : JsonTree → Nat
  | null => 0
  | boolean _ => 0
  | numeral _ => 0
  | string _ => 0
  | array items => itemsNesting items + 1
  | object fields => fieldsNesting fields + 1

/-- How deep arrays and objects are nested in the items of an array. -/
def itemsNesting : List JsonTree → Nat
  | [] => 0
  | item :: rest => max (nesting item) (itemsNesting rest)

/-- How deep arrays and objects are nested in the fields of an object. -/
def fieldsNesting : List (String × JsonTree) → Nat
  | [] => 0
  | (_, tree) :: rest => max (nesting tree) (fieldsNesting rest)

end

mutual

/-- The value of a tree whose numerals are converted by `number?`; a repeated key keeps its first
place and its last value. -/
def value? (number? : JsonNumeral → Option Number) : JsonTree → Option Value
  | null => some .null
  | boolean b => some (.boolean b)
  | numeral n => (number? n).map .number
  | string s => some (.string s)
  | array items => (itemValues? number? items).map .array
  | object fields =>
    (fieldValues? number? fields).map fun fields => .object (Fields.insertAll [] fields)

/-- The values of the items of an array. -/
def itemValues? (number? : JsonNumeral → Option Number) : List JsonTree → Option (List Value)
  | [] => some []
  | item :: rest => do
    let value ← value? number? item
    let values ← itemValues? number? rest
    return value :: values

/-- The values of the fields of an object. -/
def fieldValues? (number? : JsonNumeral → Option Number) :
    List (String × JsonTree) → Option (List (String × Value))
  | [] => some []
  | (key, tree) :: rest => do
    let value ← value? number? tree
    let values ← fieldValues? number? rest
    return (key, value) :: values

end

end JsonTree

namespace JsonText

open Numeral (AllDigits)
open Number (FractionText ExponentText signText)

/-- A text of blanks alone. -/
def Spaces (gap : List Char) : Prop := ∀ c ∈ gap, isSpace c = true

/-! ## Strings -/

/-- The letters of the short escapes and the characters that they stand for. -/
inductive ShortEscape : Char → Char → Prop where
  | quote : ShortEscape '"' '"'
  | backslash : ShortEscape '\\' '\\'
  | slash : ShortEscape '/' '/'
  | backspace : ShortEscape 'b' '\x08'
  | formFeed : ShortEscape 'f' '\x0c'
  | newline : ShortEscape 'n' '\n'
  | carriageReturn : ShortEscape 'r' '\r'
  | tab : ShortEscape 't' '\t'

/-- Four hexadecimal digits of a code unit. -/
inductive UnitText : List Char → Nat → Prop where
  | digits {a b c d : Char} {i j k l : Nat} :
      Numeral.digitValue? 16 a = some i → Numeral.digitValue? 16 b = some j →
      Numeral.digitValue? 16 c = some k → Numeral.digitValue? 16 d = some l →
      UnitText [a, b, c, d] (((i * 16 + j) * 16 + k) * 16 + l)

/-- The texts between the quotes of a string, and the characters that they stand for. -/
inductive Characters : List Char → List Char → Prop where
  | nil :
      Characters [] []
  | plain {c : Char} {w s : List Char} :
      0x20 ≤ c.toNat → c ≠ '"' → c ≠ '\\' → Characters w s → Characters (c :: w) (c :: s)
  | short {letter c : Char} {w s : List Char} :
      ShortEscape letter c → Characters w s → Characters ('\\' :: letter :: w) (c :: s)
  | unit {digits w s : List Char} {unit : Nat} :
      UnitText digits unit → Text.isLowSurrogate unit = false →
      Text.isHighSurrogate unit = false → Characters w s →
      Characters ('\\' :: 'u' :: (digits ++ w)) (Char.ofNat unit :: s)
  | pair {digits digits' w s : List Char} {high low : Nat} :
      UnitText digits high → Text.isHighSurrogate high = true →
      UnitText digits' low → Text.isLowSurrogate low = true → Characters w s →
      Characters ('\\' :: 'u' :: (digits ++ '\\' :: 'u' :: (digits' ++ w)))
        (Char.ofNat (Text.pairCode high low) :: s)

/-! ## Numerals -/

/-- The texts of numerals: a zero in front stands alone before the point, and a digit follows a
point. -/
inductive NumeralText : List Char → JsonNumeral → Prop where
  | parts {whole fraction digits point scale : List Char} {negative exponentNegative : Bool} :
      AllDigits whole → whole ≠ [] → (whole.head? = some '0' → whole = ['0']) →
      FractionText point fraction → (point ≠ [] → fraction ≠ []) →
      ExponentText scale exponentNegative digits →
      NumeralText (signText negative (whole ++ (point ++ scale)))
        ⟨negative, whole, fraction, exponentNegative, digits⟩

/-! ## Values -/

/-- The texts of a key and its colon. -/
inductive KeyText : List Char → String → Prop where
  | quoted {gap gap' w s : List Char} :
      Spaces gap → Characters w s → Spaces gap' →
      KeyText (gap ++ '"' :: (w ++ '"' :: (gap' ++ [':']))) (String.ofList s)

mutual

/-- The texts of values, with no blank at their ends. -/
inductive ValueText : List Char → JsonTree → Prop where
  | null :
      ValueText ['n', 'u', 'l', 'l'] .null
  | true :
      ValueText ['t', 'r', 'u', 'e'] (.boolean .true)
  | false :
      ValueText ['f', 'a', 'l', 's', 'e'] (.boolean .false)
  | numeral {w : List Char} {n : JsonNumeral} :
      NumeralText w n → ValueText w (.numeral n)
  | string {w s : List Char} :
      Characters w s → ValueText ('"' :: (w ++ ['"'])) (.string (String.ofList s))
  | emptyArray {gap : List Char} :
      Spaces gap → ValueText ('[' :: (gap ++ [']'])) (.array [])
  | array {w : List Char} {items : List JsonTree} :
      ItemsText w items → ValueText ('[' :: (w ++ [']'])) (.array items)
  | emptyObject {gap : List Char} :
      Spaces gap → ValueText ('\x7b' :: (gap ++ ['\x7d'])) (.object [])
  | object {w : List Char} {fields : List (String × JsonTree)} :
      FieldsText w fields → ValueText ('\x7b' :: (w ++ ['\x7d'])) (.object fields)

/-- The texts of values between blanks; the whole text of a value is one of them. -/
inductive ElementText : List Char → JsonTree → Prop where
  | blanks {gap w gap' : List Char} {tree : JsonTree} :
      Spaces gap → ValueText w tree → Spaces gap' → ElementText (gap ++ (w ++ gap')) tree

/-- The texts of one or more items of an array. -/
inductive ItemsText : List Char → List JsonTree → Prop where
  | last {w : List Char} {item : JsonTree} :
      ElementText w item → ItemsText w [item]
  | more {w rest : List Char} {item : JsonTree} {items : List JsonTree} :
      ElementText w item → ItemsText rest items → ItemsText (w ++ ',' :: rest) (item :: items)

/-- The texts of one or more fields of an object. -/
inductive FieldsText : List Char → List (String × JsonTree) → Prop where
  | last {name w : List Char} {key : String} {tree : JsonTree} :
      KeyText name key → ElementText w tree → FieldsText (name ++ w) [(key, tree)]
  | more {name w rest : List Char} {key : String} {tree : JsonTree}
      {fields : List (String × JsonTree)} :
      KeyText name key → ElementText w tree → FieldsText rest fields →
      FieldsText (name ++ (w ++ ',' :: rest)) ((key, tree) :: fields)

end

end JsonText

end Guest
