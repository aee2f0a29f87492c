import Guest.Builtin.Basic
import Guest.Pattern.Memory
import Guest.Pattern.Search
import Guest.Text.Bytes
import Guest.Text.Case
import Guest.Text.Units
import Guest.Value.Access

/-!
# Built-in functions on texts

The functions of the namespaces `String` and `string`.  The first argument is the text; positions
count its characters.  Two conventions locate a position: `clampedIndex` moves it into the text,
and `relativeIndex` counts a negative one from the end.  Both compute with numbers, in which a
length is exact up to `2 ^ 53`.  There is no longer text; positions in one are defined by whole
numbers.  The searches compare the bytes of texts.
-/

namespace Guest

namespace Number

/-- The index that a number stands for, clamped to the range of indices. -/
def toIndex (x : Number) : Nat := x.toNatClamped Value.mostIndex

/-- The greatest length up to which all lengths are exact as numbers. -/
def mostExactLength : Nat := 2 ^ 53

/-- The position in a text of some length that is nearest to a number. -/
def clampedIndex (x : Number) (length : Nat) : Nat :=
  if length ≤ mostExactLength then ((x.toWhole.max zero).min (ofNat length)).toIndex
  else x.toNatClamped length

/-- The position by whole numbers; a negative number counts from the end. -/
def wholeRelativeIndex (x : Number) (length : Nat) : Nat :=
  if x.toWhole.less zero then length - x.neg.toNatClamped length else x.toNatClamped length

/-- The position in a text of some length; a negative number counts from the end. -/
def relativeIndex (x : Number) (length : Nat) : Nat :=
  if length ≤ mostExactLength then
    if x.toWhole.less zero then ((ofNat length + x.toWhole).max zero).toIndex
    else (x.toWhole.min (ofNat length)).toIndex
  else x.wholeRelativeIndex length

/-- The index of a character that a whole number selects; there is none for negative numbers. -/
def characterIndex? (x : Number) : Option Nat := if x.less zero then none else some x.toIndex

end Number

namespace Text

/-- The greatest length of a text that is made by repetition. -/
def mostLength : Nat := 2 ^ 30 - 1

/-- The characters from one position up to another. -/
def between (start stop : Nat) (s : List Char) : List Char := (s.take stop).drop start

/-- The first `count` characters of endless repetitions of a nonempty text. -/
def cycled (s : List Char) (count : Nat) : List Char :=
  (repeated s (count / s.length + 1)).take count

end Text

namespace Builtin

open Arguments

/-- The character that the second argument selects. -/
def character? (args : Arguments) : Option Char :=
  (number args 1).toWhole.characterIndex?.bind fun i => (chars args 0)[i]?

/-- The character at a position, which may be counted from the end, or null. -/
def at? : Builtin := fun args =>
  let s := chars args 0
  let x := (number args 1).toWhole
  let index := if x.less .zero then Number.ofNat s.length + x else x
  match index.characterIndex?.bind fun i => s[i]? with
  | some c => .ok (.ofChars [c])
  | none => .ok .null

/-- The character at a position, or the empty text. -/
def charAt : Builtin := fun args => .ok (.ofChars (character? args).toList)

/-- The code point at a position, or what is not a number. -/
def charCodeAt : Builtin := fun args =>
  match character? args with
  | some c => .ok (.ofCount c.toNat)
  | none => .ok (.number .nan)

/-- The code point at a position, or null. -/
def codePointAt : Builtin := fun args =>
  match character? args with
  | some c => .ok (.ofCount c.toNat)
  | none => .ok .null

/-- All arguments, one after the other. -/
def concat : Builtin := fun args => .ok (.ofChars (args.flatMap Value.chars))

/-- Tells whether the text up to a position ends with another one. -/
def endsWith : Builtin := fun args =>
  let s := chars args 0
  let stop := ((number? args 2).map fun x => x.clampedIndex s.length).getD s.length
  .ok (.boolean (Text.endsWith (Text.bytes (chars args 1)) (Text.bytes (s.take stop))))

/-- The position in the third argument, the start if there is none. -/
def startIn (args : Arguments) (length : Nat) : Nat :=
  ((number? args 2).getD .zero).clampedIndex length

/-- The offset of this position among the bytes. -/
def startOffset (args : Arguments) : Nat :=
  let s := chars args 0
  Text.byteOffset s (startIn args s.length)

/-- The bytes of the text from this position on. -/
def tail (args : Arguments) : List UInt8 := (Text.bytes (chars args 0)).drop (startOffset args)

/-- Tells whether the text holds another one from a position on. -/
def includes : Builtin := fun args =>
  .ok (.boolean (Text.contains (Text.bytes (chars args 1)) (tail args)))

/-- An index, or minus one where there is none. -/
def indexOr : Option Nat → Value
  | some i => .ofCount i
  | none => .number Number.one.neg

/-- The first index from a position on at which the text holds another one. -/
def indexOf : Builtin := fun args =>
  let found? := Text.indexOf? (Text.bytes (chars args 1)) (tail args)
  .ok (indexOr (found?.map fun found => Text.charIndex (chars args 0) (startOffset args + found)))

/-- The last index at which the text holds another one. -/
def lastIndexOf : Builtin := fun args =>
  let found? := Text.lastIndexOf? (Text.bytes (chars args 1)) (Text.bytes (chars args 0))
  .ok (indexOr (found?.map (Text.charIndex (chars args 0))))

/-- Tells whether the text continues with another one at a position. -/
def startsWith : Builtin := fun args =>
  .ok (.boolean (Text.startsWith (Text.bytes (chars args 1)) (tail args)))

/-- The pattern in the second argument. -/
def patternIn (args : Arguments) : Except BuiltinError Pattern :=
  match Pattern.read? (chars args 1) with
  | some pattern => .ok pattern
  | none => .error (.pattern (String.ofList (chars args 1)))

/-- The groups of the first match of a pattern, or null. -/
def matchGroups : Builtin := fun args => do
  let s := chars args 0
  let pattern ← patternIn args
  match pattern.find? s with
  | some spans =>
    let group (span? : Option (Nat × Nat)) : Value :=
      match span? with
      | some span => .ofChars (Pattern.partOf s span)
      | none => .null
    return .array (spans.map group)
  | none => return .null

/-- The index of the first match of a pattern. -/
def search : Builtin := fun args => do
  let pattern ← patternIn args
  return indexOr ((pattern.span? (chars args 0)).map Prod.fst)

/-- The text with a filler before or after it, up to a length. -/
def pad (place : (text filler : List Char) → List Char) : Builtin := fun args =>
  let s := chars args 0
  let target := (number args 1).toWhole
  let filler := ((optional? args 2).map Value.chars).getD [' ']
  if target.atMost (Number.ofNat s.length) || filler.isEmpty then .ok (.ofChars s)
  else if (Number.ofNat Text.mostLength).less target then .error .length
  else .ok (.ofChars (place s (Text.cycled filler (target.toCount - s.length))))

/-- The text a number of times. -/
def repeatText : Builtin := fun args =>
  let count := (number args 1).toWhole
  let s := chars args 0
  if count.less .zero || count.isInfinite then .error (.count count)
  else if s.isEmpty || count.isZero then .ok (.ofChars [])
  else if (Number.ofNat Text.mostLength).less (Number.ofNat s.length * count) then .error .length
  else .ok (.ofChars (Text.repeated s count.toCount))

/-- The text with its first occurrence of another one replaced. -/
def replace : Builtin := fun args =>
  .ok (.ofChars (Text.replaceFirst (chars args 1) (chars args 2) (chars args 0)))

/-- The text with all occurrences of another one replaced. -/
def replaceAll : Builtin := fun args =>
  .ok (.ofChars (Text.replaceAll (chars args 1) (chars args 2) (chars args 0)))

/-- The text between two positions, which may be counted from the end. -/
def slice : Builtin := fun args =>
  let s := chars args 0
  let start := (number args 1).relativeIndex s.length
  let stop := ((number? args 2).map fun x => x.relativeIndex s.length).getD s.length
  .ok (.ofChars (Text.between start stop s))

/-- The text between two positions in either order. -/
def substring : Builtin := fun args =>
  let s := chars args 0
  let a := (number args 1).clampedIndex s.length
  let b := ((number? args 2).map fun x => x.clampedIndex s.length).getD s.length
  .ok (.ofChars (Text.between (min a b) (max a b) s))

/-- The pieces of a text between the occurrences of a separator; the empty separator separates all
characters, and without a separator there is one piece. -/
def pieces (s : List Char) : Option (List Char) → List (List Char)
  | none => [s]
  | some [] => s.map fun c => [c]
  | some separator => Text.splitOn separator s

/-- The pieces of the text, as many of them as the limit allows. -/
def split : Builtin := fun args =>
  let parts := pieces (chars args 0) ((optional? args 1).map Value.chars)
  let kept :=
    match number? args 2 with
    | some limit => parts.take limit.toUnsigned
    | none => parts
  .ok (.array (kept.map .ofChars))

/-- A function of the characters of the text. -/
def ofText (f : List Char → List Char) : Builtin := fun args => .ok (.ofChars (f (chars args 0)))

/-- The text of code units. -/
def fromCodeUnits : Builtin := fun args =>
  .ok (.ofChars (Text.ofUnits (args.map fun v => v.toNumber.toUnsigned % 2 ^ 16)))

/-- The character whose code point is a value. -/
def codePoint (v : Value) : Except BuiltinError Char :=
  let x := v.toNumber
  let code := x.toNatClamped 0x110000
  if x.isWhole && !x.less .zero && code.isValidChar then .ok (Char.ofNat code)
  else .error (.codePoint v.text)

/-- The text of code points. -/
def fromCodePoints : Builtin := fun args => do return .ofChars (← args.mapM codePoint)

/-- The functions on texts by name. -/
def textFunctions : List (String × Builtin) := [
  ("String_fromCharCode", fromCodeUnits),
  ("String_fromCodePoint", fromCodePoints),
  ("string_at", at?),
  ("string_charAt", charAt),
  ("string_charCodeAt", charCodeAt),
  ("string_codePointAt", codePointAt),
  ("string_concat", concat),
  ("string_endsWith", endsWith),
  ("string_includes", includes),
  ("string_indexOf", indexOf),
  ("string_lastIndexOf", lastIndexOf),
  ("string_match", matchGroups),
  ("string_padEnd", pad fun s filler => s ++ filler),
  ("string_padStart", pad fun s filler => filler ++ s),
  ("string_repeat", repeatText),
  ("string_replace", replace),
  ("string_replaceAll", replaceAll),
  ("string_search", search),
  ("string_slice", slice),
  ("string_split", split),
  ("string_startsWith", startsWith),
  ("string_substring", substring),
  ("string_toLowerCase", ofText Text.toLower),
  ("string_toUpperCase", ofText Text.toUpper),
  ("string_trim", ofText Text.trim),
  ("string_trimEnd", ofText Text.trimEnd),
  ("string_trimStart", ofText Text.trimStart)]

end Builtin

end Guest
