import Guest.Number.Text
import Guest.Pattern.Search
import Guest.Text.Blank
import Guest.Text.Search

/-!
# Reading numbers

A decimal literal is an optional sign and either `Infinity` or digits with an optional point and
an optional exponent.  `ofText` reads a text that a pattern of literals matches as a whole,
`ofFront` what the pattern finds at the front of a text, and `wholeOfFront` the digits of a radix
there.
-/

namespace Guest

namespace Number

/-- The parts of an unsigned decimal literal with at least one digit. -/
structure Literal where
  whole : List Char
  fraction : List Char
  exponentNegative : Bool
  /-- The digits of the exponent; none for an exponent of zero. -/
  exponent : List Char
  deriving DecidableEq

namespace Literal

/-- The number nearest to what the literal denotes. -/
def value (l : Literal) : Number :=
  let exponent : Int := Numeral.value 10 l.exponent
  ofDecimal false (Numeral.value 10 (l.whole ++ l.fraction))
    ((if l.exponentNegative then -exponent else exponent) - l.fraction.length)

end Literal

/-- The decimal digits at the front of a text and what follows them. -/
def spanDigits (s : List Char) : List Char × List Char :=
  (s.takeWhile Numeral.isDecimalDigit, s.dropWhile Numeral.isDecimalDigit)

/-- An optional sign at the front of a text: whether it is a minus, and what follows it. -/
def spanSign : List Char → Bool × List Char
  | '+' :: rest => (false, rest)
  | '-' :: rest => (true, rest)
  | s => (false, s)

/-- The exponent part at the front of a text: its sign, its digits and what follows.  Without a
digit there is no exponent part. -/
def spanExponent (s : List Char) : Bool × List Char × List Char :=
  match s with
  | mark :: rest =>
    if mark = 'e' ∨ mark = 'E' then
      let (negative, afterSign) := spanSign rest
      let (digits, after) := spanDigits afterSign
      if digits.isEmpty then (false, [], s) else (negative, digits, after)
    else (false, [], s)
  | [] => (false, [], [])

/-- The unsigned decimal literal at the front of a text and what follows it: digits, a point with
digits, and an exponent, each taken where it is there. -/
def spanLiteral (s : List Char) : Option (Literal × List Char) :=
  let (whole, afterWhole) := spanDigits s
  let (fraction, afterFraction) :=
    match afterWhole with
    | '.' :: rest => spanDigits rest
    | rest => ([], rest)
  if whole.isEmpty && fraction.isEmpty then none
  else
    let (negative, exponent, after) := spanExponent afterFraction
    some (⟨whole, fraction, negative, exponent⟩, after)

/-- The number of a text that is an unsigned decimal literal to its end. -/
def ofDecimalText? (s : List Char) : Option Number :=
  match spanLiteral s with
  | some (literal, []) => some literal.value
  | _ => none

/-- The number of a literal behind its signs: infinity by its name, or a decimal literal. -/
def ofLiteral (s : List Char) : Number :=
  let unsigned := s.dropWhile fun c => c == '+' || c == '-'
  let magnitude :=
    if unsigned = textInfinity then infinite false else (ofDecimalText? unsigned).getD nan
  if Text.startsWith ['-'] s then magnitude.neg else magnitude

/-! ## The patterns of literals -/

/-- A pattern that may be left out. -/
def optionally (body : Pattern) : Pattern := .repetition body 0 (some 1) true

/-- One character. -/
def characterPattern (c : Char) : Pattern := .oneOf [(c.toNat, c.toNat)]

/-- As many digits as there are, but no less than `least`. -/
def digitsPattern (least : Nat) : Pattern :=
  .repetition (.oneOf [('0'.toNat, '9'.toNat)]) least none true

/-- A sign that may be left out. -/
def signPattern : Pattern :=
  optionally (.oneOf [('+'.toNat, '+'.toNat), ('-'.toNat, '-'.toNat)])

/-- Digits with an optional point, or a point with digits behind it. -/
def mantissaPattern : Pattern :=
  .alternatives [
    .sequence [digitsPattern 1, optionally (characterPattern '.'), digitsPattern 0],
    .sequence [characterPattern '.', digitsPattern 1]]

/-- The mark of an exponent, and its digits behind an optional sign. -/
def exponentPattern : Pattern :=
  .sequence [.oneOf [('E'.toNat, 'E'.toNat), ('e'.toNat, 'e'.toNat)], signPattern, digitsPattern 1]

/-- A literal without its sign. -/
def unsignedPattern : Pattern :=
  .alternatives [
    .sequence (textInfinity.map characterPattern),
    .sequence [.scope mantissaPattern, optionally (.scope exponentPattern)]]

/-- A literal at the start of a text:
`^[+-]?(?:Infinity|(?:[0-9]+\.?[0-9]*|\.[0-9]+)(?:[eE][+-]?[0-9]+)?)`. -/
def frontPattern : Pattern :=
  .sequence [.look .startText false, signPattern, .scope unsignedPattern]

/-- A text that is a literal to its end. -/
def wholePattern : Pattern :=
  .sequence [.look .startText false, signPattern, .scope unsignedPattern, .look .endText false]

/-! ## Conversions -/

/-- Adds one digit to a number in a radix, each step rounded. -/
def appendDigit (radix : Nat) (x : Number) (digit : Nat) : Number :=
  x * ofNat radix + ofNat digit

/-- The number of a list of digits in a radix, each step rounded; nothing if there is another
character. -/
def ofDigits? (radix : Nat) (digits : List Char) : Option Number :=
  digits.foldlM
    (fun x c => (Numeral.digitValue? radix c).map (appendDigit radix x)) zero

/-- Whitespace and the byte order mark. -/
def isPadding (c : Char) : Bool := Text.isBlank c || c.toNat == 0xFEFF

/-- The radix that a mark after a leading zero stands for. -/
def radixMark? : Char → Option Nat
  | 'x' | 'X' => some 16
  | 'o' | 'O' => some 8
  | 'b' | 'B' => some 2
  | _ => none

/-- The number of a whole text.  A blank text is zero, `0x`, `0o` and `0b` introduce whole numbers
in their radix, and a text that is no number is not a number. -/
def ofText (s : List Char) : Number :=
  let trimmed := Text.trimBy isPadding s
  let decimal := if wholePattern.isMatch trimmed then ofLiteral trimmed else nan
  match trimmed with
  | [] => zero
  | '0' :: mark :: digits =>
    match radixMark? mark with
    | some radix => if digits.isEmpty then nan else (ofDigits? radix digits).getD nan
    | none => decimal
  | _ => decimal

/-- The number of the literal that is found at the front of a text; what follows is ignored. -/
def ofFront (s : List Char) : Number :=
  let trimmed := Text.trimStartBy isPadding s
  match frontPattern.span? trimmed with
  | some span => ofLiteral (Pattern.partOf trimmed span)
  | none => nan

/-- What follows a `0x` at the front of a text. -/
def afterHexMark? : List Char → Option (List Char)
  | '0' :: 'x' :: rest => some rest
  | '0' :: 'X' :: rest => some rest
  | _ => none

/-- The digits of a radix at the front of a text. -/
def leadingDigits (radix : Nat) (s : List Char) : List Char :=
  s.takeWhile fun c => (Numeral.digitValue? radix c).isSome

/-- The whole number at the front of a text.  Without a radix, or with radix zero, `0x` chooses
sixteen and everything else ten; a radix outside of 2 to 36 gives what is not a number. -/
def wholeOfFront (s : List Char) (radix? : Option Nat) : Number :=
  let (negative, unsigned) := spanSign (Text.trimBy isPadding s)
  let hex := afterHexMark? unsigned
  let radix :=
    match radix?.getD 0 with
    | 0 => if hex.isSome then 16 else 10
    | radix => radix
  if radix < 2 ∨ 36 < radix then nan
  else
    let body := if radix = 16 then hex.getD unsigned else unsigned
    let digits := leadingDigits radix body
    if digits.isEmpty then nan
    else
      let magnitude := (ofDigits? radix digits).getD nan
      if negative then magnitude.neg else magnitude

end Number

end Guest
