import Guest.Number.Read
import Guest.Text.Letters
import Guest.Token.Basic

/-!
# Scanning one token

`scan` reads the token at the front of a text that does not start with a blank.  It tells how many
characters it read, also where it fails, so that positions follow from the text alone.
-/

namespace Guest

/-- Why no token can be read. -/
inductive Fault where
  | unterminated
  /-- A number literal is incomplete or runs into what follows; the text up to the first wrong
  character. -/
  | malformed (text : String)
  | unexpected (character : Char)
  deriving DecidableEq

/-- What was read at the front of a text. -/
structure Lexeme where
  /-- How many characters were read. -/
  length : Nat
  outcome : Except Fault Token

namespace Lexeme

/-- Tells the characters that start a name. -/
def isNameStart (c : Char) : Bool := Text.isAlphabetic c || c == '_' || c == '$'

/-- Tells the characters that continue a name. -/
def isNamePart (c : Char) : Bool := Text.isAlphanumeric c || c == '_' || c == '$'

/-- A number literal that is wrong after `length` characters of `s`. -/
def malformed (s : List Char) (length : Nat) : Lexeme :=
  ⟨length, .error (.malformed (String.ofList (s.take (length + 1))))⟩

/-- A number literal of `length` characters at the front of `s`; a name character or a point after
it makes it wrong. -/
def numberOf (s : List Char) (length : Nat) (value : Number) : Lexeme :=
  match s.drop length with
  | c :: _ => if isNamePart c || c == '.' then malformed s length else ⟨length, .ok (.number value)⟩
  | [] => ⟨length, .ok (.number value)⟩

/-- Reads the digits of a radix after the two characters that introduce it. -/
def radixNumber (radix : Nat) (s : List Char) : Lexeme :=
  let digits := Number.leadingDigits radix (s.drop 2)
  if digits.isEmpty then malformed s 2
  else numberOf s (2 + digits.length) ((Number.ofDigits? radix digits).getD .nan)

/-- The digits behind a point at the front of a text, the length of the point, and what follows. -/
def fractionPart : List Char → List Char × Nat × List Char
  | '.' :: rest => ((Number.spanDigits rest).1, 1, (Number.spanDigits rest).2)
  | rest => ([], 0, rest)

/-- A zero in place of no digits. -/
def orZero (digits : List Char) : List Char := if digits.isEmpty then ['0'] else digits

/-- The text of a decimal literal with digits on both sides of the point and an exponent. -/
def normalText (whole fraction exponent : List Char) : List Char :=
  orZero whole ++ ('.' :: orZero fraction ++ 'e' :: exponent)

/-- A decimal literal of `length` characters at the front of `s`, given by its parts. -/
def decimalOf (s whole fraction exponent : List Char) (length : Nat) : Lexeme :=
  match Number.ofDecimalText? (normalText whole fraction exponent) with
  | some value => numberOf s length value
  | none => malformed s length

/-- Reads the exponent of a decimal literal, if there is one; it needs a digit.  The `length`
characters of `s` before it are the digits and the point. -/
def exponentPart (s whole fraction : List Char) (length : Nat) (after : List Char) : Lexeme :=
  match after with
  | mark :: rest =>
    if mark = 'e' ∨ mark = 'E' then
      let (negative, afterSign) := Number.spanSign rest
      let digits := (Number.spanDigits afterSign).1
      let signed := length + 1 + (rest.length - afterSign.length)
      if digits.isEmpty then malformed s signed
      else
        let exponent := if negative then '-' :: digits else digits
        decimalOf s whole fraction exponent (signed + digits.length)
    else decimalOf s whole fraction ['0'] length
  | [] => decimalOf s whole fraction ['0'] length

/-- Reads a decimal literal: digits with an optional point and an optional exponent.  A point needs
a digit on one of its sides. -/
def decimalNumber (s : List Char) : Lexeme :=
  let (whole, afterWhole) := Number.spanDigits s
  let (fraction, pointLength, after) := fractionPart afterWhole
  let length := whole.length + pointLength + fraction.length
  if pointLength ≠ 0 ∧ whole.isEmpty ∧ fraction.isEmpty then malformed s length
  else exponentPart s whole fraction length after

/-- Reads a number literal; `0x`, and `0b` in the rich dialects, introduce a radix. -/
def number (dialect : Dialect) (s : List Char) : Lexeme :=
  match s with
  | '0' :: mark :: _ =>
    if mark = 'x' ∨ mark = 'X' then radixNumber 16 s
    else if (mark = 'b' ∨ mark = 'B') ∧ dialect.isRich then radixNumber 2 s
    else decimalNumber s
  | _ => decimalNumber s

/-- The characters of a text literal after its opening quote, and how many of them there are with
the closing quote.  A backslash keeps its meaning only before the quote and another backslash. -/
def quotedBody (quote : Char) : List Char → Option (List Char × Nat)
  | [] => none
  | c :: rest =>
    if c = quote then some ([], 1)
    else if c = '\\' then
      match rest with
      | [] => none
      | d :: rest =>
        (quotedBody quote rest).map fun (body, length) =>
          if d = quote ∨ d = '\\' then (d :: body, length + 2) else (c :: d :: body, length + 2)
    else (quotedBody quote rest).map fun (body, length) => (c :: body, length + 1)

/-- Reads a text literal; `s` follows its opening quote. -/
def quotedText (quote : Char) (s : List Char) : Lexeme :=
  match quotedBody quote s with
  | some (body, length) => ⟨length + 1, .ok (.string (String.ofList body))⟩
  | none => ⟨s.length + 1, .error .unterminated⟩

/-- The token of a word. -/
def wordToken (dialect : Dialect) (word : String) : Token :=
  if word = "true" then .boolean true
  else if word = "false" then .boolean false
  else if word = "null" then .null
  else if dialect.isRich ∧ word = "NOT" then .word .not
  else if dialect.isRich ∧ word = "AND" then .word .and
  else if dialect.isRich ∧ word = "OR" then .word .or
  else .identifier word

/-- Reads a word.  In the full language `NOT` needs no blank after it. -/
def word (dialect : Dialect) (s : List Char) : Lexeme :=
  if dialect = .extended ∧ Text.startsWith ['N', 'O', 'T'] s then ⟨3, .ok (.word .not)⟩
  else
    let characters := s.takeWhile isNamePart
    ⟨characters.length, .ok (wordToken dialect (String.ofList characters))⟩

/-- The longest sign at the front of a text. -/
def sign? (dialect : Dialect) : List Char → Option (Sign × Nat)
  | '+' :: '+' :: _ => some (.increment, 2)
  | '+' :: _ => some (.plus, 1)
  | '-' :: '-' :: _ => some (.decrement, 2)
  | '-' :: _ => some (.minus, 1)
  | '*' :: '*' :: _ => if dialect.isRich then some (.starStar, 2) else some (.star, 1)
  | '*' :: _ => some (.star, 1)
  | '/' :: _ => some (.slash, 1)
  | '%' :: _ => some (.percent, 1)
  | '^' :: _ => some (.caret, 1)
  | '~' :: _ => some (.tilde, 1)
  | '<' :: '<' :: _ => some (.shiftLeft, 2)
  | '<' :: '=' :: _ => some (.lessEqual, 2)
  | '<' :: _ => some (.less, 1)
  | '>' :: '>' :: '>' :: _ => some (.shiftRightZero, 3)
  | '>' :: '>' :: _ => some (.shiftRight, 2)
  | '>' :: '=' :: _ => some (.greaterEqual, 2)
  | '>' :: _ => some (.greater, 1)
  | '=' :: '=' :: '=' :: _ => some (.strictEqual, 3)
  | '=' :: '=' :: _ => some (.equal, 2)
  | '=' :: _ => if dialect = .filter then some (.assign, 1) else none
  | '!' :: '=' :: '=' :: _ => some (.strictNotEqual, 3)
  | '!' :: '=' :: _ => some (.notEqual, 2)
  | '!' :: _ => some (.bang, 1)
  | '&' :: '&' :: _ => some (.andAnd, 2)
  | '&' :: _ => some (.ampersand, 1)
  | '|' :: '|' :: _ => some (.orOr, 2)
  | '|' :: _ => some (.bar, 1)
  | '?' :: ':' :: _ => some (.elvis, 2)
  | '?' :: _ => some (.question, 1)
  | ':' :: _ => some (.colon, 1)
  | ',' :: _ => some (.comma, 1)
  | '(' :: _ => some (.leftParen, 1)
  | ')' :: _ => some (.rightParen, 1)
  | '[' :: _ => some (.leftBracket, 1)
  | ']' :: _ => some (.rightBracket, 1)
  | '\x7b' :: _ => some (.leftBrace, 1)
  | '\x7d' :: _ => some (.rightBrace, 1)
  | '.' :: _ => some (.dot, 1)
  | _ => none

/-- Tells whether a number literal starts here: at a digit, or at a point before one. -/
def startsNumber : List Char → Bool
  | '.' :: c :: _ => Numeral.isDecimalDigit c
  | c :: _ => Numeral.isDecimalDigit c
  | [] => false

/-- Tells the quotes of text literals. -/
def isQuote (c : Char) : Bool := c == '"' || c == '\x27' || c == '\x60'

/-- Reads the token at the front of a text that does not start with a blank. -/
def scan (dialect : Dialect) (s : List Char) : Lexeme :=
  match s with
  | [] => ⟨0, .ok .endOfText⟩
  | c :: rest =>
    if startsNumber s then number dialect s
    else
      match sign? dialect s with
      | some (sign, length) => ⟨length, .ok (.sign sign)⟩
      | none =>
        if isQuote c then quotedText c rest
        else if isNameStart c then word dialect s
        else ⟨0, .error (.unexpected c)⟩

end Lexeme

end Guest
