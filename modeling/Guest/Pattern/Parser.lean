import Guest.Number.Numeral
import Guest.Pattern.Basic
import Guest.Pattern.Fold
import Guest.Pattern.Naming
import Guest.Text.Letters
import Guest.Text.Search

/-!
# Reading patterns

The notation of patterns.  Flags hold from where they are set to the end of their group.  Anything
that has no meaning makes the whole pattern invalid; there is no need to say why.
-/

namespace Guest

namespace Pattern

/-- What a part of a pattern may change about the parts after it. -/
structure Flags where
  ignoreCase : Bool
  /-- `^` and `$` stand for the ends of lines. -/
  multiLine : Bool
  /-- A dot stands for a newline too. -/
  dotAll : Bool
  /-- Repetitions are lazy, and greedy with a question mark. -/
  swapGreed : Bool
  unicode : Bool
  /-- Blanks and comments do not count. -/
  freeSpacing : Bool
  /-- A carriage return ends lines too. -/
  anyLine : Bool

/-- The state of a reader. -/
structure ReaderState where
  rest : List Char
  flags : Flags
  nextGroup : Nat
  names : List (List Char)

/-- A step of reading a pattern. -/
abbrev Reader := StateT ReaderState Option

namespace Reader

/-- What has not been read. -/
def rest : Reader (List Char) := do return (← get).rest

/-- Goes on after part of the text. -/
def goOn (rest : List Char) : Reader Unit := modify fun s => { s with rest := rest }

/-- The flags in force. -/
def flags : Reader Flags := do return (← get).flags

/-- The text after blanks and comments. -/
def afterBlanks : List Char → List Char
  | [] => []
  | c :: rest =>
    if Text.isBlank c then afterBlanks rest
    else if c = '#' then
      afterComment rest
    else c :: rest
where
  afterComment : List Char → List Char
  | [] => []
  | c :: rest => if c = '\n' then afterBlanks rest else afterComment rest

/-- Skips blanks and comments where they do not count. -/
def skip : Reader Unit := do
  if (← flags).freeSpacing then goOn (afterBlanks (← rest))

/-- Reads one character. -/
def char : Reader Char := do
  match ← rest with
  | c :: rest => goOn rest; return c
  | [] => failure

/-- Reads a text if it comes next, and tells whether it did. -/
def accept (text : List Char) : Reader Bool := do
  match Text.dropFront? text (← rest) with
  | some rest => goOn rest; return true
  | none => return false

/-- Reads a character that has to come next. -/
def expect (c : Char) : Reader Unit := do
  if (← char) != c then failure

/-- The characters at the front that satisfy `p`, without blanks and comments between them, and
what follows. -/
def spacedSpan (p : Char → Bool) : List Char → List Char × List Char
  | [] => ([], [])
  | c :: rest =>
    if Text.isBlank c then spacedSpan p rest
    else if c = '#' then
      inComment rest
    else if p c then
      let (front, rest) := spacedSpan p rest
      (c :: front, rest)
    else ([], c :: rest)
where
  inComment : List Char → List Char × List Char
  | [] => ([], [])
  | c :: rest => if c = '\n' then spacedSpan p rest else inComment rest

/-- Reads the characters that satisfy `p`; blanks and comments among them do not count where they
do not count elsewhere. -/
def takeWhile (p : Char → Bool) : Reader (List Char) := do
  let s ← rest
  let (front, rest) := if (← flags).freeSpacing then spacedSpan p s else s.span p
  goOn rest
  return front

/-- The characters up to a closing brace, which is read too. -/
def upToBrace : Reader (List Char) := do
  let body ← takeWhile (· != '\x7d')
  expect '\x7d'
  return body

/-- The character of a code point. -/
def charOf (code : Nat) : Reader Char :=
  if code.isValidChar then return Char.ofNat code else failure

/-- The code point of digits in radix sixteen. -/
def hexValue (digits : List Char) : Reader Nat :=
  if digits.isEmpty || !digits.all (fun c => (Numeral.digitValue? 16 c).isSome) then failure
  else return Numeral.value 16 digits

/-- Reads some characters, skipping before each. -/
def chars : Nat → Reader (List Char)
  | 0 => return []
  | count + 1 => do
    skip
    let c ← char
    return c :: (← chars count)

/-- A character given by its code point: in braces, or with a fixed count of digits.  Two digits
are a byte unless classes are those of Unicode, and a byte has to be an ASCII character. -/
def hexChar (count : Nat) : Reader Char := do
  skip
  if ← accept ['\x7b'] then charOf (← hexValue (← upToBrace))
  else
    let code ← hexValue (← chars count)
    if count = 2 && 0x7F < code && !(← flags).unicode then failure
    charOf code

/-- What a backslash introduces. -/
inductive Escape where
  | char (c : Char)
  | oneOf (set : CharSet)
  | look (look : Look)

/-- A set or its complement; complements need Unicode. -/
def complementIf (negated : Bool) (set : CharSet) : Reader CharSet := do
  if negated then
    if (← flags).unicode then return CharSet.complement set else failure
  else return set

/-- A set in braces: a name, or a property and its value with a sign between them; whether the
sign negates it is told too. -/
def setInBraces (body : List Char) : Option CharSet × Bool :=
  match Text.splitFirst? ['!', '='] body with
  | some (property, value) => (CharSet.ofValue? property value, true)
  | none =>
    match Text.splitFirst? [':'] body with
    | some (property, value) => (CharSet.ofValue? property value, false)
    | none =>
      match Text.splitFirst? ['='] body with
      | some (property, value) => (CharSet.ofValue? property value, false)
      | none => (CharSet.ofName? body, false)

/-- The set of a name, as it is written after `p`. -/
def namedSet (negated : Bool) : Reader CharSet := do
  if !(← flags).unicode then failure
  skip
  let (set, opposite) ←
    if ← accept ['\x7b'] then pure (setInBraces (← upToBrace))
    else
      let c ← char
      if c = '\\' then failure
      pure (CharSet.ofName? [c], false)
  match set with
  | none => failure
  | some set =>
    complementIf (negated != opposite)
      (if (← flags).ignoreCase then CharSet.foldCase set else set)

/-- The condition that braces after `b` name, if they do. -/
def boundaryName : Reader (Option Look) := do
  match ← rest with
  | '\x7b' :: s =>
    match if (← flags).freeSpacing then afterBlanks s else s with
    | [] => failure
    | c :: _ =>
      if c.isAlpha || c == '-' then
        let _ ← char
        match String.ofList (← upToBrace) with
        | "start" => return some .wordStart
        | "end" => return some .wordEnd
        | "start-half" => return some .wordStartHalf
        | "end-half" => return some .wordEndHalf
        | _ => failure
      else return none
  | _ => return none

/-- Tells the characters that stand for themselves after a backslash: those of ASCII that are
neither letters nor digits, angle brackets excepted. -/
def isPlainEscape (c : Char) : Bool := c.toNat < 0x80 && !c.isAlphanum && c != '<' && c != '>'

/-- Reads what follows a backslash. -/
def escape : Reader Escape := do
  let c ← char
  let unicode := (← flags).unicode
  match c with
  | 'x' => return .char (← hexChar 2)
  | 'u' => return .char (← hexChar 4)
  | 'U' => return .char (← hexChar 8)
  | 'p' => return .oneOf (← namedSet false)
  | 'P' => return .oneOf (← namedSet true)
  | 'd' => return .oneOf (if unicode then CharSet.digits else CharSet.asciiDigits)
  | 's' => return .oneOf (if unicode then CharSet.blanks else CharSet.asciiBlanks)
  | 'w' =>
    return .oneOf (if unicode then CharSet.wordCharacters else CharSet.asciiWordCharacters)
  | 'D' => return .oneOf (← complementIf true CharSet.digits)
  | 'S' => return .oneOf (← complementIf true CharSet.blanks)
  | 'W' => return .oneOf (← complementIf true CharSet.wordCharacters)
  | 'a' => return .char '\x07'
  | 'f' => return .char '\x0c'
  | 't' => return .char '\t'
  | 'n' => return .char '\n'
  | 'r' => return .char '\r'
  | 'v' => return .char '\x0b'
  | 'A' => return .look .startText
  | 'z' => return .look .endText
  | 'b' => return .look ((← boundaryName).getD .boundary)
  | 'B' => return .look .notBoundary
  | '<' => return .look .wordStart
  | '>' => return .look .wordEnd
  | c => if isPlainEscape c then return .char c else failure

/-- A set, with the other cases of its characters where case does not count. -/
def foldIf (set : CharSet) : Reader CharSet := do
  let flags ← flags
  if !flags.ignoreCase then return set
  else if flags.unicode then return CharSet.foldCase set
  else return CharSet.foldCaseAscii set

/-- The pattern of one character. -/
def charPattern (c : Char) : Reader Pattern := do
  return .oneOf (← foldIf (CharSet.single c.toNat))

/-- Something that was read, and how deep its parts are nested. -/
structure Nested (α : Type) where
  content : α
  depth : Nat

/-- The depth of parts in a row: a single one adds no level. -/
def rowDepth (depths : List Nat) : Nat :=
  match depths with
  | [] => 0
  | [depth] => depth
  | depths => depths.foldr max 0 + 1

/-- The operations between parts of a class. -/
inductive SetOp where
  | inter
  | diff
  | symmDiff

/-- The result of an operation between parts of a class. -/
def SetOp.apply : SetOp → CharSet → CharSet → CharSet
  | inter => CharSet.inter
  | diff => CharSet.diff
  | symmDiff => CharSet.symmDiff

/-- All characters of some items of a class. -/
def together (items : List (Nested CharSet)) : Nested CharSet :=
  ⟨CharSet.unions (items.map Nested.content), rowDepth (items.map Nested.depth)⟩

/-- Applies the operation that waits for its right side. -/
def combine (pending : Option (SetOp × Nested CharSet)) (items : List (Nested CharSet)) :
    Reader (Nested CharSet) := do
  let right := together items
  match pending with
  | none => return right
  | some (op, left) =>
    let set := op.apply (← foldIf left.content) (← foldIf right.content)
    return ⟨set, max left.depth right.depth + 1⟩

/-- A class between brackets and colons, if one comes next. -/
def asciiClass : Reader (Option CharSet) := do
  match ← rest with
  | '[' :: ':' :: s =>
    let (negated, s) :=
      match s with
      | '^' :: s => (true, s)
      | s => (false, s)
    let name := s.takeWhile (· != ':')
    match s.dropWhile (· != ':'), CharSet.ofAsciiName? name with
    | ':' :: ']' :: s, some set =>
      goOn s
      return some (← complementIf negated (← foldIf set))
    | _, _ => return none
  | _ => return none

/-- One item of a class: a character or a set. -/
def classItem : Reader Escape := do
  match ← char with
  | '\\' => escape
  | c => return .char c

/-- The character that decides whether a hyphen makes a range: the next one, or where blanks and
comments do not count the first of the next text or comment. -/
def afterHyphen (s : List Char) : Reader (Option Char) := do
  if (← flags).freeSpacing then
    match s.dropWhile Text.isBlank with
    | '#' :: comment => return (comment.dropWhile Text.isBlank).head?
    | s => return s.head?
  else return s.head?

/-- The second half of a range, if a hyphen comes next that is followed by one. -/
def rangeEnd : Reader (Option Escape) := do
  skip
  match ← rest with
  | [] => failure
  | '-' :: s =>
    let c ← afterHyphen s
    if c == some ']' || c == some '-' then return none
    goOn s
    skip
    return some (← classItem)
  | _ => return none

/-- A range of characters, a single one, or a set. -/
def classRange : Reader CharSet := do
  let isWithin (c : Char) : Reader Bool := do return (← flags).unicode || c.toNat ≤ 0x7F
  match ← classItem, ← rangeEnd with
  | .oneOf set, none => return set
  | .char c, none => if ← isWithin c then return CharSet.single c.toNat else failure
  | .char c, some (.char d) =>
    if c.toNat ≤ d.toNat && (← isWithin d) then return [(c.toNat, d.toNat)] else failure
  | _, _ => failure

/-- Hyphens at the start of a class, which stand for themselves; `fuel` bounds their number. -/
def leadingHyphens : Nat → Reader (List (Nested CharSet))
  | 0 => return []
  | fuel + 1 => do
    if ← accept ['-'] then
      skip
      return ⟨CharSet.single '-'.toNat, 0⟩ :: (← leadingHyphens fuel)
    else return []

/-- The hyphens or the bracket at the start of a class, which stand for themselves. -/
def classStart : Reader (List (Nested CharSet)) := do
  let hyphens ← leadingHyphens (← rest).length
  if hyphens.isEmpty && (← accept [']']) then return [⟨CharSet.single ']'.toNat, 0⟩]
  else return hyphens

mutual

/-- A class after its opening bracket. -/
def classIn : Nat → Reader (Nested CharSet)
  | 0 => failure
  | fuel + 1 => do
    skip
    let negated ← accept ['^']
    skip
    let items ← classItemsIn fuel none (← classStart)
    return ⟨← complementIf negated (← foldIf items.content), items.depth + 1⟩

/-- The items of a class up to its closing bracket, those before them given. -/
def classItemsIn : Nat → Option (SetOp × Nested CharSet) → List (Nested CharSet) →
    Reader (Nested CharSet)
  | 0, _, _ => failure
  | fuel + 1, pending, items => do
    skip
    if ← accept [']'] then combine pending items
    else if ← accept ['&', '&'] then
      classItemsIn fuel (some (.inter, ← combine pending items)) []
    else if ← accept ['-', '-'] then
      classItemsIn fuel (some (.diff, ← combine pending items)) []
    else if ← accept ['~', '~'] then
      classItemsIn fuel (some (.symmDiff, ← combine pending items)) []
    else
      match ← asciiClass with
      | some ascii => classItemsIn fuel pending (⟨ascii, 0⟩ :: items)
      | none =>
        if ← accept ['['] then
          let nested ← classIn fuel
          classItemsIn fuel pending (nested :: items)
        else
          let set ← classRange
          classItemsIn fuel pending (⟨set, 0⟩ :: items)

end

/-- The pattern of a dot. -/
def dot : Reader Pattern := do
  let flags ← flags
  if !flags.unicode then failure
  if flags.dotAll then return .oneOf CharSet.any
  else if flags.anyLine then
    return .oneOf (CharSet.complement [(0x0A, 0x0A), (0x0D, 0x0D)])
  else return .oneOf (CharSet.complement [(0x0A, 0x0A)])

/-- The pattern of a circumflex or, at the `end`, of a dollar sign. -/
def lineLook (atEnd : Bool) : Reader Pattern := do
  let flags ← flags
  let look : Look :=
    if !flags.multiLine then (if atEnd then .endText else .startText)
    else if flags.anyLine then (if atEnd then .endAnyLine else .startAnyLine)
    else (if atEnd then .endLine else .startLine)
  return .look look false

/-- A count in a repetition; blanks around it do not count. -/
def count : Reader Nat := do
  goOn ((← rest).dropWhile Text.isBlank)
  let digits ← takeWhile Numeral.isDecimalDigit
  goOn ((← rest).dropWhile Text.isBlank)
  skip
  let value := Numeral.value 10 digits
  if digits.isEmpty || 0x100000000 ≤ value then failure
  return value

/-- The bounds of a repetition after its opening brace. -/
def countedBounds : Reader (Nat × Option Nat) := do
  skip
  let least ← count
  let bounds ←
    if ← accept [','] then
      skip
      if (← rest).head? = some '\x7d' then pure (least, none)
      else
        let most ← count
        if most < least then failure
        pure (least, some most)
    else pure (least, some least)
  expect '\x7d'
  skip
  return bounds

/-- A part of a sequence: a pattern, or a directive that only sets flags. -/
abbrev Part := Nested (Option Pattern)

/-- Repeats the last part; a question mark makes it lazy. -/
def repeatLast (parts : List Part) (bounds : Nat × Option Nat) : Reader (List Part) := do
  match parts with
  | ⟨some body, depth⟩ :: before =>
    let lazily ← accept ['?']
    let greedy := lazily == (← flags).swapGreed
    return ⟨some (.repetition body bounds.1 bounds.2 greedy), depth + 1⟩ :: before
  | _ => failure

/-- Sets or clears the flag of a letter. -/
def setFlag (flags : Flags) (value : Bool) : Char → Option Flags
  | 'i' => some { flags with ignoreCase := value }
  | 'm' => some { flags with multiLine := value }
  | 's' => some { flags with dotAll := value }
  | 'U' => some { flags with swapGreed := value }
  | 'u' => some { flags with unicode := value }
  | 'x' => some { flags with freeSpacing := value }
  | 'R' => some { flags with anyLine := value }
  | _ => none

/-- The flags after a list of letters; each letter and the hyphen may stand there once, and a
letter follows the hyphen. -/
def readFlags (flags : Flags) : List Char → List Char → Bool → Option Flags
  | [], seen, _ => if seen.head? = some '-' then none else some flags
  | c :: rest, seen, value =>
    if seen.contains c then none
    else if c = '-' then readFlags flags rest (c :: seen) false
    else
      match setFlag flags value c with
      | some flags => readFlags flags rest (c :: seen) value
      | none => none

/-- The name of a group. -/
def groupName : Reader Unit := do
  let s ← rest
  let name := s.takeWhile (· != '>')
  goOn (s.dropWhile (· != '>'))
  expect '>'
  let isPart (c : Char) : Bool :=
    Text.isAlphanumeric c || c == '_' || c == '.' || c == '[' || c == ']'
  match name with
  | [] => failure
  | first :: others =>
    if !(Text.isAlphabetic first || first == '_') || !others.all isPart then failure
    if (← get).names.contains name then failure
    modify fun s => { s with names := name :: s.names }

/-- Takes the number of the next capturing group. -/
def takeGroup : Reader Nat := do
  let index := (← get).nextGroup
  modify fun s => { s with nextGroup := index + 1 }
  return index

/-- How a group starts. -/
inductive Opening where
  | capture (index : Nat)
  | scope
  | directive

/-- Reads the start of a group after its opening parenthesis. -/
def opening : Reader Opening := do
  skip
  if ← accept ['?', 'P', '<'] then
    let index ← takeGroup
    groupName
    return .capture index
  else if ← accept ['?'] then
    match ← rest with
    | '=' :: _ => failure
    | '!' :: _ => failure
    | '<' :: '=' :: _ => failure
    | '<' :: '!' :: _ => failure
    | '<' :: rest =>
      goOn rest
      let index ← takeGroup
      groupName
      return .capture index
    | s =>
      let letters := s.takeWhile fun c => c != ':' && c != ')'
      goOn (s.dropWhile fun c => c != ':' && c != ')')
      match readFlags (← flags) letters [] true with
      | none => failure
      | some flags =>
        let close ← char
        modify fun s => { s with flags := flags }
        if close = ':' then return .scope
        else if letters.isEmpty then failure
        else return .directive
  else return .capture (← takeGroup)

/-- The pattern of parts in reverse order; directives count for the depth only. -/
def sequenceOf (parts : List Part) : Nested Pattern :=
  let pattern :=
    match parts.reverse.filterMap Nested.content with
    | [] => .empty
    | [part] => part
    | parts => .sequence parts
  ⟨pattern, rowDepth (parts.map Nested.depth)⟩

/-- The pattern of some alternatives. -/
def alternativesOf (parts : List (Nested Pattern)) : Nested Pattern :=
  let pattern :=
    match parts with
    | [part] => part.content
    | parts => .alternatives (parts.map Nested.content)
  ⟨pattern, rowDepth (parts.map Nested.depth)⟩

mutual

/-- Alternatives up to the end of a group or of the text. -/
def alternativesIn : Nat → Reader (List (Nested Pattern))
  | 0 => failure
  | fuel + 1 => do
    let first ← partsIn fuel []
    if ← accept ['|'] then return first :: (← alternativesIn fuel)
    else return [first]

/-- One alternative, from the parts before the next one, the last of them first. -/
def partsIn : Nat → List Part → Reader (Nested Pattern)
  | 0, _ => failure
  | fuel + 1, parts => do
    let simple (pattern : Pattern) : List Part := ⟨some pattern, 0⟩ :: parts
    skip
    match ← rest with
    | [] => return sequenceOf parts
    | '|' :: _ => return sequenceOf parts
    | ')' :: _ => return sequenceOf parts
    | '(' :: s =>
      goOn s
      partsIn fuel ((← groupIn fuel) :: parts)
    | '[' :: s =>
      goOn s
      let set ← classIn fuel
      partsIn fuel (⟨some (.oneOf set.content), set.depth⟩ :: parts)
    | '?' :: s =>
      goOn s
      partsIn fuel (← repeatLast parts (0, some 1))
    | '*' :: s =>
      goOn s
      partsIn fuel (← repeatLast parts (0, none))
    | '+' :: s =>
      goOn s
      partsIn fuel (← repeatLast parts (1, none))
    | '\x7b' :: s =>
      goOn s
      partsIn fuel (← repeatLast parts (← countedBounds))
    | '.' :: s =>
      goOn s
      partsIn fuel (simple (← dot))
    | '^' :: s =>
      goOn s
      partsIn fuel (simple (← lineLook false))
    | '$' :: s =>
      goOn s
      partsIn fuel (simple (← lineLook true))
    | '\\' :: s =>
      goOn s
      match ← escape with
      | .char c => partsIn fuel (simple (← charPattern c))
      | .oneOf set => partsIn fuel (simple (.oneOf set))
      | .look place => partsIn fuel (simple (.look place (!(← flags).unicode)))
    | c :: s =>
      goOn s
      partsIn fuel (simple (← charPattern c))

/-- A group after its opening parenthesis; a directive gives no pattern. -/
def groupIn : Nat → Reader Part
  | 0 => failure
  | fuel + 1 => do
    let outer ← flags
    match ← opening with
    | .directive => return ⟨none, 0⟩
    | .capture index =>
      let body ← bodyIn fuel
      modify fun s => { s with flags := outer }
      return ⟨some (.group index body.content), body.depth + 1⟩
    | .scope =>
      let body ← bodyIn fuel
      modify fun s => { s with flags := outer }
      return ⟨some (.scope body.content), body.depth + 1⟩

/-- The alternatives of a group and its closing parenthesis. -/
def bodyIn : Nat → Reader (Nested Pattern)
  | 0 => failure
  | fuel + 1 => do
    let parts ← alternativesIn fuel
    expect ')'
    return alternativesOf parts

end

/-- A pattern that ends with the text. -/
def whole (fuel : Nat) : Reader (Nested Pattern) := do
  let parts ← alternativesIn fuel
  if !(← rest).isEmpty then failure
  return alternativesOf parts

end Reader

/-- The flags at the start of a pattern. -/
def initialFlags : Flags := ⟨false, false, false, false, true, false, false⟩

/-- How deep patterns may be nested. -/
def mostDepth : Nat := 250

/-- The pattern that a text denotes, if it is valid. -/
def parse (source : List Char) : Option Pattern :=
  match (Reader.whole (6 * source.length + 6)).run ⟨source, initialFlags, 1, []⟩ with
  | some (pattern, _) => if pattern.depth ≤ mostDepth then some pattern.content else none
  | none => none

end Pattern

end Guest
