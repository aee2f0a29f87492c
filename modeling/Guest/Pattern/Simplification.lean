import Guest.Pattern.Basic

/-!
# Simple patterns

The simple form of a pattern has no parts that do nothing, no sequence directly inside a sequence,
no alternatives directly inside alternatives, and no alternatives that all start alike.  It matches
the same texts.
-/

namespace Guest

namespace Pattern

/-- The parts of a sequence that stand for themselves. -/
def inSequence : Pattern → List Pattern
  | empty => []
  | sequence parts => parts
  | part => [part]

/-- The alternatives that a part of a list of alternatives stands for. -/
def inAlternatives : Pattern → List Pattern
  | alternatives parts => parts
  | part => [part]

/-- The set of a pattern for one character. -/
def set? : Pattern → Option CharSet
  | oneOf [] => none
  | oneOf set => some set
  | _ => none

/-- The sequence of parts that are simple. -/
def joined (parts : List Pattern) : Pattern :=
  match parts.flatMap inSequence with
  | [] => .empty
  | [part] => part
  | parts => .sequence parts

/-- Alternatives without alternatives directly inside; those of single characters become one
set. -/
def united (parts : List Pattern) : Pattern :=
  match parts.flatMap inAlternatives with
  | [part] => part
  | parts =>
    match parts.mapM set? with
    | some sets => .oneOf (CharSet.unions sets)
    | none => .alternatives parts

mutual

/-- Two patterns are the same.  Captured groups never are, because their numbers differ. -/
def same : Pattern → Pattern → Bool
  | empty, empty => true
  | oneOf s, oneOf t => s == t
  | look place ascii, look other otherAscii => place == other && ascii == otherAscii
  | repetition body least most greedy, repetition other otherLeast otherMost otherGreedy =>
    least == otherLeast && most == otherMost && greedy == otherGreedy && same body other
  | sequence parts, sequence others => allSame parts others
  | alternatives parts, alternatives others => allSame parts others
  | _, _ => false

/-- Two lists of patterns are the same, one by one. -/
def allSame : List Pattern → List Pattern → Bool
  | [], [] => true
  | part :: parts, other :: others => same part other && allSame parts others
  | _, _ => false

end

/-- Tells the patterns of one character. -/
def isCharacter : Pattern → Bool
  | oneOf set => (CharSet.only? set).isSome
  | _ => false

/-- The blocks of a sequence of more than one: characters in a row are a block, and so is every
other part. -/
def blocks? : Pattern → Option (List (List Pattern))
  | sequence parts =>
    match parts.splitBy fun part next => isCharacter part && isCharacter next with
    | first :: second :: others => some (first :: second :: others)
    | _ => none
  | _ => none

/-- The blocks that two sequences start with. -/
def commonFront : List (List Pattern) → List (List Pattern) → List (List Pattern)
  | block :: rest, other :: others =>
    if allSame block other then block :: commonFront rest others else []
  | _, _ => []

/-- The parts of the blocks that all of some patterns start with. -/
def sharedFront (patterns : List Pattern) : List Pattern :=
  match patterns.mapM blocks? with
  | some (first :: others) => (others.foldl commonFront first).flatten
  | _ => []

/-- The alternatives that are simple: what all of them start with comes before them. -/
def chosen (parts : List Pattern) : Pattern :=
  match united parts with
  | alternatives parts =>
    match sharedFront parts with
    | [] => .alternatives parts
    | front =>
      let rests := parts.map fun part => joined ((inSequence part).drop front.length)
      joined (front ++ [united rests])
  | pattern => pattern

mutual

/-- The pattern without parts that do nothing, and without sequences and alternatives that are
nested directly. -/
def simplified : Pattern → Pattern
  | empty => .empty
  | oneOf set => .oneOf set
  | look place ascii => .look place ascii
  | repetition body least most greedy =>
    let body := simplified body
    match bounds body least most with
    | (_, some 0) => .empty
    | (1, some 1) => body
    | (least, most) => .repetition body least most greedy
  | group index body => .group index (simplified body)
  | scope body => simplified body
  | sequence parts => joined (simplifiedParts parts)
  | alternatives parts => chosen (simplifiedParts parts)

/-- The parts of a pattern in simple form. -/
def simplifiedParts : List Pattern → List Pattern
  | [] => []
  | part :: rest => simplified part :: simplifiedParts rest

end

end Pattern

end Guest
