import Guest.Pattern.CharSet

/-!
# Patterns

Regular expressions as trees: sets of characters, conditions on the place, repetitions, capturing
groups, sequences and alternatives.
-/

namespace Guest

/-- A condition on a place in a text. -/
inductive Look where
  | startText
  | endText
  | startLine
  | endLine
  /-- The start of a line where a carriage return ends lines too. -/
  | startAnyLine
  /-- The end of a line where a carriage return ends lines too. -/
  | endAnyLine
  | boundary
  | notBoundary
  | wordStart
  | wordEnd
  /-- No word character precedes. -/
  | wordStartHalf
  /-- No word character follows. -/
  | wordEndHalf
  deriving DecidableEq, Repr

/-- A regular expression. -/
inductive Pattern where
  | empty
  | oneOf (set : Pattern.CharSet)
  /-- A condition; `ascii` restricts word characters to ASCII. -/
  | look (look : Look) (ascii : Bool)
  /-- Between `least` and `most` times the same; without `most`, any number of times. -/
  | repetition (body : Pattern) (least : Nat) (most : Option Nat) (greedy : Bool)
  | group (index : Nat) (body : Pattern)
  | scope (body : Pattern)
  | sequence (parts : List Pattern)
  /-- The first alternative that leads to a match. -/
  | alternatives (parts : List Pattern)

namespace Pattern

mutual

/-- The pattern matches a text of at least one character only. -/
def consumes : Pattern → Bool
  | empty => false
  | oneOf _ => true
  | look _ _ => false
  | repetition body least _ _ => least != 0 && body.consumes
  | group _ body => body.consumes
  | scope body => body.consumes
  | sequence parts => someConsume parts
  | alternatives parts => allConsume parts

/-- Some part consumes a character. -/
def someConsume : List Pattern → Bool
  | [] => false
  | part :: rest => part.consumes || someConsume rest

/-- Every part consumes a character. -/
def allConsume : List Pattern → Bool
  | [] => true
  | part :: rest => part.consumes && allConsume rest

end

mutual

/-- The pattern matches the empty text only. -/
def isVoid : Pattern → Bool
  | empty => true
  | oneOf _ => false
  | look _ _ => true
  | repetition body _ most _ => body.isVoid || most == some 0
  | group _ body => body.isVoid
  | scope body => body.isVoid
  | sequence parts => allVoid parts
  | alternatives parts => allVoid parts

/-- Every part matches the empty text only. -/
def allVoid : List Pattern → Bool
  | [] => true
  | part :: rest => part.isVoid && allVoid rest

end

/-- A repetition with its bounds reduced: what matches the empty text only is not repeated. -/
def bounds (body : Pattern) (least : Nat) (most : Option Nat) : Nat × Option Nat :=
  if body.isVoid then (min least 1, some (min (most.getD 1) 1)) else (least, most)

end Pattern

end Guest
