import Guest.Text.Ranges

/-!
# Sets of characters

A set is a list of disjoint ranges of code points in increasing order.
-/

namespace Guest

namespace Pattern

/-- A set of characters. -/
abbrev CharSet := List (Nat × Nat)

namespace CharSet

/-- Puts a range before the ranges of a set that starts at or after it, joining what touches. -/
def joinFront (first last : Nat) : CharSet → CharSet
  | [] => [(first, last)]
  | (a, b) :: rest =>
    if a ≤ last + 1 then joinFront first (max last b) rest else (first, last) :: (a, b) :: rest

/-- Adds a range. -/
def add (first last : Nat) : CharSet → CharSet
  | [] => [(first, last)]
  | (a, b) :: rest =>
    if b + 1 < first then (a, b) :: add first last rest
    else joinFront (min first a) last ((a, b) :: rest)

/-- The set of all characters in a list of ranges in any order. -/
def ofRanges (ranges : List (Nat × Nat)) : CharSet :=
  ranges.foldr (fun (a, b) set => add a b set) []

/-- All characters of two sets. -/
def union (s t : CharSet) : CharSet := ofRanges (s.merge t fun x y => x.1 ≤ y.1)

/-- All characters of several sets. -/
def unions (sets : List CharSet) : CharSet := sets.foldr union []

/-- The greatest code point. -/
def greatest : Nat := 0x10FFFF

/-- The characters from `start` on that are not in a set. -/
def gapsFrom (start : Nat) : CharSet → CharSet
  | [] => if start ≤ greatest then [(start, greatest)] else []
  | (a, b) :: rest =>
    if start < a then (start, a - 1) :: gapsFrom (b + 1) rest else gapsFrom (b + 1) rest

/-- The characters that are not in a set. -/
def complement (s : CharSet) : CharSet := gapsFrom 0 s

/-- The characters of both sets. -/
def inter (s t : CharSet) : CharSet := complement (union (complement s) (complement t))

/-- The characters of the first set that are not in the second. -/
def diff (s t : CharSet) : CharSet := inter s (complement t)

/-- The characters of exactly one of two sets. -/
def symmDiff (s t : CharSet) : CharSet := union (diff s t) (diff t s)

/-- The set of one code point. -/
def single (code : Nat) : CharSet := [(code, code)]

/-- The only code point of a set. -/
def only? : CharSet → Option Nat
  | [(first, last)] => if first = last then some first else none
  | _ => none

/-- The set of all characters. -/
def any : CharSet := [(0, greatest)]

/-- Tells the sets of ASCII characters. -/
def isAscii (s : CharSet) : Bool := s.all fun (_, b) => b ≤ 0x7F

/-- The set of runs that are given by their first and last code points and the distance between
neighbours. -/
def ofRuns (runs : List (Nat × Nat × Nat)) : CharSet :=
  ofRanges (runs.flatMap fun (first, last, distance) =>
    if distance = 1 then [(first, last)]
    else (List.range ((last - first) / distance + 1)).map fun i =>
      (first + distance * i, first + distance * i))

end CharSet

end Pattern

end Guest
