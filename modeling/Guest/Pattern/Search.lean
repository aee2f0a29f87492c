import Guest.Pattern.Program
import Guest.Pattern.Property

/-!
# Searching for a pattern

The leftmost place where a pattern matches, and there the match that its preferences choose first.
A place of the program that was tried at a position and failed is not tried there again, which
bounds the work by the product of both sizes.
-/

namespace Guest

namespace Pattern

/-- The positions that were saved, by slot. -/
abbrev Slots := Array (Option Nat)

/-- What remains to be tried, the next thing first. -/
inductive Task where
  | try (address position : Nat)
  /-- Give a slot its former content back. -/
  | restore (slot : Nat) (content : Option Nat)

/-- A search in a text. -/
structure Searcher where
  program : Array Instruction
  text : Array Char

namespace Searcher

/-- Tells word characters; there are none outside of the text. -/
def isWord (ascii : Bool) : Option Char → Bool
  | none => false
  | some c =>
    if c.toNat < 0x80 then c.isAlphanum || c == '_'
    else !ascii && Text.inRanges CharSet.wordCharacters c.toNat

/-- The character before a position. -/
def before (searcher : Searcher) (position : Nat) : Option Char :=
  if position = 0 then none else searcher.text[position - 1]?

/-- The character at a position. -/
def after (searcher : Searcher) (position : Nat) : Option Char := searcher.text[position]?

/-- Tells whether a condition holds at a position. -/
def holds (searcher : Searcher) (look : Look) (ascii : Bool) (position : Nat) : Bool :=
  let before := searcher.before position
  let after := searcher.after position
  let wordBefore := isWord ascii before
  let wordAfter := isWord ascii after
  match look with
  | .startText => before.isNone
  | .endText => after.isNone
  | .startLine => before.isNone || before == some '\n'
  | .endLine => after.isNone || after == some '\n'
  | .startAnyLine =>
    before.isNone || before == some '\n' || (before == some '\r' && after != some '\n')
  | .endAnyLine =>
    after.isNone || after == some '\r' || (after == some '\n' && before != some '\r')
  | .boundary => wordBefore != wordAfter
  | .notBoundary => wordBefore == wordAfter
  | .wordStart => !wordBefore && wordAfter
  | .wordEnd => wordBefore && !wordAfter
  | .wordStartHalf => !wordBefore
  | .wordEndHalf => !wordAfter

/-- The index of an address at a position among the places that were tried. -/
def placeIndex (searcher : Searcher) (address position : Nat) : Nat :=
  address * (searcher.text.size + 1) + position

/-- Works off the tasks until a match is found; `fuel` bounds the steps. -/
def work (searcher : Searcher) :
    Nat → List Task → Slots → ByteArray → Option Slots × ByteArray
  | 0, _, _, tried => (none, tried)
  | _ + 1, [], _, tried => (none, tried)
  | fuel + 1, .restore slot content :: tasks, slots, tried =>
    work searcher fuel tasks (slots.setIfInBounds slot content) tried
  | fuel + 1, .try address position :: tasks, slots, tried =>
    let place := searcher.placeIndex address position
    if (tried[place]?).getD 1 != 0 then work searcher fuel tasks slots tried
    else
      let tried := tried.set! place 1
      match searcher.program[address]? with
      | none => work searcher fuel tasks slots tried
      | some .done => (some slots, tried)
      | some (.oneOf set) =>
        match searcher.after position with
        | some c =>
          if Text.inRanges set c.toNat then
            work searcher fuel (.try (address + 1) (position + 1) :: tasks) slots tried
          else work searcher fuel tasks slots tried
        | none => work searcher fuel tasks slots tried
      | some (.look condition ascii) =>
        if searcher.holds condition ascii position then
          work searcher fuel (.try (address + 1) position :: tasks) slots tried
        else work searcher fuel tasks slots tried
      | some (.branch first second) =>
        work searcher fuel (.try first position :: .try second position :: tasks) slots tried
      | some (.jump target) => work searcher fuel (.try target position :: tasks) slots tried
      | some (.save slot) =>
        let former := (slots[slot]?).join
        work searcher fuel (.try (address + 1) position :: .restore slot former :: tasks)
          (slots.setIfInBounds slot (some position)) tried

/-- The number of places that can be tried. -/
def placeCount (searcher : Searcher) : Nat :=
  searcher.program.size * (searcher.text.size + 1)

/-- Searches from each of the last `count` positions in turn. -/
def searchLast (searcher : Searcher) : Nat → ByteArray → Option Slots
  | 0, _ => none
  | count + 1, tried =>
    let start := searcher.text.size - count
    let slots := Array.replicate (slotCount searcher.program) none
    let fuel := 3 * searcher.placeCount + 3
    match searcher.work fuel [.try 0 start] slots tried with
    | (some slots, _) => some slots
    | (none, tried) => searchLast searcher count tried

/-- The slots of the leftmost match. -/
def search (searcher : Searcher) : Option Slots :=
  searchLast searcher (searcher.text.size + 1) ⟨Array.replicate searcher.placeCount 0⟩

end Searcher

/-- The start and the end of each group in a list of slots. -/
def spans : List (Option Nat) → List (Option (Nat × Nat))
  | start :: stop :: rest =>
    (match start, stop with
      | some start, some stop => some (start, stop)
      | _, _ => none) :: spans rest
  | _ => []

/-- The spans of the groups in the leftmost match, the whole match first. -/
def find? (pattern : Pattern) (text : List Char) : Option (List (Option (Nat × Nat))) :=
  let searcher : Searcher := ⟨pattern.program, text.toArray⟩
  searcher.search.map fun slots => spans slots.toList

/-- The span of the leftmost match. -/
def span? (pattern : Pattern) (text : List Char) : Option (Nat × Nat) :=
  (pattern.find? text).bind fun spans => spans.head?.join

/-- Tells whether a pattern matches somewhere in a text. -/
def isMatch (pattern : Pattern) (text : List Char) : Bool := (pattern.find? text).isSome

/-- The part of a text that a span covers. -/
def partOf (text : List Char) (span : Nat × Nat) : List Char :=
  (text.take span.2).drop span.1

end Pattern

end Guest
