import Guest.Value.Basic

/-!
# Access to parts

One step of access: an item or the length of an array, a character or the length of a text, a
field of an object.  What is missing is null; only reading from null fails.
-/

namespace Guest

namespace Value

/-- The greatest index; larger numbers are clamped to it. -/
def mostIndex : Nat := 2 ^ 64 - 1

/-- The index that a number denotes: a whole one that is not negative. -/
def indexOfNumber? (x : Number) : Option Nat :=
  if Number.zero.atMost x && x.trunc.equals x then some (x.toNatClamped mostIndex) else none

/-- The index that a key denotes: a number, or a text that is the canonical text of one. -/
def index? : Value → Option Nat
  | number x => indexOfNumber? x
  | string s =>
    let x := Number.ofText s.toList
    if x.text = s.toList then indexOfNumber? x else none
  | _ => none

/-- The item that a key selects from a list, as a value. -/
def select (length : Nat) (item? : Nat → Option Value) (key : Value) : Value :=
  if key.string? = some "length" then ofCount length
  else ((index? key).bind item?).getD null

/-- The part of a value that a key selects; null has no parts, and what is missing elsewhere is
null. -/
def access? (target key : Value) : Option Value :=
  match target with
  | null => none
  | array items => some (select items.length (fun i => items[i]?) key)
  | string s => some (select s.toList.length (fun i => (s.toList[i]?).map (ofChars [·])) key)
  | object fields => some ((Fields.find? fields key.text).getD null)
  | boolean _ => some null
  | number _ => some null

end Value

end Guest
