import Guest.Pattern.Layout
import Guest.Pattern.Parser
import Guest.Pattern.Simplification

/-!
# The memory of automata

A pattern is refused if one of its automata takes more than ten mebibytes.  The automata are counted
here, and not built: only the states of sets need their numbers, because equal ones are shared as
far as a table of fixed size remembers them.
-/

namespace Guest

namespace Pattern

/-- A step of an automaton: a range of bytes, and the state that it leads to. -/
structure Step where
  range : Nat × Nat
  next : Nat
  deriving DecidableEq

/-- What is known of an automaton that is being built. -/
structure Automaton where
  states : Nat
  /-- The memory that the steps of these states take besides, in bytes. -/
  extra : Nat
  /-- States of sets that are remembered by all their steps. -/
  branches : Array (List Step × Nat)
  /-- States of sets that are remembered by their only step. -/
  links : Array (Step × Nat)

namespace Automaton

/-- An automaton without states. -/
def empty : Automaton :=
  ⟨0, 0, Array.replicate 10000 ([], 0), Array.replicate 1000 (⟨(0, 0), 0⟩, 0)⟩

/-- The memory of an automaton, in bytes. -/
def memory (automaton : Automaton) : Nat := 32 * automaton.states + automaton.extra

/-- The greatest memory that an automaton may take: ten mebibytes. -/
def mostMemory : Nat := 10 * 1024 * 1024

/-- Mixes a number into a hash. -/
def mix (hash : UInt64) (number : Nat) : UInt64 := (hash ^^^ number.toUInt64) * 1099511628211

/-- The hash of nothing. -/
def noHash : UInt64 := 14695981039346656037

/-- The number of a state with some steps: of one that is remembered, or of a new one. -/
def branch (steps : List Step) : Automaton → Nat × Automaton
  | ⟨states, extra, branches, links⟩ =>
    let hash := steps.foldl (fun hash step =>
      mix (mix (mix hash step.range.1) step.range.2) step.next) noHash
    let place := (hash % branches.size.toUInt64).toNat
    match (branches[place]?).filter fun entry => entry.1 = steps with
    | some (_, state) => (state, ⟨states, extra, branches, links⟩)
    | none =>
      let branches := branches.setIfInBounds place (steps, states)
      (states, ⟨states + 1, extra + 8 * steps.length, branches, links⟩)

/-- The number of a state with one step: of one that is remembered, or of a new one. -/
def link (step : Step) : Automaton → Nat × Automaton
  | ⟨states, extra, branches, links⟩ =>
    let hash := mix (mix (mix noHash step.next) step.range.1) step.range.2
    let place := (hash % links.size.toUInt64).toNat
    match (links[place]?).filter fun entry => entry.1 = step with
    | some (_, state) => (state, ⟨states, extra, branches, links⟩)
    | none =>
      let links := links.setIfInBounds place (step, states)
      (states, ⟨states + 1, extra, branches, links⟩)

mutual

/-- The state that reads a tree of encodings and goes on at the state `out`. -/
def addTree (out : Nat) : ByteTree → Automaton → Nat × Automaton
  | .done, automaton => (out, automaton)
  | .byte ranges, automaton =>
    let (steps, automaton) := addRanges out ranges automaton
    automaton.branch steps

/-- The steps for some ranges of bytes, each with the tree that follows it. -/
def addRanges (out : Nat) :
    List ((Nat × Nat) × ByteTree) → Automaton → List Step × Automaton
  | [], automaton => ([], automaton)
  | (range, tree) :: rest, automaton =>
    let (next, automaton) := addTree out tree automaton
    let (steps, automaton) := addRanges out rest automaton
    (⟨range, next⟩ :: steps, automaton)

end

/-- The state that reads some ranges of bytes from the last to the first, and goes on at the state
`out`. -/
def addChain (out : Nat) : List (Nat × Nat) → Automaton → Automaton
  | [], ⟨states, extra, branches, links⟩ => ⟨states, extra + 4, branches, links⟩
  | range :: rest, automaton =>
    let (next, automaton) := automaton.link ⟨range, out⟩
    addChain next rest automaton

/-- The states that read some encodings backwards and go on at the state `out`. -/
def addChains (out : Nat) : List (List (Nat × Nat)) → Automaton → Automaton
  | [], automaton => automaton
  | piece :: rest, automaton => addChains out rest (addChain out piece automaton)

/-- Adds a state whose steps take some memory besides. -/
def addState (extra : Nat) : Automaton → Automaton
  | ⟨states, former, branches, links⟩ => ⟨states + 1, former + extra, branches, links⟩

/-- The automaton, if it does not take too much memory. -/
def checked (automaton : Automaton) : Option Automaton :=
  if automaton.memory ≤ mostMemory then some automaton else none

/-- Repeats a step that may fail. -/
def iterate (step : Automaton → Option Automaton) : Nat → Automaton → Option Automaton
  | 0, automaton => some automaton
  | count + 1, automaton =>
    match step automaton with
    | some automaton => iterate step count automaton
    | none => none

mutual

/-- Adds a layout, unless that takes too much memory. -/
def add : Layout → Automaton → Option Automaton
  | .state extra, automaton => (automaton.addState extra).checked
  | .forward tree, automaton =>
    let out := automaton.states
    (addTree out tree (automaton.addState 0)).2.checked
  | .backward pieces, automaton =>
    let out := automaton.states + 1
    (addChains out pieces ((automaton.addState 0).addState 0)).checked
  | .times body count, automaton => iterate (add body) count automaton
  | .row parts, automaton => addRow parts automaton

/-- Adds layouts one after the other. -/
def addRow : List Layout → Automaton → Option Automaton
  | [], automaton => some automaton
  | part :: rest, automaton =>
    match add part automaton with
    | some automaton => addRow rest automaton
    | none => none

end

end Automaton

/-- The pattern can be compiled: the automaton of neither direction takes too much memory. -/
def fits (pattern : Pattern) : Bool :=
  let pattern := pattern.simplified
  [true, false].all fun isForward => (Automaton.empty.add (wholeLayout isForward pattern)).isSome

/-- Reads a pattern that can be compiled. -/
def read? (source : List Char) : Option Pattern := (parse source).filter fits

end Pattern

end Guest
