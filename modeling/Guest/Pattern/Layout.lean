import Guest.Pattern.Basic
import Guest.Pattern.Encoding

/-!
# Layouts of automata

A pattern is compiled to two automata over the bytes of UTF-8, one for each direction of reading.
A layout tells which states a pattern adds to them, in the order in which they are added.
-/

namespace Guest

namespace Pattern

/-- The bytes of a character that a pattern stands for. -/
def character? : Pattern → Option (List Nat)
  | oneOf set => (CharSet.only? set).map utf8Bytes
  | _ => none

/-- The bytes of the only text that a simple pattern matches. -/
def literal? : Pattern → Option (List Nat)
  | sequence parts => (parts.mapM character?).map List.flatten
  | part => character? part

/-- The encodings of the characters in a set, by their first bytes; neighbours with the same range
of first bytes go on together. -/
inductive ByteTree where
  | done
  /-- A byte of one of the ranges, and what follows it. -/
  | byte (ranges : List ((Nat × Nat) × ByteTree))

/-- The tree of encodings of at most `depth` bytes. -/
def ByteTree.ofPieces : Nat → List (List (Nat × Nat)) → ByteTree
  | 0, _ => .done
  | depth + 1, pieces =>
    if pieces.all List.isEmpty then .done
    else
      .byte ((pieces.splitBy fun x y => x.head? == y.head?).map fun group =>
        ((group.headD []).headD (0, 0), ofPieces depth (group.map List.tail)))

/-- What a pattern adds to an automaton. -/
inductive Layout where
  /-- A state whose steps take some memory besides. -/
  | state (extra : Nat)
  /-- States that read one of some encodings; equal ones are shared. -/
  | forward (tree : ByteTree)
  /-- States that read one of some encodings backwards; those that are at the same place before the
  end are shared. -/
  | backward (pieces : List (List (Nat × Nat)))
  | times (body : Layout) (count : Nat)
  | row (parts : List Layout)

namespace Layout

/-- A state that branches to two. -/
def fork : Layout := state 8

/-- What copies in a row add; there is a state even if there is no copy. -/
def copies (body : Layout) (count : Nat) : Layout :=
  if count = 0 then state 0 else times body count

/-- What a repetition adds. -/
def repeated (body : Layout) (consumes : Bool) (least : Nat) : Option Nat → Layout
  | some most =>
    if least = 0 ∧ most = 1 then row [fork, body, state 0]
    else if least = most then copies body least
    else row [copies body least, state 0, times (row [fork, body]) (most - least)]
  | none =>
    if least = 0 then
      if consumes then row [fork, body] else row [body, fork, fork, state 0]
    else row [times body least, fork]

/-- What one character of a set adds, in the given direction. -/
def ofSet (isForward : Bool) (set : CharSet) : Layout :=
  match CharSet.only? set with
  | some code => times (state 0) (utf8Bytes code).length
  | none =>
    if set.isEmpty then state 0
    else if CharSet.isAscii set then row [state 0, state (8 * set.length)]
    else if isForward then forward (.ofPieces 4 (set.flatMap pieces))
    else backward (set.flatMap pieces)

/-- The words up to the first empty one, and so on. -/
def untilEmpty : List (List Nat) → List (List (List Nat))
  | [] => [[]]
  | [] :: rest => [] :: untilEmpty rest
  | word :: rest =>
    match untilEmpty rest with
    | part :: parts => (word :: part) :: parts
    | [] => [[word]]

/-- What words of at most `depth` bytes add that share their common beginnings.  A word that ends
where others go on makes a branch. -/
def ofWordsIn : Nat → List (List Nat) → Layout
  | 0, _ => row []
  | depth + 1, words =>
    let parts := untilEmpty words
    let rows := parts.map fun part =>
      let bytes := (part.filterMap List.head?).eraseDups
      let next := bytes.map fun byte =>
        let tails := (part.filter fun word => word.head? == some byte).map List.tail
        if tails.all List.isEmpty then row [] else ofWordsIn depth tails
      match bytes with
      | [] => row []
      | [_] => row (next ++ [state 0])
      | bytes => row (next ++ [state (8 * bytes.length)])
    let branches := (parts.filter fun part => !part.isEmpty).length + (parts.length - 1)
    row (rows ++ if branches = 1 then [] else [state (4 * branches)])

/-- What some words add of which any may be read. -/
def ofWords (isForward : Bool) (words : List (List Nat)) : Layout :=
  let words := if isForward then words else words.map List.reverse
  row [state 0, ofWordsIn ((words.map List.length).foldr max 0 + 1) words]

/-- What alternatives add; the branch to them comes after the first two. -/
def choice : List Layout → Layout
  | first :: second :: others =>
    row (first :: second :: state (4 * (others.length + 2)) :: state 0 :: others)
  | parts => row parts

end Layout

mutual

/-- What a simple pattern adds to the automaton of a direction. -/
def layout (isForward : Bool) : Pattern → Layout
  | empty => .state 0
  | oneOf set => .ofSet isForward set
  | look _ _ => .state 0
  | repetition body least most _ => .repeated (layout isForward body) body.consumes least most
  | group _ body =>
    if isForward then .row [.state 0, layout isForward body, .state 0] else layout isForward body
  | scope body => layout isForward body
  | sequence parts =>
    .row (if isForward then layouts isForward parts else (layouts isForward parts).reverse)
  | alternatives parts =>
    match parts.mapM literal? with
    | some words => .ofWords isForward words
    | none => .choice (layouts isForward parts)

/-- What simple patterns add to the automaton of a direction. -/
def layouts (isForward : Bool) : List Pattern → List Layout
  | [] => []
  | part :: rest => layout isForward part :: layouts isForward rest

end

mutual

/-- The pattern matches at the edge of the text only: at its start, or at its end if it is read
backwards. -/
def atEdge (isForward : Bool) : Pattern → Bool
  | empty => false
  | oneOf _ => false
  | look place _ => place == if isForward then .startText else .endText
  | repetition body least _ _ => least != 0 && body.atEdge isForward
  | group _ body => body.atEdge isForward
  | scope body => body.atEdge isForward
  | sequence parts => someAtEdge isForward parts
  | alternatives parts => allAtEdge isForward parts

/-- Some part that is at the edge, because what is read before it is empty, matches there only. -/
def someAtEdge (isForward : Bool) : List Pattern → Bool
  | [] => false
  | part :: rest =>
    if isForward then part.atEdge isForward || (part.isVoid && someAtEdge isForward rest)
    else someAtEdge isForward rest || (rest.all isVoid && part.atEdge isForward)

/-- Every part matches at the edge only. -/
def allAtEdge (isForward : Bool) : List Pattern → Bool
  | [] => true
  | part :: rest => part.atEdge isForward && allAtEdge isForward rest

end

/-- What a simple pattern adds to the automaton of a direction, with the whole match.  Unless it
matches at the edge of the text only, the automaton starts with a loop over any bytes. -/
def wholeLayout (isForward : Bool) (pattern : Pattern) : Layout :=
  .row [
    if pattern.atEdge isForward then .state 0 else .row [.fork, .state 0, .state 8],
    layout isForward (.group 0 pattern),
    .state 0]

end Pattern

end Guest
