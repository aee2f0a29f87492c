import Guest.Pattern.Basic

/-!
# Programs of patterns

A pattern is matched by a program of instructions that branch in order of preference.  A loop over
what can match the empty text enters its body once before it may be left, so that preferences stay
those of the pattern.
-/

namespace Guest

namespace Pattern

/-- An instruction; without a jump the next one follows. -/
inductive Instruction where
  | oneOf (set : CharSet)
  | look (look : Look) (ascii : Bool)
  /-- Goes on at either place, the first one preferred. -/
  | branch (first second : Nat)
  | jump (target : Nat)
  /-- Notes the position in a slot. -/
  | save (slot : Nat)
  | done

/-- A branch that prefers the body of a loop if it is greedy, and the way out otherwise. -/
def loopBranch (greedy : Bool) (body out : Nat) : Instruction :=
  if greedy then .branch body out else .branch out body

/-- `count` copies in a row of what `code` gives for an address. -/
def copies (code : Nat → List Instruction) : Nat → Nat → List Instruction
  | 0, _ => []
  | count + 1, start =>
    let first := code start
    first ++ copies code count (start + first.length)

/-- At most `count` copies; each may be left for the address `out`. -/
def optionalCopies (code : Nat → List Instruction) (greedy : Bool) (out : Nat) :
    Nat → Nat → List Instruction
  | 0, _ => []
  | count + 1, start =>
    let body := code (start + 1)
    loopBranch greedy (start + 1) out :: body ++
      optionalCopies code greedy out count (start + 1 + body.length)

/-- The instructions of a repetition whose body is given by `code`. -/
def repetitionCode (code : Nat → List Instruction) (consumes : Bool) (least : Nat)
    (most : Option Nat) (greedy : Bool) (start : Nat) : List Instruction :=
  let size := (code start).length
  match most with
  | some most =>
    let required := copies code least start
    let optionalStart := start + required.length
    let out := optionalStart + (most - least) * (size + 1)
    required ++ optionalCopies code greedy out (most - least) optionalStart
  | none =>
    if least = 0 then
      if consumes then
        loopBranch greedy (start + 1) (start + size + 2) :: code (start + 1) ++ [.jump start]
      else
        let out := start + size + 2
        loopBranch greedy (start + 1) out :: code (start + 1) ++
          [loopBranch greedy (start + 1) out]
    else
      let required := copies code least start
      let out := start + required.length + 1
      required ++ [loopBranch greedy (out - 1 - size) out]

mutual

/-- The instructions of a pattern, from an address on. -/
def code : Pattern → Nat → List Instruction
  | empty, _ => []
  | oneOf set, _ => [.oneOf set]
  | look place ascii, _ => [.look place ascii]
  | repetition body least most greedy, start =>
    let (least, most) := bounds body least most
    if most = some 0 then []
    else repetitionCode (code body) body.consumes least most greedy start
  | group index body, start =>
    .save (2 * index) :: code body (start + 1) ++ [.save (2 * index + 1)]
  | scope body, start => code body start
  | sequence parts, start => sequenceCode parts start
  | alternatives parts, start => alternativesCode parts start

/-- The instructions of patterns in a row. -/
def sequenceCode : List Pattern → Nat → List Instruction
  | [], _ => []
  | part :: rest, start =>
    let first := code part start
    first ++ sequenceCode rest (start + first.length)

/-- The instructions of alternatives, in order of preference. -/
def alternativesCode : List Pattern → Nat → List Instruction
  | [], _ => []
  | part :: rest, start =>
    match rest with
    | [] => code part start
    | rest =>
      let first := code part (start + 1)
      let other := start + first.length + 2
      let others := alternativesCode rest other
      .branch (start + 1) other :: first ++ .jump (other + others.length) :: others

end

/-- The program of a pattern; the whole match is group zero. -/
def program (pattern : Pattern) : Array Instruction :=
  (code (group 0 pattern) 0 ++ [Instruction.done]).toArray

/-- The count of the slots that a program saves positions in. -/
def slotCount (program : Array Instruction) : Nat :=
  program.foldl (fun count instruction =>
    match instruction with
    | .save slot => max count (slot + 1)
    | _ => count) 0

end Pattern

end Guest
