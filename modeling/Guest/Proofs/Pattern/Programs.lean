import Guest.Proofs.Pattern.Machine
import Guest.Proofs.Pattern.Ways

/-!
# The programs of patterns

The program of a plain pattern goes through the ways to match the pattern in their order, and the
search finds the first way at the leftmost start that has one.
-/

namespace Guest
namespace Pattern

/-! ## Code in a program -/

/-- Instructions that stand at an address of a program one after another. -/
def Placed (program : Array Instruction) : Nat → List Instruction → Prop
  | _, [] => True
  | address, instruction :: rest =>
    program[address]? = some instruction ∧ Placed program (address + 1) rest

variable {program : Array Instruction} {address count : Nat} {front code' : List Instruction}

theorem placed_append :
    Placed program address (front ++ code') ↔
      Placed program address front ∧ Placed program (address + front.length) code' := by
  induction front generalizing address with
  | nil => simp [Placed]
  | cons instruction rest ih =>
      rw [List.cons_append, Placed, ih, Placed, and_assoc, List.length_cons, Nat.add_assoc,
        Nat.add_comm 1]

theorem placed_toList (program : Array Instruction) : Placed program 0 program.toList := by
  have hdrop (rest front : List Instruction) (hsplit : program.toList = front ++ rest) :
      Placed program front.length rest := by
    induction rest generalizing front with
    | nil => trivial
    | cons instruction rest ih =>
        constructor
        · rw [← Array.getElem?_toList, hsplit, List.getElem?_append_right (Nat.le_refl _),
            Nat.sub_self, List.getElem?_cons_zero]
        · have hnext := ih (front ++ [instruction]) (by rw [hsplit, List.append_assoc]; rfl)
          rwa [List.length_append] at hnext
  exact hdrop program.toList [] rfl

/-! ## The length of code -/

theorem length_copies {body : Nat → List Instruction} {size : Nat}
    (h : ∀ address, (body address).length = size) :
    (copies body count address).length = count * size := by
  induction count generalizing address with
  | zero => rw [copies, List.length_nil, Nat.zero_mul]
  | succ count ih =>
      rw [copies, List.length_append, ih, h, Nat.succ_mul, Nat.add_comm]

theorem length_optionalCopies {body : Nat → List Instruction} {size out : Nat} {greedy : Bool}
    (h : ∀ address, (body address).length = size) :
    (optionalCopies body greedy out count address).length = count * (size + 1) := by
  induction count generalizing address with
  | zero => rw [optionalCopies, List.length_nil, Nat.zero_mul]
  | succ count ih =>
      rw [optionalCopies, List.length_append, List.length_cons, ih, h, Nat.succ_mul, Nat.add_comm]

theorem length_repetitionCode {body : Nat → List Instruction} {consumes greedy : Bool}
    {least address' : Nat} {most : Option Nat}
    (h : ∀ address address', (body address).length = (body address').length) :
    (repetitionCode body consumes least most greedy address).length =
      (repetitionCode body consumes least most greedy address').length := by
  have hsize (a : Nat) : (body a).length = (body 0).length := h a 0
  unfold repetitionCode
  cases most with
  | some most =>
      simp only [List.length_append, length_copies hsize, length_optionalCopies hsize]
  | none =>
      dsimp only
      split
      · split
        · simp only [List.length_append, List.length_cons, hsize]
        · simp only [List.length_append, List.length_cons, hsize]
      · simp only [List.length_append, List.length_cons, length_copies hsize]

theorem alternativesCode_cons (part other : Pattern) (rest : List Pattern) (address : Nat) :
    alternativesCode (part :: other :: rest) address =
      let first := part.code (address + 1)
      let next := address + first.length + 2
      let others := alternativesCode (other :: rest) next
      .branch (address + 1) next :: (first ++ .jump (next + others.length) :: others) := by
  rw [alternativesCode]
  · rfl
  · exact nofun

mutual

/-- The length of the code of a pattern does not depend on its address. -/
theorem length_code : (pattern : Pattern) → (a b : Nat) →
    (pattern.code a).length = (pattern.code b).length
  | .empty, _, _ => rfl
  | .oneOf _, _, _ => rfl
  | .look _ _, _, _ => rfl
  | .repetition body least most greedy, a, b => by
      rw [code, code]
      dsimp only
      split
      · rfl
      · exact length_repetitionCode (length_code body)
  | .group _ body, a, b => by
      rw [code, code, List.length_append, List.length_append, List.length_cons, List.length_cons,
        length_code body]
      rfl
  | .scope body, a, b => by
      rw [code, code]
      exact length_code body a b
  | .sequence parts, a, b => by
      rw [code, code]
      exact length_sequenceCode parts a b
  | .alternatives parts, a, b => by
      rw [code, code]
      exact length_alternativesCode parts a b

theorem length_sequenceCode : (parts : List Pattern) → (a b : Nat) →
    (sequenceCode parts a).length = (sequenceCode parts b).length
  | [], _, _ => rfl
  | part :: rest, a, b => by
      rw [sequenceCode, sequenceCode, List.length_append, List.length_append, length_code part a b,
        length_sequenceCode rest]

theorem length_alternativesCode : (parts : List Pattern) → (a b : Nat) →
    (alternativesCode parts a).length = (alternativesCode parts b).length
  | [], _, _ => rfl
  | [part], a, b => length_code part a b
  | part :: other :: rest, a, b => by
      rw [alternativesCode_cons, alternativesCode_cons]
      simp only [List.length_append, List.length_cons]
      rw [length_code part (a + 1) (b + 1), length_alternativesCode (other :: rest)]

end

/-! ## Code that goes through ways -/

namespace Searcher

variable {searcher : Searcher} {position start middle stop : Nat}
  {step step' : Nat → List Nat} {greedy : Bool}

/-- Code from `start` on tries the ways of a step in their order and leaves to `stop` in each: it
leads to what the first of them leads to that does lead to a match. -/
def Runs (searcher : Searcher) (start stop : Nat) (step : Nat → List Nat) : Prop :=
  ∀ position (found : Nat → Option (Slots → Slots)),
    (∀ next ∈ step position, searcher.Leads stop next (found next)) →
    searcher.Leads start position ((step position).findSome? found)

theorem leads_of_successors {found : Nat × Nat → Option (Slots → Slots)}
    (hdone : searcher.program[address]? ≠ some .done)
    (h : ∀ place ∈ searcher.successors address position,
      searcher.Leads place.1 place.2 (found place)) :
    searcher.Leads address position (((searcher.successors address position).findSome? found).map
      fun change => change ∘ searcher.noted address position) := by
  cases hfound : (searcher.successors address position).findSome? found with
  | none =>
      rw [List.findSome?_eq_none_iff] at hfound
      refine .intro hdone fun place hplace => ?_
      have hplace' := h place hplace
      rwa [hfound place hplace] at hplace'
  | some change =>
      obtain ⟨before, place, later, hsplit, hplace, hbefore⟩ :=
        List.findSome?_eq_some_iff.mp hfound
      have hfinds := h place (hsplit ▸ List.mem_append_right _ List.mem_cons_self)
      rw [hplace] at hfinds
      obtain ⟨n, hfinds⟩ := hfinds
      refine ⟨n + 1, .step hsplit (fun other hother => ?_) hfinds⟩
      have hfails := h other (hsplit ▸ List.mem_append_left _ hother)
      rwa [hbefore other hother] at hfails

/-- An instruction that leaves the slots and goes on to one address only. -/
theorem runs_of_successors (hdone : searcher.program[start]? ≠ some .done)
    (hnoted : ∀ position, searcher.noted start position = id)
    (h : ∀ position, searcher.successors start position = (step position).map (Prod.mk stop)) :
    searcher.Runs start stop step := by
  intro position found hfound
  have hleads : searcher.Leads start position
      (((searcher.successors start position).findSome? fun place => found place.2).map
        fun change => change ∘ searcher.noted start position) := by
    refine leads_of_successors hdone fun place hplace => ?_
    rw [h] at hplace
    obtain ⟨next, hnext, rfl⟩ := List.mem_map.mp hplace
    exact hfound next hnext
  rw [h, List.findSome?_map, hnoted] at hleads
  have hid : (fun change : Slots → Slots => change ∘ id) = id := rfl
  rw [hid, Option.map_id] at hleads
  exact hleads

theorem runs_oneOf {set : CharSet} (h : searcher.program[start]? = some (.oneOf set)) :
    searcher.Runs start (start + 1) (searcher.ways (.oneOf set)) := by
  refine runs_of_successors (by rw [h]; exact nofun) (fun position => by unfold noted; rw [h]; rfl)
    fun position => ?_
  rw [successors, h, ways]
  cases searcher.after position with
  | none => rfl
  | some c =>
      dsimp only
      split
      · rfl
      · rfl

theorem runs_look {place : Look} {ascii : Bool}
    (h : searcher.program[start]? = some (.look place ascii)) :
    searcher.Runs start (start + 1) (searcher.ways (.look place ascii)) := by
  refine runs_of_successors (by rw [h]; exact nofun) (fun position => by unfold noted; rw [h]; rfl)
    fun position => ?_
  rw [successors, h, ways]
  dsimp only
  split
  · rfl
  · rfl

theorem runs_jump (h : searcher.program[start]? = some (.jump stop)) :
    searcher.Runs start stop fun position => [position] := by
  refine runs_of_successors (by rw [h]; exact nofun) (fun position => by unfold noted; rw [h]; rfl)
    fun position => ?_
  rw [successors, h]
  rfl

theorem runs_stay : searcher.Runs start start fun position => [position] := by
  intro position found hfound
  rw [List.findSome?_singleton]
  exact hfound position List.mem_cons_self

theorem findSome?_flatMap {α β γ : Type} (xs : List α) (f : α → List β) (g : β → Option γ) :
    (xs.flatMap f).findSome? g = xs.findSome? fun x => (f x).findSome? g := by
  induction xs with
  | nil => rfl
  | cons x rest ih =>
      rw [List.flatMap_cons, List.findSome?_append, ih, List.findSome?_cons]
      cases (f x).findSome? g <;> rfl

theorem Runs.trans (h : searcher.Runs start middle step) (h' : searcher.Runs middle stop step') :
    searcher.Runs start stop fun position => (step position).flatMap step' := by
  intro position found hfound
  rw [findSome?_flatMap]
  exact h position _ fun next hnext =>
    h' next found fun last hlast => hfound last (List.mem_flatMap.mpr ⟨next, hnext, hlast⟩)

theorem Runs.congr (h : searcher.Runs start stop step)
    (hstep : ∀ position, step position = step' position) : searcher.Runs start stop step' := by
  obtain rfl : step = step' := funext hstep
  exact h

/-! ## Branches -/

variable {first second : Nat} {result result' : Option (Slots → Slots)}

theorem leads_branch (h : searcher.program[address]? = some (.branch first second))
    (hfirst : searcher.Leads first position result)
    (hsecond : searcher.Leads second position result') :
    searcher.Leads address position (result.or result') := by
  have hdone : searcher.program[address]? ≠ some .done := by
    rw [h]
    exact nofun
  have hplaces : searcher.successors address position =
      [(first, position), (second, position)] := by
    rw [successors, h]
  have hnoted : searcher.noted address position = id := by
    unfold noted
    rw [h]
    rfl
  cases result with
  | some change =>
      obtain ⟨n, hfinds⟩ := hfirst
      have hsplit : searcher.successors address position =
          [] ++ (first, position) :: [(second, position)] := hplaces
      have hfinds' := Finds.step hsplit (List.forall_mem_nil _) hfinds
      rw [hnoted] at hfinds'
      exact ⟨n + 1, hfinds'⟩
  | none =>
      have hbefore : ∀ other ∈ [(first, position)], searcher.Fails other.1 other.2 :=
        List.forall_mem_singleton.mpr hfirst
      cases result' with
      | some change =>
          obtain ⟨n, hfinds⟩ := hsecond
          have hsplit : searcher.successors address position =
              [(first, position)] ++ (second, position) :: [] := hplaces
          have hfinds' := Finds.step hsplit hbefore hfinds
          rw [hnoted] at hfinds'
          exact ⟨n + 1, hfinds'⟩
      | none =>
          refine .intro hdone ?_
          rw [hplaces]
          exact List.forall_mem_cons.mpr ⟨hfirst, List.forall_mem_singleton.mpr hsecond⟩

theorem runs_branch (h : searcher.program[start]? = some (.branch first second))
    (hfirst : searcher.Runs first stop step) (hsecond : searcher.Runs second stop step') :
    searcher.Runs start stop fun position => step position ++ step' position := by
  intro position found hfound
  rw [List.findSome?_append]
  exact leads_branch h
    (hfirst position found fun next hnext => hfound next (List.mem_append_left _ hnext))
    (hsecond position found fun next hnext => hfound next (List.mem_append_right _ hnext))

/-- A branch of a repetition: one more round, or the way out. -/
theorem leads_loopBranch {body out : Nat} {again : List Nat} {found : Nat → Option (Slots → Slots)}
    (h : searcher.program[address]? = some (loopBranch greedy body out))
    (hagain : searcher.Leads body position (again.findSome? found))
    (hout : searcher.Leads out position (found position)) :
    searcher.Leads address position ((preferring greedy again [position]).findSome? found) := by
  unfold preferring
  cases greedy with
  | true =>
      rw [if_pos rfl, List.findSome?_append, List.findSome?_singleton]
      exact leads_branch h hagain hout
  | false =>
      rw [if_neg Bool.false_ne_true, List.findSome?_append, List.findSome?_singleton]
      exact leads_branch h hout hagain

/-! ## Repetitions -/

/-- A loop whose rounds take characters: it ends with the text. -/
theorem runs_loop {body out : Nat}
    (h : searcher.program[start]? = some (loopBranch greedy body out))
    (hbody : searcher.Runs body start step) (hadvances : searcher.Advances step)
    (htakes : Takes step) :
    searcher.Runs start out fun position =>
      upTo greedy step (searcher.text.size - position) position := by
  have hrounds (count : Nat) : ∀ position, searcher.text.size - position ≤ count →
      ∀ found : Nat → Option (Slots → Slots),
        (∀ next ∈ upTo greedy step count position, searcher.Leads out next (found next)) →
        searcher.Leads start position ((upTo greedy step count position).findSome? found) := by
    induction count with
    | zero =>
        intro position hend found hfound
        have hnone : step position = [] := by
          refine List.eq_nil_iff_forall_not_mem.mpr fun next hnext => ?_
          have hlt := htakes position next hnext
          have hle := hadvances position next hnext
          omega
        have hagain := hbody position found (by rw [hnone]; exact List.forall_mem_nil _)
        rw [hnone] at hagain
        have hleads := leads_loopBranch h hagain (hfound position List.mem_cons_self)
        cases greedy <;> exact hleads
    | succ count ih =>
        intro position hend found hfound
        have hout := hfound position (mem_preferring.mpr (.inr List.mem_cons_self))
        refine leads_loopBranch h ?_ hout
        rw [findSome?_flatMap]
        refine hbody position _ fun next hnext => ih next ?_ found fun last hlast =>
          hfound last (mem_preferring.mpr (.inl (List.mem_flatMap.mpr ⟨next, hnext, hlast⟩)))
        have hlt := htakes position next hnext
        omega
  exact fun position found hfound => hrounds _ position (Nat.le_refl _) found hfound

variable {body : Nat → List Instruction} {size out least : Nat} {consumes : Bool}
  {most : Option Nat}

theorem runs_copies (hsize : ∀ a, (body a).length = size)
    (hbody : ∀ a, Placed searcher.program a (body a) → searcher.Runs a (a + size) step)
    (h : Placed searcher.program start (copies body count start)) :
    searcher.Runs start (start + count * size) (times step count) := by
  induction count generalizing start with
  | zero =>
      rw [Nat.zero_mul, Nat.add_zero]
      exact runs_stay
  | succ count ih =>
      rw [copies, placed_append, hsize] at h
      have hrun := (hbody start h.1).trans (ih h.2)
      rw [Nat.succ_mul, Nat.add_comm (count * size), ← Nat.add_assoc]
      exact hrun

theorem runs_optionalCopies (hsize : ∀ a, (body a).length = size)
    (hbody : ∀ a, Placed searcher.program a (body a) → searcher.Runs a (a + size) step)
    (hout : out = start + count * (size + 1))
    (h : Placed searcher.program start (optionalCopies body greedy out count start)) :
    searcher.Runs start out (upTo greedy step count) := by
  induction count generalizing start with
  | zero =>
      rw [Nat.zero_mul, Nat.add_zero] at hout
      rw [hout]
      exact runs_stay
  | succ count ih =>
      rw [optionalCopies, List.cons_append, Placed, placed_append, hsize] at h
      obtain ⟨hbranch, hround, hrest⟩ := h
      have hagain := (hbody _ hround).trans (ih (by rw [hout, Nat.succ_mul]; omega) hrest)
      intro position found hfound
      exact leads_loopBranch hbranch
        (hagain position found fun next hnext => hfound next (mem_preferring.mpr (.inl hnext)))
        (hfound position (mem_preferring.mpr (.inr List.mem_cons_self)))

/-- The last of several copies stands at the end. -/
theorem copies_succ (hsize : ∀ a, (body a).length = size) (count start : Nat) :
    copies body (count + 1) start = copies body count start ++ body (start + count * size) := by
  induction count generalizing start with
  | zero => simp [copies]
  | succ count ih =>
      rw [copies, ih, copies, List.append_assoc, hsize, Nat.succ_mul, Nat.add_comm (count * size),
        Nat.add_assoc]

theorem runs_repetitionCode (hsize : ∀ a, (body a).length = size)
    (hbody : ∀ a, Placed searcher.program a (body a) → searcher.Runs a (a + size) step)
    (hadvances : searcher.Advances step) (hends : most = none → consumes = true ∧ Takes step)
    (h : Placed searcher.program start (repetitionCode body consumes least most greedy start)) :
    searcher.Runs start
      (start + (repetitionCode body consumes least most greedy start).length)
      fun position => (times step least position).flatMap
        (searcher.further step least most greedy) := by
  unfold repetitionCode at h ⊢
  cases most with
  | some most =>
      dsimp only at h ⊢
      rw [placed_append, length_copies hsize, hsize] at h
      rw [List.length_append, length_copies hsize, length_optionalCopies hsize, ← Nat.add_assoc]
      exact (runs_copies hsize hbody h.1).trans (runs_optionalCopies hsize hbody rfl h.2)
  | none =>
      obtain ⟨rfl, htakes⟩ := hends rfl
      dsimp only at h ⊢
      rw [hsize] at h ⊢
      cases least with
      | zero =>
          rw [if_pos rfl, if_pos rfl, List.cons_append, Placed, placed_append, hsize] at h
          obtain ⟨hbranch, hround, hjump, -⟩ := h
          have hagain := ((hbody _ hround).trans (runs_jump hjump)).congr
            fun position => List.flatMap_singleton' _
          have hloop := runs_loop hbranch hagain hadvances htakes
          rw [if_pos rfl, if_pos rfl, List.length_append, List.length_cons, hsize]
          exact hloop.congr fun position => (List.flatMap_singleton _ _).symm
      | succ count =>
          rw [if_neg (Nat.succ_ne_zero count), placed_append, length_copies hsize] at h
          obtain ⟨hcopies, hbranch, -⟩ := h
          have hrun := runs_copies hsize hbody hcopies
          rw [copies_succ hsize, placed_append, length_copies hsize] at hcopies
          have hlast := hbody _ hcopies.2
          have haddress : start + (count + 1) * size + 1 - 1 - size = start + count * size := by
            rw [Nat.succ_mul]
            omega
          have hback : start + count * size + size = start + (count + 1) * size := by
            rw [Nat.succ_mul]
            omega
          rw [haddress] at hbranch
          rw [hback] at hlast
          rw [if_neg (Nat.succ_ne_zero count), List.length_append, length_copies hsize,
            ← Nat.add_assoc]
          exact hrun.trans (runs_loop hbranch hlast hadvances htakes)

/-! ## Patterns -/

theorem bounds_of_not_isVoid {body : Pattern} {most : Option Nat} (h : body.isVoid = false) :
    bounds body least most = (least, most) := by
  rw [bounds, h]
  rfl

/-- A repetition that is repeated zero times at most has no code. -/
theorem runs_none :
    searcher.Runs start start fun position =>
      (times step 0 position).flatMap (searcher.further step 0 (some 0) greedy) :=
  runs_stay.congr fun _ => (List.flatMap_singleton _ _).symm

mutual

/-- The code of a plain pattern goes through the ways to match the pattern. -/
theorem runs_code : (pattern : Pattern) → pattern.plain = true → (start : Nat) →
    Placed searcher.program start (pattern.code start) →
    searcher.Runs start (start + (pattern.code start).length) (searcher.ways pattern)
  | .empty, _, start, _ => runs_stay.congr fun position => by rw [ways]
  | .oneOf set, _, start, h => runs_oneOf h.1
  | .look place ascii, _, start, h => runs_look h.1
  | .repetition body least most greedy, hplain, start, h => by
      rw [plain, Bool.and_eq_true, Bool.and_eq_true, Bool.not_eq_true'] at hplain
      obtain ⟨⟨hbody, hvoid⟩, hends⟩ := hplain
      rw [code, bounds_of_not_isVoid hvoid] at h ⊢
      dsimp only at h ⊢
      split
      · next hzero =>
          subst hzero
          obtain rfl : least = 0 := Nat.eq_zero_of_le_zero (of_decide_eq_true hends)
          exact runs_none.congr fun position => by rw [ways]
      · next hmost =>
          rw [if_neg hmost] at h
          have hsize (a : Nat) : (body.code a).length = (body.code 0).length := length_code body a 0
          have hround (a : Nat) (hplaced : Placed searcher.program a (body.code a)) :
              searcher.Runs a (a + (body.code 0).length) (searcher.ways body) := by
            rw [← hsize a]
            exact runs_code body hbody a hplaced
          refine (runs_repetitionCode hsize hround (advances_ways body) (fun hnone => ?_) h).congr
            fun position => by rw [ways]
          subst hnone
          exact ⟨hends, takes_ways body hends⟩
  | .group _ _, hplain, _, _ => by cases hplain
  | .scope body, hplain, start, h => by
      rw [plain] at hplain
      rw [code] at h ⊢
      exact (runs_code body hplain start h).congr fun position => by rw [ways]
  | .sequence parts, hplain, start, h => by
      rw [plain] at hplain
      rw [code] at h ⊢
      exact (runs_sequenceCode parts hplain start h).congr fun position => by rw [ways]
  | .alternatives parts, hplain, start, h => by
      rw [plain, Bool.and_eq_true, Bool.not_eq_true', List.isEmpty_eq_false_iff] at hplain
      rw [code] at h ⊢
      exact (runs_alternativesCode parts hplain.1 hplain.2 start h).congr fun position => by
        rw [ways]

theorem runs_sequenceCode : (parts : List Pattern) → allPlain parts = true → (start : Nat) →
    Placed searcher.program start (sequenceCode parts start) →
    searcher.Runs start (start + (sequenceCode parts start).length) (searcher.sequenceWays parts)
  | [], _, start, _ => runs_stay.congr fun position => by rw [sequenceWays]
  | part :: rest, hplain, start, h => by
      rw [allPlain, Bool.and_eq_true] at hplain
      rw [sequenceCode] at h ⊢
      rw [placed_append] at h
      have hpart := runs_code part hplain.1 start h.1
      have hrest := runs_sequenceCode rest hplain.2 _ h.2
      rw [List.length_append, ← Nat.add_assoc]
      exact (hpart.trans hrest).congr fun position => by rw [sequenceWays]

theorem runs_alternativesCode : (parts : List Pattern) → parts ≠ [] → allPlain parts = true →
    (start : Nat) → Placed searcher.program start (alternativesCode parts start) →
    searcher.Runs start (start + (alternativesCode parts start).length)
      (searcher.alternativesWays parts)
  | [], hnonempty, _, _, _ => absurd rfl hnonempty
  | [part], _, hplain, start, h => by
      rw [allPlain, Bool.and_eq_true] at hplain
      rw [alternativesCode] at h ⊢
      exact (runs_code part hplain.1 start h).congr fun position => by
        rw [alternativesWays, alternativesWays, List.append_nil]
  | part :: other :: rest, _, hplain, start, h => by
      rw [allPlain, Bool.and_eq_true] at hplain
      rw [alternativesCode_cons] at h ⊢
      dsimp only at h ⊢
      rw [Placed, placed_append, Placed] at h
      obtain ⟨hbranch, hpart, hjump, hothers⟩ := h
      have hnext : start + 1 + (part.code (start + 1)).length + 1 =
          start + (part.code (start + 1)).length + 2 := by omega
      rw [hnext] at hothers
      have hothers :=
        runs_alternativesCode (other :: rest) (List.cons_ne_nil _ _) hplain.2 _ hothers
      have hfirst := ((runs_code part hplain.1 _ hpart).trans (runs_jump hjump)).congr
        fun position => List.flatMap_singleton' _
      have hstop : start + (Instruction.branch (start + 1)
            (start + (part.code (start + 1)).length + 2) ::
          (part.code (start + 1) ++ Instruction.jump
            (start + (part.code (start + 1)).length + 2 + (alternativesCode (other :: rest)
              (start + (part.code (start + 1)).length + 2)).length) ::
            alternativesCode (other :: rest)
              (start + (part.code (start + 1)).length + 2))).length =
          start + (part.code (start + 1)).length + 2 + (alternativesCode (other :: rest)
            (start + (part.code (start + 1)).length + 2)).length := by
        simp only [List.length_cons, List.length_append]
        omega
      rw [hstop]
      refine (runs_branch hbranch hfirst hothers).congr fun position => ?_
      conv_rhs => rw [alternativesWays]

end

/-! ## Whole programs -/

theorem leads_done (h : searcher.program[address]? = some .done) :
    searcher.Leads address position (some id) := ⟨0, .done h⟩

theorem leads_save {slot : Nat} (h : searcher.program[address]? = some (.save slot))
    (hnext : searcher.Leads (address + 1) position result) :
    searcher.Leads address position (result.map fun change slots =>
      change (slots.setIfInBounds slot (some position))) := by
  have hdone : searcher.program[address]? ≠ some .done := by
    rw [h]
    exact nofun
  have hplaces : searcher.successors address position = [(address + 1, position)] := by
    rw [successors, h]
  have hnoted : searcher.noted address position =
      fun slots => slots.setIfInBounds slot (some position) := by
    unfold noted
    rw [h]
  have hleads : searcher.Leads address position
      (((searcher.successors address position).findSome? fun _ => result).map
        fun change => change ∘ searcher.noted address position) := by
    refine leads_of_successors hdone ?_
    rw [hplaces]
    exact List.forall_mem_singleton.mpr hnext
  rw [hplaces, List.findSome?_singleton, hnoted] at hleads
  exact hleads

variable {pattern : Pattern}

/-- What a match does to the slots: they note where it starts and ends. -/
def noteSpan (slots : Slots) (span : Nat × Nat) : Slots :=
  (slots.setIfInBounds 0 (some span.1)).setIfInBounds 1 (some span.2)

/-- The first way to match a pattern from a start on, with the start. -/
def firstFrom? (searcher : Searcher) (pattern : Pattern) (start : Nat) : Option (Nat × Nat) :=
  (searcher.ways pattern start).head?.map (Prod.mk start)

/-- From each start the program of a plain pattern leads to the first way to match the pattern. -/
theorem leads_program (hplain : pattern.plain = true)
    (hprogram : searcher.program = pattern.program) (start : Nat) :
    searcher.Leads 0 start
      ((searcher.firstFrom? pattern start).map fun span slots => noteSpan slots span) := by
  have hplaced := placed_toList searcher.program
  have hlist : searcher.program.toList = .save 0 :: (pattern.code 1 ++ [.save 1, .done]) := by
    rw [hprogram, Pattern.program, code, List.cons_append, List.cons_append, List.append_assoc]
    rfl
  rw [hlist, Placed, placed_append] at hplaced
  obtain ⟨hstart, hcode, hstop, hdone, -⟩ := hplaced
  have hleads (stop : Nat) : searcher.Leads (0 + 1 + (pattern.code 1).length) stop
      (some fun slots => slots.setIfInBounds 1 (some stop)) :=
    leads_save hstop (leads_done hdone)
  have hrun := runs_code pattern hplain 1 hcode start _ fun next _ => hleads next
  have hsave := leads_save hstart hrun
  rw [firstFrom?]
  cases hways : searcher.ways pattern start with
  | nil =>
      rw [hways] at hsave
      exact hsave
  | cons stop rest =>
      rw [hways] at hsave
      exact hsave

/-- The program saves the end of the match, so that there is a slot for it. -/
theorem two_le_slotCount (pattern : Pattern) : 2 ≤ slotCount pattern.program := by
  rw [slotCount, Pattern.program, code, ← Array.foldl_toList, List.foldl_append, List.foldl_append]
  exact Nat.le_max_right _ _

theorem spans_noteSpan {slots : Slots} (h : 2 ≤ slots.size) (span : Nat × Nat) :
    (spans (noteSpan slots span).toList).head? = some (some span) := by
  obtain ⟨contents⟩ := slots
  obtain _ | ⟨start, _ | ⟨stop, rest⟩⟩ := contents
  · cases h
  · exact absurd h (by simp)
  · rfl

end Searcher

variable {pattern : Pattern}

/-- The leftmost match of a pattern: the first way at the first start that has one. -/
def leftmost? (pattern : Pattern) (text : List Char) : Option (Nat × Nat) :=
  (List.range (text.length + 1)).findSome?
    ((Searcher.mk pattern.program text.toArray).firstFrom? pattern)

/-- The slots that the search for a plain pattern returns are those of its leftmost match. -/
theorem search_eq_leftmost? (hplain : pattern.plain = true) (text : List Char) :
    (Searcher.mk pattern.program text.toArray).search =
      (pattern.leftmost? text).map
        (Searcher.noteSpan (Searcher.mk pattern.program text.toArray).blank) := by
  rw [Searcher.search_eq fun start _ => Searcher.leads_program hplain rfl start]
  refine (congrArg _ List.map_findSome?.symm).trans ?_
  rw [Option.map_map]
  rfl

/-- The search for a plain pattern finds the leftmost match, and there the way that is preferred. -/
theorem span?_eq (hplain : pattern.plain = true) (text : List Char) :
    pattern.span? text = pattern.leftmost? text := by
  have hslots : 2 ≤ (Searcher.mk pattern.program text.toArray).blank.size := by
    rw [Searcher.blank, Array.size_replicate]
    exact Searcher.two_le_slotCount pattern
  rw [span?, find?, search_eq_leftmost? hplain]
  cases pattern.leftmost? text with
  | none => rfl
  | some span =>
      rw [Option.map_some, Option.map_some, Option.bind_some, Searcher.spans_noteSpan hslots]
      rfl

theorem isMatch_eq (hplain : pattern.plain = true) (text : List Char) :
    pattern.isMatch text = (pattern.leftmost? text).isSome := by
  rw [isMatch, find?, search_eq_leftmost? hplain, Option.isSome_map, Option.isSome_map]

end Pattern
end Guest
