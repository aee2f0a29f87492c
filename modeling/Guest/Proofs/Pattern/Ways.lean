import Guest.Pattern.Program
import Guest.Pattern.Search

/-!
# The ways to match a pattern

The ways to match a pattern from a position on, as the positions behind the match, in order of
preference: a greedy repetition prefers one more round, and earlier alternatives come first.  They
are defined on the tree of the pattern, without a program and without a memory.
-/

namespace Guest
namespace Pattern

mutual

/-- A pattern without groups whose repetitions end: unless their count is bounded, each round takes
a character. -/
def plain : Pattern → Bool
  | empty => true
  | oneOf _ => true
  | look _ _ => true
  | repetition body least most _ =>
    body.plain && !body.isVoid && most.elim body.consumes fun most => decide (least ≤ most)
  | group _ _ => false
  | scope body => body.plain
  | sequence parts => allPlain parts
  | alternatives parts => !parts.isEmpty && allPlain parts

/-- Every part is plain. -/
def allPlain : List Pattern → Bool
  | [] => true
  | part :: rest => part.plain && allPlain rest

end

/-- Two lists of ways, the first one preferred if the repetition is greedy. -/
def preferring (greedy : Bool) (again out : List Nat) : List Nat :=
  if greedy then again ++ out else out ++ again

/-- The ways of `count` rounds in a row. -/
def times (step : Nat → List Nat) : Nat → Nat → List Nat
  | 0, position => [position]
  | count + 1, position => (step position).flatMap (times step count)

/-- The ways of at most `count` rounds. -/
def upTo (greedy : Bool) (step : Nat → List Nat) : Nat → Nat → List Nat
  | 0, position => [position]
  | count + 1, position =>
    preferring greedy ((step position).flatMap (upTo greedy step count)) [position]

namespace Searcher

/-- The ways of the rounds of a repetition behind the `least` ones.  In a text no more rounds that
take a character are left than there are characters. -/
def further (searcher : Searcher) (step : Nat → List Nat) (least : Nat) (most : Option Nat)
    (greedy : Bool) (position : Nat) : List Nat :=
  match most with
  | some most => upTo greedy step (most - least) position
  | none => upTo greedy step (searcher.text.size - position) position

mutual

/-- The positions behind the matches of a pattern, in order of preference. -/
def ways (searcher : Searcher) : Pattern → Nat → List Nat
  | .empty, position => [position]
  | .oneOf set, position =>
    match searcher.after position with
    | some c => if Text.inRanges set c.toNat then [position + 1] else []
    | none => []
  | .look place ascii, position => if searcher.holds place ascii position then [position] else []
  | .repetition body least most greedy, position =>
    (times (searcher.ways body) least position).flatMap
      (searcher.further (searcher.ways body) least most greedy)
  | .group _ body, position => searcher.ways body position
  | .scope body, position => searcher.ways body position
  | .sequence parts, position => searcher.sequenceWays parts position
  | .alternatives parts, position => searcher.alternativesWays parts position

/-- The ways to match patterns in a row. -/
def sequenceWays (searcher : Searcher) : List Pattern → Nat → List Nat
  | [], position => [position]
  | part :: rest, position => (searcher.ways part position).flatMap (searcher.sequenceWays rest)

/-- The ways to match one of several patterns. -/
def alternativesWays (searcher : Searcher) : List Pattern → Nat → List Nat
  | [], _ => []
  | part :: rest, position => searcher.ways part position ++ searcher.alternativesWays rest position

end

variable {searcher : Searcher}

/-! ## Ways go on in the text -/

/-- The ways of a step do not go back and do not leave the text. -/
def Advances (searcher : Searcher) (step : Nat → List Nat) : Prop :=
  ∀ position, ∀ next ∈ step position,
    position ≤ next ∧ (next ≤ searcher.text.size ∨ next = position)

/-- Every way of a step takes a character. -/
def Takes (step : Nat → List Nat) : Prop :=
  ∀ position, ∀ next ∈ step position, position < next

variable {step step' : Nat → List Nat} {greedy : Bool} {count : Nat}

theorem advances_stay : searcher.Advances fun position => [position] := by
  intro position next hnext
  rw [List.mem_singleton.mp hnext]
  exact ⟨Nat.le_refl _, .inr rfl⟩

theorem Advances.flatMap (h : searcher.Advances step) (h' : searcher.Advances step') :
    searcher.Advances fun position => (step position).flatMap step' := by
  intro position next hnext
  obtain ⟨middle, hmiddle, hnext⟩ := List.mem_flatMap.mp hnext
  have hfirst := h position middle hmiddle
  have hsecond := h' middle next hnext
  omega

theorem Takes.flatMap_left (h : Takes step) (h' : searcher.Advances step') :
    Takes fun position => (step position).flatMap step' := by
  intro position next hnext
  obtain ⟨middle, hmiddle, hnext⟩ := List.mem_flatMap.mp hnext
  exact Nat.lt_of_lt_of_le (h position middle hmiddle) (h' middle next hnext).1

theorem Takes.flatMap_right (h : searcher.Advances step) (h' : Takes step') :
    Takes fun position => (step position).flatMap step' := by
  intro position next hnext
  obtain ⟨middle, hmiddle, hnext⟩ := List.mem_flatMap.mp hnext
  exact Nat.lt_of_le_of_lt (h position middle hmiddle).1 (h' middle next hnext)

theorem Advances.times (h : searcher.Advances step) (count : Nat) :
    searcher.Advances (times step count) := by
  induction count with
  | zero => exact advances_stay
  | succ count ih => exact h.flatMap ih

theorem mem_preferring {again out : List Nat} {next : Nat} :
    next ∈ preferring greedy again out ↔ next ∈ again ∨ next ∈ out := by
  unfold preferring
  split
  · exact List.mem_append
  · exact List.mem_append.trans Or.comm

theorem Advances.upTo (h : searcher.Advances step) (count : Nat) :
    searcher.Advances (upTo greedy step count) := by
  induction count with
  | zero => exact advances_stay
  | succ count ih =>
      intro position next hnext
      rcases mem_preferring.mp hnext with hnext | hnext
      · exact h.flatMap ih position next hnext
      · exact advances_stay position next hnext

theorem Advances.further (h : searcher.Advances step) (least : Nat) (most : Option Nat) :
    searcher.Advances (searcher.further step least most greedy) := by
  intro position next hnext
  cases most with
  | some most => exact h.upTo _ position next hnext
  | none => exact h.upTo _ position next hnext

mutual

theorem advances_ways : (pattern : Pattern) → searcher.Advances (searcher.ways pattern)
  | .empty => by
      intro position next hnext
      rw [ways] at hnext
      exact advances_stay position next hnext
  | .oneOf set => by
      intro position next hnext
      rw [ways] at hnext
      split at hnext
      · next c hc =>
          have hlt : position < searcher.text.size := (Array.getElem?_eq_some_iff.mp hc).1
          split at hnext
          · rw [List.mem_singleton.mp hnext]
            omega
          · cases hnext
      · cases hnext
  | .look place ascii => by
      intro position next hnext
      rw [ways] at hnext
      split at hnext
      · exact advances_stay position next hnext
      · cases hnext
  | .repetition body least most greedy => by
      intro position next hnext
      rw [ways] at hnext
      have hbody := advances_ways body
      exact (hbody.times least).flatMap (hbody.further least most) position next hnext
  | .group _ body => by
      intro position next hnext
      rw [ways] at hnext
      exact advances_ways body position next hnext
  | .scope body => by
      intro position next hnext
      rw [ways] at hnext
      exact advances_ways body position next hnext
  | .sequence parts => by
      intro position next hnext
      rw [ways] at hnext
      exact advances_sequenceWays parts position next hnext
  | .alternatives parts => by
      intro position next hnext
      rw [ways] at hnext
      exact advances_alternativesWays parts position next hnext

theorem advances_sequenceWays :
    (parts : List Pattern) → searcher.Advances (searcher.sequenceWays parts)
  | [] => by
      intro position next hnext
      rw [sequenceWays] at hnext
      exact advances_stay position next hnext
  | part :: rest => by
      intro position next hnext
      rw [sequenceWays] at hnext
      exact (advances_ways part).flatMap (advances_sequenceWays rest) position next hnext

theorem advances_alternativesWays :
    (parts : List Pattern) → searcher.Advances (searcher.alternativesWays parts)
  | [] => by
      intro position next hnext
      rw [alternativesWays] at hnext
      cases hnext
  | part :: rest => by
      intro position next hnext
      rw [alternativesWays] at hnext
      rcases List.mem_append.mp hnext with hnext | hnext
      · exact advances_ways part position next hnext
      · exact advances_alternativesWays rest position next hnext

end

mutual

/-- A pattern that consumes takes a character in every way. -/
theorem takes_ways : (pattern : Pattern) → pattern.consumes = true → Takes (searcher.ways pattern)
  | .empty, h => by cases h
  | .oneOf set, _ => by
      intro position next hnext
      rw [ways] at hnext
      split at hnext
      · split at hnext
        · rw [List.mem_singleton.mp hnext]
          exact Nat.lt_succ_self position
        · cases hnext
      · cases hnext
  | .look _ _, h => by cases h
  | .repetition body least most greedy, h => by
      intro position next hnext
      rw [ways] at hnext
      rw [consumes, Bool.and_eq_true, bne_iff_ne] at h
      obtain ⟨count, rfl⟩ := Nat.exists_eq_succ_of_ne_zero h.1
      have hbody : searcher.Advances (searcher.ways body) := advances_ways body
      have hrounds : Takes (times (searcher.ways body) (count + 1)) :=
        (takes_ways body h.2).flatMap_left (hbody.times count)
      exact hrounds.flatMap_left (hbody.further (count + 1) most) position next hnext
  | .group _ body, h => by
      intro position next hnext
      rw [ways] at hnext
      rw [consumes] at h
      exact takes_ways body h position next hnext
  | .scope body, h => by
      intro position next hnext
      rw [ways] at hnext
      rw [consumes] at h
      exact takes_ways body h position next hnext
  | .sequence parts, h => by
      intro position next hnext
      rw [ways] at hnext
      rw [consumes] at h
      exact takes_sequenceWays parts h position next hnext
  | .alternatives parts, h => by
      intro position next hnext
      rw [ways] at hnext
      rw [consumes] at h
      exact takes_alternativesWays parts h position next hnext

theorem takes_sequenceWays :
    (parts : List Pattern) → someConsume parts = true → Takes (searcher.sequenceWays parts)
  | [], h => by cases h
  | part :: rest, h => by
      intro position next hnext
      rw [sequenceWays] at hnext
      rw [someConsume, Bool.or_eq_true] at h
      rcases h with hpart | hrest
      · exact (takes_ways part hpart).flatMap_left (advances_sequenceWays rest) position next hnext
      · exact Takes.flatMap_right (advances_ways part) (takes_sequenceWays rest hrest) position next
          hnext

theorem takes_alternativesWays :
    (parts : List Pattern) → allConsume parts = true → Takes (searcher.alternativesWays parts)
  | [], _ => by
      intro position next hnext
      rw [alternativesWays] at hnext
      cases hnext
  | part :: rest, h => by
      intro position next hnext
      rw [alternativesWays] at hnext
      rw [allConsume, Bool.and_eq_true] at h
      rcases List.mem_append.mp hnext with hnext | hnext
      · exact takes_ways part h.1 position next hnext
      · exact takes_alternativesWays rest h.2 position next hnext

end

/-! ## The text of ways -/

/-- What follows a position. -/
def rest (searcher : Searcher) (position : Nat) : List Char := searcher.text.toList.drop position

/-- The text between two positions. -/
structure Between (searcher : Searcher) (start stop : Nat) (w : List Char) : Prop where
  stop_eq : stop = start + w.length
  rest_eq : searcher.rest start = w ++ searcher.rest stop

variable {start middle stop position : Nat} {v w tail tail' : List Char} {set : CharSet}
  {body : Pattern} {found : List Nat}

theorem rest_add (h : searcher.rest start = w ++ tail) :
    searcher.rest (start + w.length) = tail := by
  rw [rest, ← List.drop_drop]
  change (searcher.rest start).drop w.length = tail
  rw [h, List.drop_left]

theorem between_refl : searcher.Between start start [] := ⟨rfl, rfl⟩

theorem Between.trans (h : searcher.Between start middle v) (h' : searcher.Between middle stop w) :
    searcher.Between start stop (v ++ w) := by
  refine ⟨?_, ?_⟩
  · rw [h'.stop_eq, h.stop_eq, List.length_append, Nat.add_assoc]
  · rw [h.rest_eq, h'.rest_eq, List.append_assoc]

theorem after_eq (position : Nat) : searcher.after position = (searcher.rest position).head? := by
  rw [after, rest, List.head?_drop, Array.getElem?_toList]

theorem ways_oneOf_eq_nil
    (h : ∀ c ∈ (searcher.rest position).head?, Text.inRanges set c.toNat = false) :
    searcher.ways (.oneOf set) position = [] := by
  rw [ways, after_eq]
  cases hhead : (searcher.rest position).head? with
  | none => rfl
  | some c =>
      dsimp only
      rw [h c hhead]
      rfl

theorem ways_oneOf_cons {c : Char} (h : searcher.rest position = c :: tail)
    (hc : Text.inRanges set c.toNat = true) :
    searcher.ways (.oneOf set) position = [position + 1] := by
  rw [ways, after_eq, h, List.head?_cons]
  dsimp only
  rw [if_pos hc]

/-- A way of a set takes one of its characters. -/
theorem exists_between_oneOf (h : stop ∈ searcher.ways (.oneOf set) start) :
    ∃ c, Text.inRanges set c.toNat = true ∧ searcher.Between start stop [c] := by
  cases hrest : searcher.rest start with
  | nil =>
      rw [ways_oneOf_eq_nil (by rw [hrest]; exact nofun)] at h
      cases h
  | cons c tail =>
      by_cases hc : Text.inRanges set c.toNat = true
      · rw [ways_oneOf_cons hrest hc, List.mem_singleton] at h
        refine ⟨c, hc, h, ?_⟩
        rw [h, hrest]
        exact congrArg (c :: ·) (@rest_add searcher start [c] tail hrest).symm
      · rw [ways_oneOf_eq_nil (by rw [hrest]; rintro _ ⟨⟩; exact Bool.eq_false_iff.mpr hc)] at h
        cases h

/-- A repetition that may be left out prefers its body. -/
theorem ways_optional :
    searcher.ways (.repetition body 0 (some 1) true) position =
      searcher.ways body position ++ [position] := by
  rw [ways, times, List.flatMap_singleton, further, upTo, preferring, if_pos rfl]
  congr 1
  exact List.flatMap_singleton' _

theorem ways_either {first second : List Pattern} :
    searcher.ways (.alternatives [.sequence first, .sequence second]) start =
      searcher.sequenceWays first start ++ searcher.sequenceWays second start := by
  rw [ways, alternativesWays, alternativesWays, alternativesWays, List.append_nil, ways, ways]

theorem mem_sequenceWays_cons {part : Pattern} {parts : List Pattern} :
    stop ∈ searcher.sequenceWays (part :: parts) start ↔
      ∃ middle ∈ searcher.ways part start, stop ∈ searcher.sequenceWays parts middle := by
  rw [sequenceWays]
  exact List.mem_flatMap

theorem mem_sequenceWays_nil : stop ∈ searcher.sequenceWays [] start ↔ stop = start := by
  rw [sequenceWays]
  exact List.mem_singleton

theorem mem_ways_optional :
    stop ∈ searcher.ways (.repetition body 0 (some 1) true) start ↔
      stop ∈ searcher.ways body start ∨ stop = start := by
  rw [ways_optional, List.mem_append, List.mem_singleton]

theorem exists_between_times {count : Nat}
    (h : stop ∈ times (searcher.ways (.oneOf set)) count start) :
    ∃ w, (∀ c ∈ w, Text.inRanges set c.toNat = true) ∧ w.length = count ∧
      searcher.Between start stop w := by
  induction count generalizing start with
  | zero =>
      rw [List.mem_singleton.mp h]
      exact ⟨[], List.forall_mem_nil _, rfl, between_refl⟩
  | succ count ih =>
      obtain ⟨middle, hmiddle, hstop⟩ := List.mem_flatMap.mp h
      obtain ⟨c, hc, hfirst⟩ := exists_between_oneOf hmiddle
      obtain ⟨w, hw, hlength, hlast⟩ := ih hstop
      exact ⟨c :: w, List.forall_mem_cons.mpr ⟨hc, hw⟩, congrArg (· + 1) hlength,
        hfirst.trans hlast⟩

theorem exists_between_upTo {count : Nat}
    (h : stop ∈ upTo greedy (searcher.ways (.oneOf set)) count start) :
    ∃ w, (∀ c ∈ w, Text.inRanges set c.toNat = true) ∧ searcher.Between start stop w := by
  induction count generalizing start with
  | zero =>
      rw [List.mem_singleton.mp h]
      exact ⟨[], List.forall_mem_nil _, between_refl⟩
  | succ count ih =>
      rcases mem_preferring.mp h with h | h
      · obtain ⟨middle, hmiddle, hstop⟩ := List.mem_flatMap.mp h
        obtain ⟨c, hc, hfirst⟩ := exists_between_oneOf hmiddle
        obtain ⟨w, hw, hlast⟩ := ih hstop
        exact ⟨c :: w, List.forall_mem_cons.mpr ⟨hc, hw⟩, hfirst.trans hlast⟩
      · rw [List.mem_singleton.mp h]
        exact ⟨[], List.forall_mem_nil _, between_refl⟩

/-- A way of a repeated set takes characters of the set, and enough of them. -/
theorem exists_between_repetition {least : Nat} {most : Option Nat}
    (h : stop ∈ searcher.ways (.repetition (.oneOf set) least most greedy) start) :
    ∃ w, (∀ c ∈ w, Text.inRanges set c.toNat = true) ∧ least ≤ w.length ∧
      searcher.Between start stop w := by
  rw [ways] at h
  obtain ⟨middle, hmiddle, hstop⟩ := List.mem_flatMap.mp h
  obtain ⟨v, hv, hlength, hfirst⟩ := exists_between_times hmiddle
  have hlast : ∃ w, (∀ c ∈ w, Text.inRanges set c.toNat = true) ∧
      searcher.Between middle stop w := by
    cases most with
    | some most => exact exists_between_upTo hstop
    | none => exact exists_between_upTo hstop
  obtain ⟨w, hw, hlast⟩ := hlast
  refine ⟨v ++ w, List.forall_mem_append.mpr ⟨hv, hw⟩, ?_, hfirst.trans hlast⟩
  rw [List.length_append, hlength]
  exact Nat.le_add_right _ _

/-! ## First ways -/

/-- The first of some ways from a position on leaves a text. -/
def Leaves (searcher : Searcher) (position : Nat) (found : List Nat) (tail : List Char) : Prop :=
  ∃ w, searcher.rest position = w ++ tail ∧ found.head? = some (position + w.length)

theorem leaves_stay : searcher.Leaves position (position :: found) (searcher.rest position) :=
  ⟨[], rfl, rfl⟩

theorem leaves_oneOf {c : Char} (h : searcher.rest position = c :: tail)
    (hc : Text.inRanges set c.toNat = true) :
    searcher.Leaves position (searcher.ways (.oneOf set) position) tail := by
  rw [ways_oneOf_cons h hc]
  exact ⟨[c], h, rfl⟩

theorem Leaves.append (h : searcher.Leaves position found tail) (others : List Nat) :
    searcher.Leaves position (found ++ others) tail := by
  obtain ⟨w, hw, hhead⟩ := h
  exact ⟨w, hw, by rw [List.head?_append, hhead, Option.some_or]⟩

theorem Leaves.flatMap (h : searcher.Leaves position found tail)
    (hstep : ∀ next, searcher.rest next = tail → searcher.Leaves next (step next) tail') :
    searcher.Leaves position (found.flatMap step) tail' := by
  obtain ⟨v, hv, hhead⟩ := h
  obtain ⟨w, hw, hhead'⟩ := hstep _ (rest_add hv)
  refine ⟨v ++ w, ?_, ?_⟩
  · rw [List.append_assoc, ← hw, rest_add hv, hv]
  · obtain ⟨others, rfl⟩ := List.head?_eq_some_iff.mp hhead
    rw [List.flatMap_cons, List.head?_append, hhead', Option.some_or, List.length_append,
      Nat.add_assoc]

theorem leaves_sequence_nil : searcher.Leaves position (searcher.sequenceWays [] position)
    (searcher.rest position) := by
  rw [sequenceWays]
  exact leaves_stay

theorem leaves_sequence_cons {part : Pattern} {parts : List Pattern}
    (h : searcher.Leaves position (searcher.ways part position) tail)
    (hparts : ∀ next, searcher.rest next = tail →
      searcher.Leaves next (searcher.sequenceWays parts next) tail') :
    searcher.Leaves position (searcher.sequenceWays (part :: parts) position) tail' := by
  rw [sequenceWays]
  exact h.flatMap hparts

/-- The last part of a sequence. -/
theorem leaves_sequence_singleton {part : Pattern}
    (h : searcher.Leaves position (searcher.ways part position) tail) :
    searcher.Leaves position (searcher.sequenceWays [part] position) tail :=
  leaves_sequence_cons h fun _ hnext => hnext ▸ leaves_sequence_nil

/-- The first way of a greedy repetition of a set takes all characters of the set that follow. -/
theorem leaves_upTo {count : Nat} (hw : ∀ c ∈ w, Text.inRanges set c.toNat = true)
    (htail : ∀ c ∈ tail.head?, Text.inRanges set c.toNat = false)
    (h : searcher.rest position = w ++ tail) (hcount : w.length ≤ count) :
    searcher.Leaves position (upTo true (searcher.ways (.oneOf set)) count position) tail := by
  induction w generalizing position count with
  | nil =>
      have hnone : searcher.ways (.oneOf set) position = [] := ways_oneOf_eq_nil (by rwa [h])
      refine ⟨[], h, ?_⟩
      cases count with
      | zero => rfl
      | succ count =>
          rw [upTo, hnone]
          rfl
  | cons c w ih =>
      cases count with
      | zero => cases hcount
      | succ count =>
          obtain ⟨hc, hw⟩ := List.forall_mem_cons.mp hw
          rw [upTo, preferring, if_pos rfl]
          refine Leaves.append (Leaves.flatMap (leaves_oneOf h hc) fun next hnext => ?_) _
          exact ih hw hnext (Nat.le_of_succ_le_succ hcount)

/-- Where a set does not go on, a greedy repetition of it takes what is there, if it is enough. -/
theorem leaves_repetition {least : Nat} (hw : ∀ c ∈ w, Text.inRanges set c.toNat = true)
    (htail : ∀ c ∈ tail.head?, Text.inRanges set c.toNat = false)
    (h : searcher.rest position = w ++ tail) (hleast : least ≤ w.length) :
    searcher.Leaves position
      (searcher.ways (.repetition (.oneOf set) least none true) position) tail := by
  have htimes : searcher.Leaves position (times (searcher.ways (.oneOf set)) least position)
      (w.drop least ++ tail) := by
    clear htail
    induction least generalizing position w with
    | zero => exact h ▸ leaves_stay
    | succ least ih =>
        obtain _ | ⟨c, w⟩ := w
        · cases hleast
        · obtain ⟨hc, hw⟩ := List.forall_mem_cons.mp hw
          exact (leaves_oneOf h hc).flatMap fun next hnext =>
            ih hw hnext (Nat.le_of_succ_le_succ hleast)
  rw [ways]
  refine htimes.flatMap fun next hnext => ?_
  refine leaves_upTo (fun c hc => hw c (List.mem_of_mem_drop hc)) htail hnext ?_
  have hlength := congrArg List.length hnext
  rw [rest, List.length_drop, List.length_append, Array.length_toList] at hlength
  omega

end Searcher
end Pattern
end Guest
