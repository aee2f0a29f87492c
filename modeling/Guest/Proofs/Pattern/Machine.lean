import Guest.Pattern.Search
import Mathlib.Data.List.Basic

/-!
# The memory of searches

A search does not try a place of the program twice at a position.  What a place leads to when
nothing has been tried is described first, by rules without a memory.  Then the search finds just
that: a place that was tried either leads to no match, or is on the way to the match that is being
found, and the way does not come back to it.
-/

namespace Guest
namespace Pattern
namespace Searcher

variable {searcher : Searcher} {address position fuel n m : Nat} {tasks : List Task}
  {slots : Slots} {tried tried' tried'' : ByteArray}

/-! ## Steps of programs -/

/-- The places that an instruction goes on to, in order of preference. -/
def successors (searcher : Searcher) (address position : Nat) : List (Nat × Nat) :=
  match searcher.program[address]? with
  | some (.oneOf set) =>
    match searcher.after position with
    | some c => if Text.inRanges set c.toNat then [(address + 1, position + 1)] else []
    | none => []
  | some (.look condition ascii) =>
    if searcher.holds condition ascii position then [(address + 1, position)] else []
  | some (.branch first second) => [(first, position), (second, position)]
  | some (.jump target) => [(target, position)]
  | some (.save _) => [(address + 1, position)]
  | some .done => []
  | none => []

/-- What an instruction does to the slots. -/
def noted (searcher : Searcher) (address position : Nat) (slots : Slots) : Slots :=
  match searcher.program[address]? with
  | some (.save slot) => slots.setIfInBounds slot (some position)
  | _ => slots

/-- The task that takes back what an instruction did to the slots. -/
def restores (searcher : Searcher) (address : Nat) (slots : Slots) : List Task :=
  match searcher.program[address]? with
  | some (.save slot) => [.restore slot (slots[slot]?).join]
  | _ => []

/-- No way from a place leads to a match. -/
inductive Fails (searcher : Searcher) : Nat → Nat → Prop where
  | intro {address position : Nat} :
      searcher.program[address]? ≠ some .done →
      (∀ place ∈ searcher.successors address position, Fails searcher place.1 place.2) →
      Fails searcher address position

/-- The preferred way from a place leads to a match after some steps, and what it does to the
slots. -/
inductive Finds (searcher : Searcher) : Nat → Nat → Nat → (Slots → Slots) → Prop where
  | done {address position : Nat} :
      searcher.program[address]? = some .done → Finds searcher 0 address position id
  | step {address position n : Nat} {before later : List (Nat × Nat)} {place : Nat × Nat}
      {change : Slots → Slots} :
      searcher.successors address position = before ++ place :: later →
      (∀ other ∈ before, Fails searcher other.1 other.2) →
      Finds searcher n place.1 place.2 change →
      Finds searcher (n + 1) address position (change ∘ searcher.noted address position)

theorem successors_done (h : searcher.program[address]? = some .done) :
    searcher.successors address position = [] := by
  rw [successors, h]

theorem Fails.not_finds {change : Slots → Slots} (h : searcher.Fails address position) :
    ¬searcher.Finds n address position change := by
  induction h generalizing n change with
  | intro hdone _ ih =>
      intro hfinds
      cases hfinds with
      | done h => exact hdone h
      | step hplaces _ hfinds =>
          exact ih _ (by rw [hplaces]; exact List.mem_append_right _ List.mem_cons_self) hfinds

/-- A match is found after one number of steps only. -/
theorem Finds.unique {change change' : Slots → Slots} (h : searcher.Finds n address position change)
    (h' : searcher.Finds m address position change') : n = m := by
  induction h generalizing m change' with
  | done hdone =>
      cases h' with
      | done => rfl
      | step hplaces =>
          rw [successors_done hdone] at hplaces
          simp at hplaces
  | step hplaces hbefore hfinds ih =>
      cases h' with
      | done hdone =>
          rw [successors_done hdone] at hplaces
          simp at hplaces
      | step hplaces' hbefore' hfinds' =>
          rw [hplaces, List.append_eq_append_iff] at hplaces'
          -- The first place that finds a match is the same in both splits.
          obtain ⟨_ | ⟨other, more⟩, hfront, hrest⟩ | ⟨_ | ⟨other, more⟩, hfront, hrest⟩ := hplaces'
          · obtain ⟨rfl, -⟩ := List.cons.inj hrest
            rw [ih hfinds']
          · obtain ⟨rfl, -⟩ := List.cons.inj hrest
            have hfails :=
              hbefore' _ (by rw [hfront]; exact List.mem_append_right _ List.mem_cons_self)
            exact absurd hfinds hfails.not_finds
          · obtain ⟨rfl, -⟩ := List.cons.inj hrest
            rw [ih hfinds']
          · obtain ⟨rfl, -⟩ := List.cons.inj hrest
            have hfails :=
              hbefore _ (by rw [hfront]; exact List.mem_append_right _ List.mem_cons_self)
            exact absurd hfinds' hfails.not_finds

/-! ## Places that were tried -/

/-- A place is not tried again, because it was tried or is outside of the program. -/
def Marked (searcher : Searcher) (tried : ByteArray) (address position : Nat) : Prop :=
  (tried[searcher.placeIndex address position]?).getD 1 ≠ 0

/-- The number of places that have not been tried. -/
def free (tried : ByteArray) : Nat := tried.data.count 0

/-- The fuel is enough for some tasks: each place is tried once and leaves at most two tasks. -/
def Enough (fuel : Nat) (tasks : List Task) (tried : ByteArray) : Prop :=
  2 * free tried + tasks.length < fuel

theorem placeIndex_inj {address' position' : Nat} (hposition : position ≤ searcher.text.size)
    (hposition' : position' ≤ searcher.text.size)
    (h : searcher.placeIndex address position = searcher.placeIndex address' position') :
    address = address' ∧ position = position' := by
  have hdiv (a : Nat) {p : Nat} (hp : p ≤ searcher.text.size) :
      searcher.placeIndex a p / (searcher.text.size + 1) = a := by
    rw [placeIndex, Nat.add_comm, Nat.add_mul_div_right _ _ (Nat.succ_pos _),
      Nat.div_eq_of_lt (Nat.lt_succ_of_le hp), Nat.zero_add]
  have haddress : address = address' := by
    rw [← hdiv address hposition, h, hdiv address' hposition']
  subst haddress
  exact ⟨rfl, Nat.add_left_cancel h⟩

theorem getElem?_eq (tried : ByteArray) (i : Nat) : tried[i]? = tried.data[i]? := rfl

theorem data_set (tried : ByteArray) (i : Nat) (mark : UInt8) :
    (tried.set! i mark).data = tried.data.setIfInBounds i mark := rfl

theorem getElem?_of_not_marked (h : ¬searcher.Marked tried address position) :
    tried[searcher.placeIndex address position]? = some 0 := by
  rw [Marked, not_not] at h
  cases hread : tried[searcher.placeIndex address position]? with
  | none =>
      rw [hread] at h
      cases h
  | some mark =>
      rw [hread] at h
      exact congrArg some h

/-- Marking a place marks no other one. -/
theorem marked_set {address' position' : Nat} (hposition : position ≤ searcher.text.size)
    (hposition' : position' ≤ searcher.text.size)
    (h : searcher.Marked (tried.set! (searcher.placeIndex address position) 1) address' position') :
    searcher.Marked tried address' position' ∨ (address' = address ∧ position' = position) := by
  by_cases hsame : searcher.placeIndex address position = searcher.placeIndex address' position'
  · obtain ⟨rfl, rfl⟩ := placeIndex_inj hposition hposition' hsame
    exact .inr ⟨rfl, rfl⟩
  · left
    rwa [Marked, getElem?_eq, data_set, Array.getElem?_setIfInBounds_ne hsame] at h

theorem free_set (h : ¬searcher.Marked tried address position) :
    free (tried.set! (searcher.placeIndex address position) 1) + 1 = free tried := by
  have hread := getElem?_of_not_marked h
  rw [getElem?_eq, Array.getElem?_eq_some_iff] at hread
  obtain ⟨hlt, hzero⟩ := hread
  have hpos : 0 < tried.data.count 0 := Array.count_pos_iff.mpr (hzero ▸ Array.getElem_mem hlt)
  rw [free, free, data_set, Array.setIfInBounds, dif_pos hlt, Array.count_set hlt, hzero]
  have hone : ((1 : UInt8) == 0) = false := rfl
  rw [hone, beq_self_eq_true]
  simp only [if_true, Bool.false_eq_true, if_false]
  omega

/-! ## Steps of the search -/

theorem successors_le (address : Nat) (hposition : position ≤ searcher.text.size) :
    ∀ place ∈ searcher.successors address position, place.2 ≤ searcher.text.size := by
  intro place hplace
  unfold successors at hplace
  split at hplace
  · split at hplace
    · next c hc =>
        have hlt : position < searcher.text.size := (Array.getElem?_eq_some_iff.mp hc).1
        split at hplace
        · rw [List.mem_singleton.mp hplace]
          exact hlt
        · cases hplace
    · cases hplace
  · split at hplace
    · rw [List.mem_singleton.mp hplace]
      exact hposition
    · cases hplace
  · simp only [List.mem_cons, List.not_mem_nil, or_false] at hplace
    rcases hplace with rfl | rfl <;> exact hposition
  · rw [List.mem_singleton.mp hplace]
    exact hposition
  · rw [List.mem_singleton.mp hplace]
    exact hposition
  · cases hplace
  · cases hplace

/-- The tasks to try some places. -/
def trials (places : List (Nat × Nat)) : List Task := places.map fun place => .try place.1 place.2

theorem length_step_le :
    (trials (searcher.successors address position) ++
      searcher.restores address slots).length ≤ 2 := by
  unfold successors restores trials
  repeat' split
  all_goals simp_all

theorem work_marked (h : searcher.Marked tried address position) :
    searcher.work (fuel + 1) (.try address position :: tasks) slots tried =
      searcher.work fuel tasks slots tried := by
  rw [work]
  exact if_pos (bne_iff_ne.mpr h)

theorem work_done (h : ¬searcher.Marked tried address position)
    (hdone : searcher.program[address]? = some .done) :
    (searcher.work (fuel + 1) (.try address position :: tasks) slots tried).1 = some slots := by
  rw [work]
  dsimp only
  rw [if_neg (fun hmark => h (bne_iff_ne.mp hmark)), hdone]

/-- A place that was not tried is marked, and its successors are tried instead of it. -/
theorem work_step (h : ¬searcher.Marked tried address position)
    (hdone : searcher.program[address]? ≠ some .done) :
    searcher.work (fuel + 1) (.try address position :: tasks) slots tried =
      searcher.work fuel
        (trials (searcher.successors address position) ++ searcher.restores address slots ++ tasks)
        (searcher.noted address position slots)
        (tried.set! (searcher.placeIndex address position) 1) := by
  rw [work]
  dsimp only
  rw [if_neg (fun hmark => h (bne_iff_ne.mp hmark))]
  unfold successors restores noted trials
  cases hread : searcher.program[address]? with
  | none => rfl
  | some instruction =>
      cases instruction with
      | done => exact absurd hread hdone
      | oneOf set =>
          dsimp only
          cases searcher.after position with
          | none => rfl
          | some c =>
              dsimp only
              split
              · rfl
              · rfl
      | look condition ascii =>
          dsimp only
          split
          · rfl
          · rfl
      | branch first second => rfl
      | jump target => rfl
      | save slot => rfl

theorem setIfInBounds_restore (slots : Slots) (slot : Nat) (content : Option Nat) :
    (slots.setIfInBounds slot content).setIfInBounds slot (slots[slot]?).join = slots := by
  refine Array.ext_getElem? fun i => ?_
  rw [Array.setIfInBounds_setIfInBounds, Array.getElem?_setIfInBounds]
  split
  · next hslot =>
      subst hslot
      split
      · next hlt => rw [Array.getElem?_eq_getElem hlt, Option.join_some]
      · next hlt => rw [Array.getElem?_eq_none (Nat.le_of_not_lt hlt)]
  · rfl

/-- Taking back what an instruction did to the slots leaves them as they were. -/
theorem work_restores (position : Nat)
    (h : Enough fuel (searcher.restores address slots ++ tasks) tried) :
    ∃ fuel', searcher.work fuel (searcher.restores address slots ++ tasks)
        (searcher.noted address position slots) tried = searcher.work fuel' tasks slots tried ∧
      Enough fuel' tasks tried := by
  unfold restores at *
  unfold noted
  split at h
  · next slot hsave =>
      cases fuel with
      | zero => cases h
      | succ fuel =>
          refine ⟨fuel, ?_, ?_⟩
          · rw [List.singleton_append, work, setIfInBounds_restore]
          · simp only [Enough, List.singleton_append, List.length_cons] at h ⊢
            omega
  · exact ⟨fuel, rfl, h⟩

/-! ## Places that lead to no match -/

/-- More places were tried, and those lead to no match. -/
structure Grows (searcher : Searcher) (tried tried' : ByteArray) : Prop where
  free : free tried' ≤ free tried
  marked {address position : Nat} : position ≤ searcher.text.size →
    searcher.Marked tried' address position →
    searcher.Marked tried address position ∨ searcher.Fails address position

theorem Grows.refl : searcher.Grows tried tried := ⟨Nat.le_refl _, fun _ h => .inl h⟩

theorem Grows.trans (h : searcher.Grows tried tried') (h' : searcher.Grows tried' tried'') :
    searcher.Grows tried tried'' := by
  refine ⟨Nat.le_trans h'.free h.free, fun hposition hmarked => ?_⟩
  rcases h'.marked hposition hmarked with hmarked | hfails
  · exact h.marked hposition hmarked
  · exact .inr hfails

/-- The tasks in front come to nothing: the search gets to the tasks behind them. -/
def Vain (searcher : Searcher) (front : List Task) : Prop :=
  ∀ fuel tasks slots tried, Enough fuel (front ++ tasks) tried →
    ∃ fuel' tried', searcher.work fuel (front ++ tasks) slots tried =
        searcher.work fuel' tasks slots tried' ∧
      Enough fuel' tasks tried' ∧ searcher.Grows tried tried'

theorem vain_trials {places : List (Nat × Nat)}
    (h : ∀ place ∈ places, searcher.Vain [.try place.1 place.2]) :
    searcher.Vain (trials places) := by
  induction places with
  | nil => exact fun fuel tasks slots tried henough => ⟨fuel, tried, rfl, henough, .refl⟩
  | cons place rest ih =>
      intro fuel tasks slots tried henough
      obtain ⟨fuel', tried', hwork, henough', hgrows⟩ :=
        h place List.mem_cons_self fuel (trials rest ++ tasks) slots tried henough
      obtain ⟨fuel'', tried'', hwork', henough'', hgrows'⟩ :=
        ih (fun other hother => h other (List.mem_cons_of_mem _ hother)) fuel' tasks slots tried'
          henough'
      exact ⟨fuel'', tried'', hwork.trans hwork', henough'', hgrows.trans hgrows'⟩

theorem enough_of_step (slots : Slots)
    (h : Enough (fuel + 1) (.try address position :: tasks) tried)
    (hmarked : ¬searcher.Marked tried address position) :
    Enough fuel
      (trials (searcher.successors address position) ++ searcher.restores address slots ++ tasks)
      (tried.set! (searcher.placeIndex address position) 1) := by
  have hfree := free_set hmarked
  have hlength := @length_step_le searcher address position slots
  rw [Enough, List.length_cons] at h
  rw [Enough, List.length_append]
  omega

/-- Marking a place that leads to no match, and then more of them. -/
theorem grows_of_set (hposition : position ≤ searcher.text.size)
    (hfails : searcher.Fails address position) (hmarked : ¬searcher.Marked tried address position)
    (h : searcher.Grows (tried.set! (searcher.placeIndex address position) 1) tried') :
    searcher.Grows tried tried' := by
  refine Grows.trans ⟨?_, fun hother hset => ?_⟩ h
  · have hfree := free_set hmarked
    omega
  · rcases marked_set hposition hother hset with hold | ⟨rfl, rfl⟩
    · exact .inl hold
    · exact .inr hfails

/-- A place from which no way leads to a match comes to nothing. -/
theorem vain_of_fails (h : searcher.Fails address position)
    (hposition : position ≤ searcher.text.size) : searcher.Vain [.try address position] := by
  induction h with
  | @intro address position hdone hplaces ih =>
      intro fuel tasks slots tried henough
      cases fuel with
      | zero => cases henough
      | succ fuel =>
          by_cases hmarked : searcher.Marked tried address position
          · refine ⟨fuel, tried, work_marked hmarked, ?_, .refl⟩
            simp only [Enough, List.singleton_append, List.length_cons] at henough ⊢
            omega
          · change Enough (fuel + 1) (.try address position :: tasks) tried at henough
            have hvain : searcher.Vain (trials (searcher.successors address position)) :=
              vain_trials fun place hplace =>
                ih place hplace (successors_le address hposition place hplace)
            have hstep := enough_of_step slots henough hmarked
            rw [List.append_assoc] at hstep
            obtain ⟨fuel', tried', hwork, henough', hgrows⟩ := hvain _ _
              (searcher.noted address position slots) _ hstep
            obtain ⟨fuel'', hwork', henough''⟩ := work_restores position henough'
            refine ⟨fuel'', tried', ?_, henough'',
              grows_of_set hposition (.intro hdone hplaces) hmarked hgrows⟩
            rw [List.singleton_append, work_step hmarked hdone, List.append_assoc, hwork, hwork']

/-! ## Places that lead to a match -/

/-- What was tried leads to no match, or to one after more than `n` steps. -/
def Clean (searcher : Searcher) (n : Nat) (tried : ByteArray) : Prop :=
  ∀ address position, position ≤ searcher.text.size →
    searcher.Marked tried address position → searcher.Fails address position ∨
      ∃ m change, n < m ∧ searcher.Finds m address position change

theorem Clean.grows (h : searcher.Clean n tried) (hgrows : searcher.Grows tried tried') :
    searcher.Clean n tried' := by
  intro address position hposition hmarked
  rcases hgrows.marked hposition hmarked with hmarked | hfails
  · exact h address position hposition hmarked
  · exact .inl hfails

/-- The place on the way to a match was not tried: otherwise it would lead to it after more
steps. -/
theorem Clean.not_marked {change : Slots → Slots} (h : searcher.Clean n tried)
    (hposition : position ≤ searcher.text.size)
    (hfinds : searcher.Finds n address position change) :
    ¬searcher.Marked tried address position := by
  intro hmarked
  rcases h address position hposition hmarked with hfails | ⟨m, change', hlt, hfinds'⟩
  · exact hfails.not_finds hfinds
  · exact absurd (hfinds.unique hfinds') (Nat.ne_of_lt hlt)

theorem Clean.set {change : Slots → Slots} (h : searcher.Clean (n + 1) tried)
    (hposition : position ≤ searcher.text.size)
    (hfinds : searcher.Finds (n + 1) address position change) :
    searcher.Clean n (tried.set! (searcher.placeIndex address position) 1) := by
  intro address' position' hposition' hmarked
  rcases marked_set hposition hposition' hmarked with hold | ⟨rfl, rfl⟩
  · rcases h _ _ hposition' hold with hfails | ⟨m, change', hlt, hfinds'⟩
    · exact .inl hfails
    · exact .inr ⟨m, change', Nat.lt_of_succ_lt hlt, hfinds'⟩
  · exact .inr ⟨n + 1, change, Nat.lt_succ_self n, hfinds⟩

/-- The search finds the match to which a place leads. -/
theorem work_of_finds {change : Slots → Slots} (h : searcher.Finds n address position change)
    (hposition : position ≤ searcher.text.size)
    (henough : Enough fuel (.try address position :: tasks) tried)
    (hclean : searcher.Clean n tried) :
    (searcher.work fuel (.try address position :: tasks) slots tried).1 = some (change slots) := by
  induction h generalizing fuel tasks slots tried with
  | done hdone =>
      have hmarked := hclean.not_marked hposition (.done hdone)
      cases fuel with
      | zero => cases henough
      | succ fuel => exact work_done hmarked hdone
  | @step address position n before later place change hplaces hbefore hfinds ih =>
      have hmarked := hclean.not_marked hposition (.step hplaces hbefore hfinds)
      have hdone : searcher.program[address]? ≠ some .done := by
        intro hdone
        rw [successors_done hdone] at hplaces
        simp at hplaces
      have hle := successors_le address hposition
      rw [hplaces] at hle
      cases fuel with
      | zero => cases henough
      | succ fuel =>
          have hvain : searcher.Vain (trials before) := vain_trials fun other hother =>
            vain_of_fails (hbefore other hother) (hle other (List.mem_append_left _ hother))
          have hsplit : trials (searcher.successors address position) ++
              searcher.restores address slots ++ tasks =
                trials before ++ (.try place.1 place.2 :: (trials later ++
                  searcher.restores address slots ++ tasks)) := by
            rw [hplaces, trials, List.map_append, List.map_cons, List.append_assoc,
              List.append_assoc, List.cons_append, List.append_assoc]
            rfl
          have hstep := enough_of_step slots henough hmarked
          rw [hsplit] at hstep
          obtain ⟨fuel', tried', hwork, henough', hgrows⟩ := hvain _ _
            (searcher.noted address position slots) _ hstep
          rw [work_step hmarked hdone, hsplit, hwork]
          exact ih (hle place (List.mem_append_right _ List.mem_cons_self)) henough'
            ((hclean.set hposition (.step hplaces hbefore hfinds)).grows hgrows)

/-! ## Searches -/

/-- What the way from a place leads to: what the match does to the slots, or no match. -/
def Leads (searcher : Searcher) (address position : Nat) : Option (Slots → Slots) → Prop
  | none => searcher.Fails address position
  | some change => ∃ n, searcher.Finds n address position change

/-- The slots before a match. -/
def blank (searcher : Searcher) : Slots := Array.replicate (slotCount searcher.program) none

/-- Every place that was tried leads to no match. -/
def Fruitless (searcher : Searcher) (tried : ByteArray) : Prop :=
  ∀ address position, position ≤ searcher.text.size →
    searcher.Marked tried address position → searcher.Fails address position

theorem Fruitless.clean (h : searcher.Fruitless tried) : searcher.Clean n tried :=
  fun address position hposition hmarked => .inl (h address position hposition hmarked)

theorem Fruitless.grows (h : searcher.Fruitless tried) (hgrows : searcher.Grows tried tried') :
    searcher.Fruitless tried' :=
  fun address position hposition hmarked =>
    (hgrows.marked hposition hmarked).elim (h address position hposition) id

theorem fails_of_none (h : searcher.program[address]? = none) :
    searcher.Fails address position := by
  constructor
  · rw [h]
    exact nofun
  · intro place hplace
    rw [successors, h] at hplace
    cases hplace

/-- At the start of a search only the places outside of the program count as tried. -/
theorem fruitless_zeros (searcher : Searcher) :
    searcher.Fruitless ⟨Array.replicate searcher.placeCount 0⟩ := by
  intro address position hposition hmarked
  refine fails_of_none (Array.getElem?_eq_none (Nat.le_of_not_lt fun hlt => ?_))
  have hplace : searcher.placeIndex address position < searcher.placeCount :=
    calc searcher.placeIndex address position
        < address * (searcher.text.size + 1) + (searcher.text.size + 1) :=
          Nat.add_lt_add_left (Nat.lt_succ_of_le hposition) _
      _ = (address + 1) * (searcher.text.size + 1) := (Nat.succ_mul _ _).symm
      _ ≤ searcher.placeCount := Nat.mul_le_mul_right _ hlt
  rw [Marked, getElem?_eq, Array.getElem?_replicate, if_pos hplace] at hmarked
  exact hmarked rfl

/-- From a place that leads to no match nothing is found. -/
theorem work_of_fails (slots : Slots) (h : searcher.Fails address position)
    (hposition : position ≤ searcher.text.size)
    (henough : Enough fuel [.try address position] tried) :
    ∃ tried', searcher.work fuel [.try address position] slots tried = (none, tried') ∧
      searcher.Grows tried tried' := by
  obtain ⟨fuel', tried', hwork, -, hgrows⟩ :=
    vain_of_fails h hposition fuel [] slots tried henough
  have hnil : searcher.work fuel' [] slots tried' = (none, tried') := by
    cases fuel' <;> rfl
  exact ⟨tried', hwork.trans hnil, hgrows⟩

/-- The search takes the first start from which a way leads to a match. -/
theorem searchLast_eq {found : Nat → Option (Slots → Slots)} {count : Nat}
    (hfound : ∀ start ≤ searcher.text.size, searcher.Leads 0 start (found start))
    (hcount : count ≤ searcher.text.size + 1) (hfree : free tried ≤ searcher.placeCount)
    (hfruitless : searcher.Fruitless tried) :
    searcher.searchLast count tried =
      ((List.range' (searcher.text.size + 1 - count) count).findSome? found).map
        fun change => change searcher.blank := by
  induction count generalizing tried with
  | zero => rfl
  | succ count ih =>
      have hstart : searcher.text.size - count ≤ searcher.text.size := Nat.sub_le _ _
      have hindex : searcher.text.size + 1 - (count + 1) = searcher.text.size - count := by omega
      have hnext : searcher.text.size - count + 1 = searcher.text.size + 1 - count := by omega
      have henough : Enough (3 * searcher.placeCount + 3) [.try 0 (searcher.text.size - count)]
          tried := by
        rw [Enough, List.length_singleton]
        omega
      have hleads := hfound _ hstart
      rw [searchLast, hindex, List.range'_succ, List.findSome?_cons, hnext]
      cases hresult : found (searcher.text.size - count) with
      | some change =>
          rw [hresult] at hleads
          obtain ⟨n, hfinds⟩ := hleads
          have hwork : (searcher.work _ _ searcher.blank tried).1 = some (change searcher.blank) :=
            work_of_finds hfinds hstart henough hfruitless.clean
          rw [blank] at hwork
          split
          · next slots tried' heq =>
              rw [heq] at hwork
              exact hwork
          · next tried' heq =>
              rw [heq] at hwork
              cases hwork
      | none =>
          rw [hresult] at hleads
          obtain ⟨tried', hwork, hgrows⟩ := work_of_fails searcher.blank hleads hstart henough
          rw [blank] at hwork
          rw [hwork]
          exact ih (Nat.le_of_succ_le hcount) (Nat.le_trans hgrows.free hfree)
            (hfruitless.grows hgrows)

theorem search_eq {found : Nat → Option (Slots → Slots)}
    (hfound : ∀ start ≤ searcher.text.size, searcher.Leads 0 start (found start)) :
    searcher.search = ((List.range (searcher.text.size + 1)).findSome? found).map
      fun change => change searcher.blank := by
  have hfree : free ⟨Array.replicate searcher.placeCount 0⟩ ≤ searcher.placeCount :=
    Nat.le_of_eq Array.count_replicate_self
  rw [search, searchLast_eq hfound (Nat.le_refl _) hfree (fruitless_zeros searcher), Nat.sub_self,
    List.range_eq_range']

end Searcher
end Pattern
end Guest
