import Guest.Proofs.Builtin.Positions

/-!
# Slices and characters of a text

Two positions cut a slice out of a text, and the slices before and behind one position make up the
text.  What the functions read is described apart from what they answer: an access fails outside of
the text, and none of those that the functions make does.
-/

namespace Guest

variable {s : List Char} {start stop a b : Nat}

/-! ## Accesses -/

namespace Text

theorem between_zero (stop : Nat) (s : List Char) : between 0 stop s = s.take stop :=
  List.drop_zero

theorem between_length (start : Nat) (s : List Char) : between start s.length s = s.drop start := by
  rw [between, List.take_length]

theorem between_of_le (h : stop ≤ start) : between start stop s = [] := by
  rw [between, List.drop_eq_nil_iff, List.length_take]
  exact Nat.le_trans (Nat.min_le_left _ _) h

end Text

/-- What a function reads of a text. -/
inductive Access where
  | nothing
  | character (i : Nat)
  | range (start stop : Nat)

namespace Access

/-- The characters that are read.  To read outside of the text fails, as does a range whose end is
before its start. -/
def read? (s : List Char) : Access → Option (List Char)
  | nothing => some []
  | character i => (s[i]?).map ([·])
  | range start stop =>
    if start ≤ stop ∧ stop ≤ s.length then some (Text.between start stop s) else none

/-- The character at an index, if there is an index and the text reaches behind it. -/
def ofIndex? (length : Nat) : Option Nat → Access
  | some i => if i < length then character i else nothing
  | none => nothing

/-- The characters from one position up to another one behind it. -/
def ofPositions (start stop : Nat) : Access := if start < stop then range start stop else nothing

/-- The characters between two positions in either order. -/
def ofEitherOrder (a b : Nat) : Access := if a ≤ b then range a b else range b a

theorem read?_range (h : start ≤ stop) (hstop : stop ≤ s.length) :
    (range start stop).read? s = some (Text.between start stop s) :=
  if_pos ⟨h, hstop⟩

theorem read?_ofIndex? (s : List Char) (index? : Option Nat) :
    (ofIndex? s.length index?).read? s = some (index?.bind fun i => s[i]?).toList := by
  cases index? with
  | none => rfl
  | some i =>
      rw [ofIndex?, Option.bind_some]
      split
      · next hi =>
          rw [read?, List.getElem?_eq_getElem hi]
          rfl
      · next hi =>
          rw [List.getElem?_eq_none (Nat.le_of_not_lt hi)]
          rfl

theorem read?_ofPositions (start : Nat) (hstop : stop ≤ s.length) :
    (ofPositions start stop).read? s = some (Text.between start stop s) := by
  rw [ofPositions]
  split
  · next h => exact read?_range (Nat.le_of_lt h) hstop
  · next h => rw [read?, Text.between_of_le (Nat.le_of_not_lt h)]

theorem read?_ofEitherOrder (ha : a ≤ s.length) (hb : b ≤ s.length) :
    (ofEitherOrder a b).read? s = some (Text.between (min a b) (max a b) s) := by
  rw [ofEitherOrder]
  split
  · next h => rw [read?_range h hb, Nat.min_eq_left h, Nat.max_eq_right h]
  · next h =>
      have hle : b ≤ a := Nat.le_of_not_le h
      rw [read?_range hle ha, Nat.min_eq_right hle, Nat.max_eq_left hle]

end Access

namespace Builtin

open Arguments

/-- The position that an optional argument stands for, the end of the text if it is absent. -/
def endIn (locate : Number → Nat → Nat) (args : Arguments) (length : Nat) : Nat :=
  ((number? args 2).map fun x => locate x length).getD length

theorem endIn_le {locate : Number → Nat → Nat} (h : ∀ x n, locate x n ≤ n) (args : Arguments)
    (n : Nat) : endIn locate args n ≤ n := by
  rw [endIn]
  cases number? args 2 with
  | none => exact Nat.le_refl n
  | some x => exact h x n

/-- The index that is counted from the end where it is negative; there is none before the start. -/
def atIndex? (args : Arguments) (length : Nat) : Option Nat :=
  let x := (number args 1).toWhole
  (if x.less .zero then Number.ofNat length + x else x).characterIndex?

/-- What `at?` reads. -/
def atAccess (args : Arguments) : Access :=
  let length := (chars args 0).length
  .ofIndex? length (atIndex? args length)

/-- What the functions of one character read. -/
def characterAccess (args : Arguments) : Access :=
  .ofIndex? (chars args 0).length (number args 1).toWhole.characterIndex?

/-- What `slice` reads. -/
def sliceAccess (args : Arguments) : Access :=
  let length := (chars args 0).length
  .ofPositions ((number args 1).relativeIndex length) (endIn Number.relativeIndex args length)

/-- What `substring` reads. -/
def substringAccess (args : Arguments) : Access :=
  let length := (chars args 0).length
  .ofEitherOrder ((number args 1).clampedIndex length) (endIn Number.clampedIndex args length)

/-- A function answers from the characters that it reads, and to read them does not fail. -/
def AnswersFrom (args : Arguments) (access : Access) (answer : List Char → Value)
    (result : Except BuiltinError Value) : Prop :=
  ∃ cs, access.read? (chars args 0) = some cs ∧ result = .ok (answer cs)

/-- The answer from one character, or the one where there is none. -/
def characterOr (missing : Value) (answer : Char → Value) : List Char → Value
  | [] => missing
  | c :: _ => answer c

theorem slice_answers (args : Arguments) :
    AnswersFrom args (sliceAccess args) .ofChars (slice args) :=
  ⟨_, Access.read?_ofPositions _ (endIn_le Number.relativeIndex_le args _), rfl⟩

theorem substring_answers (args : Arguments) :
    AnswersFrom args (substringAccess args) .ofChars (substring args) :=
  ⟨_, Access.read?_ofEitherOrder (Number.clampedIndex_le _ _)
    (endIn_le Number.clampedIndex_le args _), rfl⟩

theorem at_answers (args : Arguments) :
    AnswersFrom args (atAccess args) (characterOr .null fun c => .ofChars [c]) (at? args) := by
  let read? : Option Char :=
    (atIndex? args (chars args 0).length).bind fun i => (chars args 0)[i]?
  refine ⟨read?.toList, Access.read?_ofIndex? _ _, ?_⟩
  rw [at?]
  split
  · next c hread =>
      have hsome : read? = some c := hread
      rw [hsome]
      rfl
  · next hread =>
      have hnone : read? = none := hread
      rw [hnone]
      rfl

theorem charAt_answers (args : Arguments) :
    AnswersFrom args (characterAccess args) .ofChars (charAt args) :=
  ⟨_, Access.read?_ofIndex? _ _, rfl⟩

theorem charCodeAt_answers (args : Arguments) :
    AnswersFrom args (characterAccess args) (characterOr (.number .nan) fun c => .ofCount c.toNat)
      (charCodeAt args) := by
  refine ⟨(character? args).toList, Access.read?_ofIndex? _ _, ?_⟩
  rw [charCodeAt]
  cases character? args <;> rfl

theorem codePointAt_answers (args : Arguments) :
    AnswersFrom args (characterAccess args) (characterOr .null fun c => .ofCount c.toNat)
      (codePointAt args) := by
  refine ⟨(character? args).toList, Access.read?_ofIndex? _ _, ?_⟩
  rw [codePointAt]
  cases character? args <;> rfl

/-! ## Slices -/

/-- The slices before and behind a position make up the text. -/
theorem slice_append_slice (s : String) (x : Number) :
    ∃ front back : String, slice [.string s, .number .zero, .number x] = .ok (.string front) ∧
      slice [.string s, .number x] = .ok (.string back) ∧ front ++ back = s := by
  have hzero : Number.zero.relativeIndex s.toList.length = 0 :=
    (Number.isExactly_zero.relativeIndex_eq (k := 0) _).trans (Nat.zero_min _)
  refine ⟨String.ofList (s.toList.take (x.relativeIndex s.toList.length)),
    String.ofList (s.toList.drop (x.relativeIndex s.toList.length)), ?_, ?_, ?_⟩
  · rw [← Text.between_zero, ← hzero]
    rfl
  · rw [← Text.between_length]
    rfl
  · rw [← String.ofList_append, List.take_append_drop, String.ofList_toList]

theorem substring_eq (s : String) (a b : Number) :
    substring [.string s, .number a, .number b] = .ok (.ofChars (Text.between
      (min (a.position s.length) (b.position s.length))
      (max (a.position s.length) (b.position s.length)) s.toList)) := by
  rw [← a.clampedIndex_eq_position, ← b.clampedIndex_eq_position, ← String.length_toList]
  rfl

theorem substring_comm (s : String) (a b : Number) :
    substring [.string s, .number a, .number b] = substring [.string s, .number b, .number a] := by
  rw [substring_eq, substring_eq, Nat.min_comm, Nat.max_comm]

theorem substring_eq_slice {s : String} {a b lo hi : Number}
    (hlo : lo.IsExactly (min (a.position s.length) (b.position s.length) : Nat))
    (hhi : hi.IsExactly (max (a.position s.length) (b.position s.length) : Nat)) :
    substring [.string s, .number a, .number b] = slice [.string s, .number lo, .number hi] := by
  have ha := a.position_le s.length
  have hb := b.position_le s.length
  have hstart := (hlo.relativeIndex_eq s.length).trans
    (Nat.min_eq_left (Nat.le_trans (Nat.min_le_left _ _) ha))
  have hstop := (hhi.relativeIndex_eq s.length).trans (Nat.min_eq_left (Nat.max_le.mpr ⟨ha, hb⟩))
  rw [substring_eq, ← hstart, ← hstop, ← String.length_toList]
  rfl

/-- The slices before and behind a position make up the text.  Two positions cut out the same slice
in either order, which is the one from the lesser to the greater of them.  Whatever the arguments
are, the functions answer from what they read inside of the text. -/
theorem slices_stay_inside :
    (∀ (s : String) (x : Number), ∃ front back : String,
      slice [.string s, .number .zero, .number x] = .ok (.string front) ∧
      slice [.string s, .number x] = .ok (.string back) ∧ front ++ back = s) ∧
    (∀ (s : String) (a b : Number),
      substring [.string s, .number a, .number b] = substring [.string s, .number b, .number a] ∧
      ∀ lo hi : Number,
        lo.IsExactly (min (a.position s.length) (b.position s.length) : Nat) →
        hi.IsExactly (max (a.position s.length) (b.position s.length) : Nat) →
        substring [.string s, .number a, .number b] =
          slice [.string s, .number lo, .number hi]) ∧
    ∀ args : Arguments,
      AnswersFrom args (sliceAccess args) .ofChars (slice args) ∧
      AnswersFrom args (substringAccess args) .ofChars (substring args) ∧
      AnswersFrom args (atAccess args) (characterOr .null fun c => .ofChars [c]) (at? args) ∧
      AnswersFrom args (characterAccess args) .ofChars (charAt args) ∧
      AnswersFrom args (characterAccess args) (characterOr (.number .nan) fun c => .ofCount c.toNat)
        (charCodeAt args) ∧
      AnswersFrom args (characterAccess args) (characterOr .null fun c => .ofCount c.toNat)
        (codePointAt args) := by
  refine ⟨slice_append_slice, fun s a b => ⟨substring_comm s a b, fun lo hi => substring_eq_slice⟩,
    fun args => ?_⟩
  exact ⟨slice_answers args, substring_answers args, at_answers args, charAt_answers args,
    charCodeAt_answers args, codePointAt_answers args⟩

/-- What is not a number stands for the start, and past the end there is no character to read. -/
theorem slices_stay_inside_without_numbers :
    Number.zero.IsExactly (0 : Nat) ∧ (Number.ofNat 2).IsExactly (2 : Nat) ∧
    substring [.string "héllo", .number (.ofNat 2), .number .nan] =
      slice [.string "héllo", .number .zero, .number (.ofNat 2)] ∧
    charAt [.string "héllo", .number (.infinite false)] = .ok (.string "") := by
  obtain ⟨-, hslices, haccesses⟩ := slices_stay_inside
  have htwo : (Number.ofNat 2).IsExactly (2 : Nat) := Number.isExactly_ofNat (by decide)
  have hposition : (Number.ofNat 2).position "héllo".length = 2 := by
    rw [← Number.clampedIndex_eq_position, htwo.clampedIndex_eq]
    rfl
  obtain ⟨hcomm, hslice⟩ := hslices "héllo" .nan (.ofNat 2)
  obtain ⟨-, -, -, ⟨cs, hread, hanswer⟩, -⟩ :=
    haccesses [.string "héllo", .number (.infinite false)]
  obtain rfl : [] = cs := Option.some.inj hread
  refine ⟨Number.isExactly_zero, htwo, hcomm.symm.trans (hslice _ _ ?_ ?_), hanswer⟩
  · rw [hposition]
    exact Number.isExactly_zero
  · rw [hposition]
    exact htwo

end Builtin

end Guest
