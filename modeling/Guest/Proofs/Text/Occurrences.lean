import Guest.Text.Search
import Mathlib.Data.List.Infix
import Mathlib.Order.Bounds.Basic

/-!
# Occurrences of one text in another

A text occurs at an index of another one if it stands there between what is before and what is
behind it.  The searches go through a text from its front and compare at every character; what they
find is the least or the greatest index of an occurrence, and they miss none.
-/

namespace Guest

namespace Text

variable {α : Type} {p s before after : List α} {c : α} {i n : Nat}

/-- The text `p` stands in `s` from the character at an index on. -/
def OccursAt (p s : List α) (i : Nat) : Prop :=
  ∃ before after, s = before ++ p ++ after ∧ before.length = i

theorem occursAt_append (before p after : List α) :
    OccursAt p (before ++ p ++ after) before.length :=
  ⟨before, after, rfl, rfl⟩

theorem OccursAt.add_length_le (h : OccursAt p s i) : i + p.length ≤ s.length := by
  obtain ⟨before, after, rfl, rfl⟩ := h
  rw [List.length_append, List.length_append]
  exact Nat.le_add_right _ _

/-- The empty text occurs at every index from the start to the end. -/
theorem occursAt_nil_iff : OccursAt [] s i ↔ i ≤ s.length := by
  constructor
  · intro h
    exact h.add_length_le
  · intro h
    refine ⟨s.take i, s.drop i, ?_, List.length_take_of_le h⟩
    rw [List.append_nil, List.take_append_drop]

theorem OccursAt.eq_nil (h : OccursAt p [] i) : p = [] := by
  have hle := h.add_length_le
  rw [List.length_nil] at hle
  exact List.length_eq_zero_iff.mp (by omega)

theorem occursAt_zero_iff : OccursAt p s 0 ↔ p <+: s := by
  constructor
  · rintro ⟨before, after, rfl, hbefore⟩
    rw [List.length_eq_zero_iff.mp hbefore, List.nil_append]
    exact List.prefix_append p after
  · rintro ⟨after, rfl⟩
    exact ⟨[], after, rfl, rfl⟩

/-- Behind the first character the indices are shifted by one. -/
theorem occursAt_cons_succ_iff : OccursAt p (c :: s) (i + 1) ↔ OccursAt p s i := by
  constructor
  · rintro ⟨before, after, hsplit, hbefore⟩
    obtain ⟨first, before, rfl⟩ := List.exists_cons_of_length_eq_add_one hbefore
    exact ⟨before, after, (List.cons.inj hsplit).2, Nat.succ.inj hbefore⟩
  · rintro ⟨before, after, rfl, rfl⟩
    exact ⟨c :: before, after, rfl, rfl⟩

/-- From a character on the indices are shifted by its index. -/
theorem occursAt_drop_iff (hn : n ≤ s.length) :
    OccursAt p (s.drop n) i ↔ OccursAt p s (n + i) := by
  induction n generalizing s with
  | zero => rw [List.drop_zero, Nat.zero_add]
  | succ n ih =>
      cases s with
      | nil => cases hn
      | cons c s =>
          rw [List.drop_succ_cons, ih (Nat.le_of_succ_le_succ hn), Nat.succ_add,
            occursAt_cons_succ_iff]

theorem occursAt_iff_prefix_drop (hi : i ≤ s.length) : OccursAt p s i ↔ p <+: s.drop i := by
  rw [← occursAt_zero_iff, occursAt_drop_iff hi, Nat.add_zero]

/-- A text ends with another one if this occurs where as many characters are left. -/
theorem suffix_iff_occursAt :
    p <:+ s ↔ p.length ≤ s.length ∧ OccursAt p s (s.length - p.length) := by
  constructor
  · rintro ⟨before, rfl⟩
    refine ⟨?_, before, [], ?_, ?_⟩
    · rw [List.length_append]
      exact Nat.le_add_left _ _
    · rw [List.append_nil]
    · rw [List.length_append, Nat.add_sub_cancel]
  · rintro ⟨hle, before, after, rfl, hbefore⟩
    have hafter : after.length = 0 := by
      simp only [List.length_append] at hle hbefore
      omega
    rw [List.length_eq_zero_iff.mp hafter, List.append_nil]
    exact List.suffix_append before p

/-- The occurrences in a front part of a text are those that end in it. -/
theorem occursAt_take_iff (hn : n ≤ s.length) :
    OccursAt p (s.take n) i ↔ OccursAt p s i ∧ i + p.length ≤ n := by
  constructor
  · intro h
    have hle := h.add_length_le
    rw [List.length_take_of_le hn] at hle
    obtain ⟨before, after, hsplit, hbefore⟩ := h
    refine ⟨⟨before, after ++ s.drop n, ?_, hbefore⟩, hle⟩
    rw [← List.append_assoc, ← hsplit, List.take_append_drop]
  · rintro ⟨⟨before, after, rfl, rfl⟩, hle⟩
    refine ⟨before, after.take (n - (before ++ p).length), ?_, rfl⟩
    rw [List.take_append, List.take_of_length_le (by rwa [List.length_append])]

/-! ## What the searches find -/

variable [DecidableEq α]

theorem dropFront?_eq_some_iff : dropFront? p s = some after ↔ s = p ++ after := by
  induction p generalizing s with
  | nil => exact Option.some_inj
  | cons a p ih =>
      cases s with
      | nil => simp [dropFront?]
      | cons b s =>
          rw [dropFront?, List.cons_append, List.cons.injEq]
          by_cases hab : a = b
          · rw [if_pos hab, ih, and_iff_right hab.symm]
          · rw [if_neg hab]
            exact iff_of_false (Option.some_ne_none after).symm fun h => hab h.1.symm

theorem startsWith_drop_iff (hi : i ≤ s.length) :
    startsWith p (s.drop i) = true ↔ OccursAt p s i := by
  rw [startsWith_iff, occursAt_iff_prefix_drop hi]

theorem endsWith_iff : endsWith p s = true ↔ p <:+ s := by
  rw [endsWith, startsWith_iff, List.reverse_prefix]

/-- Up to a position a text ends with another one if this fits in and occurs there. -/
theorem endsWith_take_iff (hn : n ≤ s.length) :
    endsWith p (s.take n) = true ↔ p.length ≤ n ∧ OccursAt p s (n - p.length) := by
  rw [endsWith_iff, suffix_iff_occursAt, List.length_take_of_le hn, occursAt_take_iff hn]
  refine and_congr_right fun hle => and_iff_left ?_
  rw [Nat.sub_add_cancel hle]

theorem isLeast_of_indexOf? (h : indexOf? p s = some i) : IsLeast {i | OccursAt p s i} i := by
  induction s generalizing i with
  | nil =>
      rw [indexOf?] at h
      split at h
      · next hempty =>
          cases h
          rw [List.isEmpty_iff.mp hempty]
          exact ⟨occursAt_nil_iff.mpr (Nat.le_refl 0), fun _ _ => Nat.zero_le _⟩
      · cases h
  | cons c s ih =>
      rw [indexOf?] at h
      split at h
      · next hstarts =>
          cases h
          exact ⟨occursAt_zero_iff.mpr (startsWith_iff.mp hstarts), fun _ _ => Nat.zero_le _⟩
      · next hstarts =>
          obtain ⟨j, hj, rfl⟩ := Option.map_eq_some_iff.mp h
          refine ⟨occursAt_cons_succ_iff.mpr (ih hj).1, fun k hk => ?_⟩
          cases k with
          | zero => exact absurd (startsWith_iff.mpr (occursAt_zero_iff.mp hk)) hstarts
          | succ k => exact Nat.succ_le_succ ((ih hj).2 (occursAt_cons_succ_iff.mp hk))

theorem not_occursAt_of_indexOf? (h : indexOf? p s = none) (i : Nat) : ¬OccursAt p s i := by
  intro hoccurs
  induction s generalizing i with
  | nil =>
      rw [hoccurs.eq_nil] at h
      cases h
  | cons c s ih =>
      rw [indexOf?] at h
      split at h
      · cases h
      · next hstarts =>
          cases i with
          | zero => exact hstarts (startsWith_iff.mpr (occursAt_zero_iff.mp hoccurs))
          | succ i =>
              exact ih (Option.map_eq_none_iff.mp h) i (occursAt_cons_succ_iff.mp hoccurs)

/-- The search finds the first occurrence. -/
theorem indexOf?_eq_some_iff : indexOf? p s = some i ↔ IsLeast {i | OccursAt p s i} i := by
  constructor
  · exact isLeast_of_indexOf?
  · intro h
    cases hsearch : indexOf? p s with
    | none => exact absurd h.1 (not_occursAt_of_indexOf? hsearch i)
    | some j => exact congrArg some ((isLeast_of_indexOf? hsearch).unique h)

theorem indexOf?_eq_none_iff : indexOf? p s = none ↔ ∀ i, ¬OccursAt p s i := by
  constructor
  · exact not_occursAt_of_indexOf?
  · intro h
    cases hsearch : indexOf? p s with
    | none => rfl
    | some j => exact absurd (isLeast_of_indexOf? hsearch).1 (h j)

/-- The test finds an occurrence exactly where the search does. -/
theorem contains_iff : contains p s = true ↔ indexOf? p s ≠ none := by
  induction s with
  | nil =>
      rw [contains, indexOf?]
      cases p with
      | nil => exact iff_of_true rfl nofun
      | cons c p => exact iff_of_false nofun fun h => h rfl
  | cons c s ih =>
      rw [contains, Bool.or_eq_true, ih, indexOf?]
      by_cases hstarts : startsWith p (c :: s) = true
      · rw [if_pos hstarts]
        exact iff_of_true (.inl hstarts) nofun
      · rw [if_neg hstarts, Ne, Ne, Option.map_eq_none_iff]
        exact or_iff_right hstarts

theorem lastIndexOf?_eq_none_iff : lastIndexOf? p s = none ↔ ∀ i, ¬OccursAt p s i := by
  rw [← indexOf?_eq_none_iff]
  induction s with
  | nil => rfl
  | cons c s ih =>
      rw [lastIndexOf?, indexOf?]
      cases hrest : lastIndexOf? p s with
      | none =>
          rw [ih.mp hrest]
          rfl
      | some j =>
          have hsome : indexOf? p s ≠ none := fun hnone => by
            rw [ih.mpr hnone] at hrest
            cases hrest
          refine iff_of_false (fun h => nomatch h) fun h => ?_
          split at h
          · cases h
          · exact hsome (Option.map_eq_none_iff.mp h)

theorem isGreatest_of_lastIndexOf? (h : lastIndexOf? p s = some i) :
    IsGreatest {i | OccursAt p s i} i := by
  induction s generalizing i with
  | nil =>
      rw [lastIndexOf?] at h
      split at h
      · next hempty =>
          cases h
          rw [List.isEmpty_iff.mp hempty]
          exact ⟨occursAt_nil_iff.mpr (Nat.le_refl 0), fun _ hk => occursAt_nil_iff.mp hk⟩
      · cases h
  | cons c s ih =>
      rw [lastIndexOf?] at h
      split at h
      · next j hrest =>
          cases h
          refine ⟨occursAt_cons_succ_iff.mpr (ih hrest).1, fun k hk => ?_⟩
          cases k with
          | zero => exact Nat.zero_le _
          | succ k => exact Nat.succ_le_succ ((ih hrest).2 (occursAt_cons_succ_iff.mp hk))
      · next hrest =>
          split at h
          · next hstarts =>
              cases h
              refine ⟨occursAt_zero_iff.mpr (startsWith_iff.mp hstarts), fun k hk => ?_⟩
              cases k with
              | zero => exact Nat.le_refl _
              | succ k =>
                  exact absurd (occursAt_cons_succ_iff.mp hk)
                    (lastIndexOf?_eq_none_iff.mp hrest k)
          · cases h

/-- The search from the end finds the last occurrence. -/
theorem lastIndexOf?_eq_some_iff : lastIndexOf? p s = some i ↔ IsGreatest {i | OccursAt p s i} i := by
  constructor
  · exact isGreatest_of_lastIndexOf?
  · intro h
    cases hsearch : lastIndexOf? p s with
    | none => exact absurd h.1 (lastIndexOf?_eq_none_iff.mp hsearch i)
    | some j => exact congrArg some ((isGreatest_of_lastIndexOf? hsearch).unique h)

end Text

end Guest
