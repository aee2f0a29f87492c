import Guest.Proofs.Text.Occurrences

/-!
# Pieces of a text

Splitting and replacing go through a text in the same way: at the first occurrence of a nonempty
text they pass over it, and elsewhere they go on by one character.  So one induction on the text
serves them both, and what is replaced are the gaps between the pieces.
-/

namespace Guest

namespace Text

variable {p r s after piece : List Char} {pieces : List (List Char)} {c : Char} {skip : Nat}

/-! ## The steps through a text -/

theorem piecesFrom_eq_splitOn : piecesFrom p skip s = splitOn p (s.drop skip) := by
  induction skip generalizing s with
  | zero => rfl
  | succ skip ih =>
      cases s with
      | nil => rfl
      | cons c s => exact ih

theorem replaceFrom_eq_drop : replaceFrom p r skip s = replaceFrom p r 0 (s.drop skip) := by
  induction skip generalizing s with
  | zero => rfl
  | succ skip ih =>
      cases s with
      | nil => rfl
      | cons c s => exact ih

theorem splitOn_nil : splitOn p [] = [[]] := rfl

theorem splitOn_append (hp : p ≠ []) : splitOn p (p ++ after) = [] :: splitOn p after := by
  obtain ⟨c, more, rfl⟩ := List.exists_cons_of_ne_nil hp
  have hstarts : startsWith (c :: more) (c :: (more ++ after)) = true :=
    startsWith_iff.mpr (List.prefix_append (c :: more) after)
  rw [splitOn, List.cons_append, piecesFrom, if_pos hstarts, piecesFrom_eq_splitOn,
    List.length_cons, Nat.add_sub_cancel, List.drop_left]

theorem splitOn_cons (h : ¬p <+: c :: s) : splitOn p (c :: s) = consPiece c (splitOn p s) := by
  rw [splitOn, piecesFrom, if_neg (h ∘ startsWith_iff.mp)]
  rfl

theorem replaceFrom_append (hp : p ≠ []) :
    replaceFrom p r 0 (p ++ after) = r ++ replaceFrom p r 0 after := by
  obtain ⟨c, more, rfl⟩ := List.exists_cons_of_ne_nil hp
  have hstarts : startsWith (c :: more) (c :: (more ++ after)) = true :=
    startsWith_iff.mpr (List.prefix_append (c :: more) after)
  rw [List.cons_append, replaceFrom, if_pos hstarts, replaceFrom_eq_drop, List.length_cons,
    Nat.add_sub_cancel, List.drop_left]

theorem replaceFrom_cons (h : ¬p <+: c :: s) :
    replaceFrom p r 0 (c :: s) = c :: replaceFrom p r 0 s := by
  rw [replaceFrom, if_neg (h ∘ startsWith_iff.mp)]

/-- What holds of the empty text, and of a text if it holds of what is behind an occurrence in front
or else behind the first character, holds of every text. -/
theorem induction_on_occurrences {motive : List Char → Prop} (hp : p ≠ []) (nil : motive [])
    (occurrence : ∀ after, motive after → motive (p ++ after))
    (character : ∀ c rest, ¬p <+: c :: rest → motive rest → motive (c :: rest)) (s : List Char) :
    motive s := by
  induction hlength : s.length using Nat.strong_induction_on generalizing s with
  | _ n ih =>
      cases s with
      | nil => exact nil
      | cons c rest =>
          by_cases hstarts : p <+: c :: rest
          · obtain ⟨after, hsplit⟩ := hstarts
            have hpos : 0 < p.length := List.length_pos_iff.mpr hp
            have hless : after.length < n := by
              rw [← hlength, ← hsplit, List.length_append]
              omega
            rw [← hsplit]
            exact occurrence after (ih _ hless after rfl)
          · have hless : rest.length < n := by
              rw [← hlength, List.length_cons]
              exact Nat.lt_succ_self _
            exact character c rest hstarts (ih _ hless rest rfl)

/-! ## Joining -/

theorem consPiece_ne_nil : consPiece c pieces ≠ [] := by
  cases pieces <;> exact List.cons_ne_nil _ _

theorem splitOn_ne_nil (hp : p ≠ []) (s : List Char) : splitOn p s ≠ [] := by
  induction s using induction_on_occurrences hp with
  | nil => exact List.cons_ne_nil _ _
  | occurrence after _ =>
      rw [splitOn_append hp]
      exact List.cons_ne_nil _ _
  | character c rest hstarts _ =>
      rw [splitOn_cons hstarts]
      exact consPiece_ne_nil

theorem intercalate_consPiece (hpieces : pieces ≠ []) :
    r.intercalate (consPiece c pieces) = c :: r.intercalate pieces := by
  cases pieces with
  | nil => exact absurd rfl hpieces
  | cons piece more => cases more <;> simp [consPiece]

theorem intercalate_nil_cons (hpieces : pieces ≠ []) :
    r.intercalate ([] :: pieces) = r ++ r.intercalate pieces := by
  cases pieces with
  | nil => exact absurd rfl hpieces
  | cons piece more => simp

/-- A replacement stands where the pieces are joined. -/
theorem replaceFrom_eq_intercalate (hp : p ≠ []) (s : List Char) :
    replaceFrom p r 0 s = r.intercalate (splitOn p s) := by
  induction s using induction_on_occurrences hp with
  | nil => simp [replaceFrom, splitOn_nil]
  | occurrence after ih =>
      rw [replaceFrom_append hp, splitOn_append hp, intercalate_nil_cons (splitOn_ne_nil hp _), ih]
  | character c rest hstarts ih =>
      rw [replaceFrom_cons hstarts, splitOn_cons hstarts,
        intercalate_consPiece (splitOn_ne_nil hp _), ih]

/-- To replace every occurrence by itself changes nothing. -/
theorem replaceFrom_self (hp : p ≠ []) (s : List Char) : replaceFrom p p 0 s = s := by
  induction s using induction_on_occurrences hp with
  | nil => rfl
  | occurrence after ih => rw [replaceFrom_append hp, ih]
  | character c rest hstarts ih => rw [replaceFrom_cons hstarts, ih]

theorem intercalate_splitOn (hp : p ≠ []) (s : List Char) : p.intercalate (splitOn p s) = s := by
  rw [← replaceFrom_eq_intercalate hp, replaceFrom_self hp]

theorem replaceAll_eq_intercalate (hp : p ≠ []) (s : List Char) :
    replaceAll p r s = r.intercalate (splitOn p s) := by
  rw [replaceAll, if_neg (hp ∘ List.isEmpty_iff.mp), replaceFrom_eq_intercalate hp]

/-- The first piece stands in front of the text. -/
theorem prefix_of_splitOn (hp : p ≠ []) (h : splitOn p s = piece :: pieces) : piece <+: s := by
  rw [← intercalate_splitOn hp s, h]
  cases pieces with
  | nil => simp
  | cons next more =>
      rw [List.intercalate_cons_cons, List.append_assoc]
      exact List.prefix_append _ _

/-- No piece holds the text at whose occurrences it was split. -/
theorem not_infix_of_mem_splitOn (hp : p ≠ []) (s : List Char) :
    ∀ piece ∈ splitOn p s, ¬p <:+: piece := by
  have hnil : ¬p <:+: [] := fun h => hp (List.infix_nil.mp h)
  induction s using induction_on_occurrences hp with
  | nil => exact List.forall_mem_singleton.mpr hnil
  | occurrence after ih =>
      rw [splitOn_append hp]
      exact List.forall_mem_cons.mpr ⟨hnil, ih⟩
  | character c rest hstarts ih =>
      rw [splitOn_cons hstarts]
      cases hpieces : splitOn p rest with
      | nil => exact absurd hpieces (splitOn_ne_nil hp rest)
      | cons piece more =>
          rw [hpieces] at ih
          obtain ⟨hpiece, hmore⟩ := List.forall_mem_cons.mp ih
          refine List.forall_mem_cons.mpr ⟨fun h => ?_, hmore⟩
          -- An occurrence in the longer piece starts with it, and so it starts the text.
          rcases List.infix_cons_iff.mp h with hfront | hinside
          · have hstart : c :: piece <+: c :: rest :=
              List.cons_prefix_cons.mpr ⟨rfl, prefix_of_splitOn hp hpieces⟩
            exact hstarts (hfront.trans hstart)
          · exact hpiece hinside

/-! ## The first occurrence -/

theorem replaceFirst_append (p r after : List Char) : replaceFirst p r (p ++ after) = r ++ after := by
  have hfront : dropFront? p (p ++ after) = some after := dropFront?_eq_some_iff.mpr rfl
  cases hsplit : p ++ after with
  | nil =>
      obtain ⟨rfl, rfl⟩ := List.append_eq_nil_iff.mp hsplit
      exact (List.append_nil r).symm
  | cons c rest =>
      rw [hsplit] at hfront
      rw [replaceFirst, hfront]

theorem replaceFirst_cons (h : ¬p <+: c :: s) :
    replaceFirst p r (c :: s) = c :: replaceFirst p r s := by
  rw [replaceFirst]
  split
  · next after hfront => exact absurd ⟨after, (dropFront?_eq_some_iff.mp hfront).symm⟩ h
  · rfl

theorem replaceFirst_of_not_occursAt (h : ∀ i, ¬OccursAt p s i) : replaceFirst p r s = s := by
  induction s with
  | nil =>
      have hp : p ≠ [] := fun hp => h 0 (occursAt_zero_iff.mpr (hp ▸ List.prefix_rfl))
      exact if_neg (hp ∘ List.isEmpty_iff.mp)
  | cons c s ih =>
      have hstarts : ¬p <+: c :: s := fun hstarts => h 0 (occursAt_zero_iff.mpr hstarts)
      rw [replaceFirst_cons hstarts, ih fun i hi => h (i + 1) (occursAt_cons_succ_iff.mpr hi)]

/-- At the first occurrence the replacement stands between what is before and what is behind. -/
theorem replaceFirst_of_isLeast {before : List Char}
    (h : IsLeast {i | OccursAt p (before ++ p ++ after) i} before.length) :
    replaceFirst p r (before ++ p ++ after) = before ++ r ++ after := by
  induction before with
  | nil => exact replaceFirst_append p r after
  | cons c before ih =>
      have hstarts : ¬p <+: c :: (before ++ p ++ after) := fun hstarts =>
        absurd (h.2 (occursAt_zero_iff.mpr hstarts)) (Nat.not_succ_le_zero _)
      have hleast : IsLeast {i | OccursAt p (before ++ p ++ after) i} before.length :=
        ⟨occursAt_append before p after, fun i hi =>
          Nat.le_of_succ_le_succ (h.2 (occursAt_cons_succ_iff.mpr hi))⟩
      exact (replaceFirst_cons hstarts).trans (congrArg (c :: ·) (ih hleast))

end Text

end Guest
