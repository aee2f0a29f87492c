import Guest.Proofs.Number.WholeText
import Guest.Value.Access

/-!
# The parts of arrays and texts

An array and a text have their parts at canonical indices only: a number that is a whole one, or a
text that is the decimal numeral of one, without a sign, a zero before it or anything else.  Every
other key has no part, and asking for it is no error.
-/

namespace Guest

namespace Value

variable {x : Number} {i n : Nat} {key target : Value} {parts : List Value}

theorem indexOfNumber?_of_isExactly (h : x.IsExactly i) (hi : i < mostIndex) :
    indexOfNumber? x = some i := by
  have hatMost : Number.zero.atMost x = true :=
    (Number.isExactly_zero.atMost_iff h).mpr (Int.natCast_nonneg i)
  have hwhole : x.trunc.equals x = true := by
    rw [Number.trunc_equals_iff h.isFinite, h.truncated_eq]
    exact h
  rw [indexOfNumber?, hatMost, hwhole, h.toNatClamped_eq]
  exact congrArg some (Nat.min_eq_left (Nat.le_of_lt hi))

/-- Below the greatest index, a number denotes the index that it is. -/
theorem indexOfNumber?_eq_some_iff (hi : i < mostIndex) :
    indexOfNumber? x = some i ↔ x.IsExactly i := by
  refine ⟨fun h => ?_, fun h => indexOfNumber?_of_isExactly h hi⟩
  rw [indexOfNumber?] at h
  split at h
  · next hcondition =>
      obtain ⟨hatMost, hwhole⟩ := Bool.and_eq_true_iff.mp hcondition
      have hindex := Option.some.inj h
      cases hfinite : x.isFinite with
      | true =>
          have hexact := (Number.trunc_equals_iff hfinite).mp hwhole
          have hnonneg := (Number.isExactly_zero.atMost_iff hexact).mp hatMost
          obtain ⟨n, hn⟩ := Int.eq_ofNat_of_zero_le hnonneg
          rw [hn] at hexact
          rw [hexact.toNatClamped_eq] at hindex
          have hsame : n = i := by
            rcases Nat.le_total n mostIndex with hle | hle
            · exact (Nat.min_eq_left hle).symm.trans hindex
            · have hmost := (Nat.min_eq_right hle).symm.trans hindex
              omega
          rwa [← hsame]
      | false =>
          cases x with
          | nan => cases hatMost
          | infinite negative =>
              cases negative with
              | true => cases hatMost
              | false => exact absurd hindex (Nat.ne_of_gt hi)
          | finite => cases hfinite
  · cases h

/-- A text denotes an index if it is its numeral. -/
theorem index?_string_eq_some_iff {s : String} (hi : i < 2 ^ 53) :
    index? (string s) = some i ↔ s = toString i := by
  have hmost : i < mostIndex := Nat.lt_trans hi (by decide)
  have htoString : (toString i).toList = Numeral.decimal i := (Numeral.decimal_eq_toString i).symm
  rw [index?]
  constructor
  · intro h
    split at h
    · next htext =>
        have hexact := (indexOfNumber?_eq_some_iff hmost).mp h
        rw [hexact.text_eq hi, ← htoString] at htext
        exact (String.toList_inj.mp htext).symm
    · cases h
  · rintro rfl
    have hexact : (Number.ofNat i).IsExactly i := Number.isExactly_ofNat (Nat.le_of_lt hi)
    have htext := hexact.text_eq hi
    have hread : Number.ofText (toString i).toList = Number.ofNat i := by
      rw [htoString, ← htext, Number.ofText_text, if_neg (Number.ofNat_ne_negZero hi)]
    rw [hread, htoString, if_pos htext]
    exact indexOfNumber?_of_isExactly hexact hmost

/-- The keys that denote an index: a number that is a whole one, of which the zeros are the same,
and its decimal numeral. -/
inductive DenotesIndex : Value → Nat → Prop where
  | number {x : Number} {i : Nat} : x.IsExactly i → DenotesIndex (number x) i
  | numeral {i : Nat} : DenotesIndex (string (toString i)) i

theorem denotesIndex_number_iff : DenotesIndex (number x) i ↔ x.IsExactly i :=
  ⟨fun h => by cases h with | number hexact => exact hexact, .number⟩

theorem denotesIndex_string_iff {s : String} : DenotesIndex (string s) i ↔ s = toString i :=
  ⟨fun h => by cases h; rfl, fun h => h ▸ .numeral⟩

theorem index?_eq_some_iff (hi : i < 2 ^ 53) : key.index? = some i ↔ key.DenotesIndex i := by
  have hmost : i < mostIndex := Nat.lt_trans hi (by decide)
  cases key with
  | number x => exact (indexOfNumber?_eq_some_iff hmost).trans denotesIndex_number_iff.symm
  | string s => exact (index?_string_eq_some_iff hi).trans denotesIndex_string_iff.symm
  | _ => exact ⟨nofun, nofun⟩

/-- The parts of a value at indices: the items of an array, the characters of a text. -/
def parts? : Value → Option (List Value)
  | array items => some items
  | string s => some (s.toList.map (ofChars [·]))
  | _ => none

theorem access?_eq_select (h : target.parts? = some parts) (key : Value) :
    target.access? key = some (select parts.length (fun i => parts[i]?) key) := by
  cases target with
  | array items =>
      cases h
      rfl
  | string s =>
      cases h
      simp only [access?, List.length_map, List.getElem?_map]
  | _ => cases h

theorem string?_eq_some_iff {s : String} : key.string? = some s ↔ key = string s := by
  cases key with
  | string t => exact ⟨fun h => congrArg string (Option.some.inj h), fun h => by cases h; rfl⟩
  | _ => exact ⟨nofun, nofun⟩

/-- An array or a text of less than `2 ^ 53` parts gives their count for `length`, a part for a key
that denotes its index, and null for every other key. -/
theorem access_selects_by_canonical_index (h : target.parts? = some parts)
    (hlength : parts.length < 2 ^ 53) (key : Value) :
    (key = string "length" → ∃ x, target.access? key = some (number x) ∧
      x.IsExactly parts.length) ∧
    (key ≠ string "length" →
      (∀ i part, parts[i]? = some part → (key.index? = some i ↔ key.DenotesIndex i)) ∧
      (∀ i part, parts[i]? = some part → key.DenotesIndex i →
        target.access? key = some part) ∧
      ((∀ i < parts.length, ¬key.DenotesIndex i) → target.access? key = some null)) := by
  have hindex : ∀ i part, parts[i]? = some part → (key.index? = some i ↔ key.DenotesIndex i) := by
    intro i part hpart
    have hi := (List.getElem?_eq_some_iff.mp hpart).1
    exact index?_eq_some_iff (Nat.lt_trans hi hlength)
  rw [access?_eq_select h, select]
  refine ⟨fun hkey => ?count, fun hkey => ⟨hindex, fun i part hpart hdenotes => ?part, ?missing⟩⟩
  case count =>
    rw [if_pos (string?_eq_some_iff.mpr hkey)]
    exact ⟨_, rfl, Number.isExactly_ofNat (Nat.le_of_lt hlength)⟩
  case part =>
    rw [if_neg (hkey ∘ string?_eq_some_iff.mp), (hindex i part hpart).mpr hdenotes,
      Option.bind_some, hpart, Option.getD_some]
  case missing =>
    intro hnone
    rw [if_neg (hkey ∘ string?_eq_some_iff.mp)]
    cases hkeyIndex : key.index? with
    | none => rfl
    | some i =>
        rw [Option.bind_some]
        cases hpart : parts[i]? with
        | none => rfl
        | some part =>
            have hi := (List.getElem?_eq_some_iff.mp hpart).1
            exact absurd ((hindex i part hpart).mp hkeyIndex) (hnone i hi)

/-- The zero with a sign selects the first character and a numeral the one behind it; a numeral
after another zero selects nothing. -/
theorem characters_at_canonical_indices :
    (∃ x, (string "héllo").access? (string "length") = some (number x) ∧ x.IsExactly (5 : Nat)) ∧
    (string "héllo").access? (number .negZero) = some (string "h") ∧
    (string "héllo").access? (string "1") = some (string "é") ∧
    (string "héllo").access? (string "01") = some null := by
  have hselects := access_selects_by_canonical_index
    (show (string "héllo").parts? = some ("héllo".toList.map (ofChars [·])) from rfl) (by decide)
  have hzero : Number.negZero.IsExactly (0 : Nat) := ⟨rfl, (Int.zero_mul _).symm⟩
  have hkey (s : String) (hs : s ≠ "length") : string s ≠ string "length" :=
    fun h => hs (string.inj h)
  refine ⟨(hselects _).1 rfl, ?_, ?_, ?_⟩
  · exact ((hselects (number .negZero)).2 nofun).2.1 0 (string "h") rfl (.number hzero)
  · exact ((hselects (string "1")).2 (hkey _ (by decide))).2.1 1 (string "é") rfl
      (denotesIndex_string_iff.mpr (by decide))
  · refine ((hselects (string "01")).2 (hkey _ (by decide))).2.2 fun i hi hdenotes => ?_
    have hnumerals : ∀ i < 5, "01" ≠ toString i := by decide
    exact hnumerals i hi (denotesIndex_string_iff.mp hdenotes)

end Value

end Guest
