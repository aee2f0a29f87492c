import Guest.Proofs.Number.Rounding
import Guest.Proofs.Value.Equality
import Guest.Value.Operation

/-!
# Loose equality and the order

A conversion changes neither side's place in the order, and it uses up one of at most two
conversions.  Once nothing is left to convert, equality is that of the order.  Loose equality is
therefore what the order says, wherever one of the values is no composite and neither is null.
-/

namespace Guest

namespace Value

variable {v w v' w' : Value}

/-! ### The order -/

theorem compareChars_swap (s t : List Char) : compareChars t s = (compareChars s t).swap := by
  induction s generalizing t with
  | nil => cases t <;> rfl
  | cons c s ih =>
      cases t with
      | nil => rfl
      | cons d t =>
          rw [compareChars, compareChars]
          rcases Nat.lt_trichotomy c.toNat d.toNat with hlt | heq | hgt
          · rw [if_neg (Nat.lt_asymm hlt), if_pos hlt, if_pos hlt]
            rfl
          · rw [if_neg (Nat.not_lt_of_le (Nat.le_of_eq heq)),
              if_neg (Nat.not_lt_of_le (Nat.le_of_eq heq.symm)),
              if_neg (Nat.not_lt_of_le (Nat.le_of_eq heq.symm)),
              if_neg (Nat.not_lt_of_le (Nat.le_of_eq heq))]
            exact ih t
          · rw [if_pos hgt, if_neg (Nat.lt_asymm hgt), if_pos hgt]
            rfl

theorem compareChars_eq_iff (s t : List Char) : compareChars s t = .eq ↔ s = t := by
  induction s generalizing t with
  | nil => cases t <;> simp [compareChars]
  | cons c s ih =>
      cases t with
      | nil => simp [compareChars]
      | cons d t =>
          rw [compareChars, List.cons.injEq, ← Char.toNat_inj, ← ih]
          rcases Nat.lt_trichotomy c.toNat d.toNat with hlt | heq | hgt
          · simp [hlt, Nat.ne_of_lt hlt]
          · simp [heq]
          · simp [hgt, Nat.lt_asymm hgt, Nat.ne_of_gt hgt]

theorem compareScalars_of_number (x : Number) (w : Value) :
    compareScalars (number x) w = x.compare w.toNumber := by
  cases w <;> rfl

theorem compareScalars_cases (v w : Value) :
    (∃ s t, v = string s ∧ w = string t) ∨
      compareScalars v w = v.toNumber.compare w.toNumber ∧
        compareScalars w v = w.toNumber.compare v.toNumber := by
  cases v with
  | string s =>
      cases w with
      | string t => exact .inl ⟨s, t, rfl, rfl⟩
      | _ => exact .inr ⟨rfl, rfl⟩
  | _ => exact .inr ⟨by cases w <;> rfl, by cases w <;> rfl⟩

theorem compareScalars_swap (v w : Value) :
    compareScalars w v = (compareScalars v w).map Ordering.swap := by
  rcases compareScalars_cases v w with ⟨s, t, rfl, rfl⟩ | ⟨hvw, hwv⟩
  · exact congrArg some (compareChars_swap s.toList t.toList)
  · rw [hvw, hwv, Number.compare_swap]

/-- The order of two values, taken the other way round. -/
theorem compare_swap (v w : Value) : compare w v = (compare v w).map Ordering.swap :=
  compareScalars_swap v.primitive w.primitive

theorem primitive_primitive (v : Value) : v.primitive.primitive = v.primitive := by
  cases v <;> rfl

theorem compare_number_left (h : v.isBoolean = true) :
    compare (number v.toNumber) w = compare v w := by
  cases v with
  | boolean b =>
      rw [compare, compare]
      change compareScalars (number _) w.primitive = compareScalars (boolean b) w.primitive
      rw [compareScalars_of_number]
      cases w <;> rfl
  | _ => cases h

/-- A conversion does not change how two values are ordered. -/
theorem compare_of_convert? (h : convert? v w = some (v', w')) : compare v' w' = compare v w := by
  rcases convert?_cases h with ⟨hv, rfl, rfl⟩ | ⟨hw, rfl, rfl⟩ | ⟨-, -, rfl, rfl⟩ | ⟨-, -, rfl, rfl⟩
  · exact compare_number_left hv
  · rw [compare_swap, compare_number_left hw, ← compare_swap]
  · rw [compare, compare, primitive_primitive]
  · rw [compare, compare, primitive_primitive]

/-! ### Conversions come to an end -/

theorem conversions_le_one (v : Value) : v.conversions ≤ 1 := by
  unfold conversions
  split <;> decide

/-- A run of conversions is no longer than the conversions its first values can undergo. -/
theorem length_le_conversions {p : Value × Value} {chain : List (Value × Value)}
    (h : List.IsChain (fun p q => convert? p.1 p.2 = some q) (p :: chain)) :
    chain.length ≤ p.1.conversions + p.2.conversions := by
  induction chain generalizing p with
  | nil => exact Nat.zero_le _
  | cons q chain ih =>
      rw [List.isChain_cons_cons] at h
      have hstep := conversions_of_convert? h.1
      have hrest := ih h.2
      rw [List.length_cons]
      omega

/-! ### What is converted -/

theorem isNull_of_convert? (h : convert? v w = some (v', w'))
    (hv : v.isNull = false) (hw : w.isNull = false) :
    v'.isNull = false ∧ w'.isNull = false := by
  have hprimitive {u : Value} (h : u.isComposite = true) : u.primitive.isNull = false := by
    rw [primitive, if_pos h]
    rfl
  rcases convert?_cases h with ⟨-, rfl, rfl⟩ | ⟨-, rfl, rfl⟩ | ⟨hc, -, rfl, rfl⟩ | ⟨hc, -, rfl, rfl⟩
  · exact ⟨rfl, hw⟩
  · exact ⟨hv, rfl⟩
  · exact ⟨hprimitive hc, hw⟩
  · exact ⟨hv, hprimitive hc⟩

/-- After a conversion the values are not both composites. -/
theorem isComposite_of_convert? (h : convert? v w = some (v', w')) :
    (v'.isComposite && w'.isComposite) = false := by
  have hprimitive {u : Value} (h : u.isComposite = true) : u.primitive.isComposite = false := by
    rw [primitive, if_pos h]
    rfl
  rcases convert?_cases h with ⟨-, rfl, rfl⟩ | ⟨-, rfl, rfl⟩ | ⟨hc, -, rfl, rfl⟩ | ⟨hc, -, rfl, rfl⟩
  · rfl
  · exact Bool.and_false _
  · rw [hprimitive hc, Bool.false_and]
  · rw [hprimitive hc, Bool.and_false]

/-! ### Loose equality -/

theorem kind_of_typeName_eq (h : v.typeName = w.typeName) :
    v.isNull = w.isNull ∧ v.isComposite = w.isComposite := by
  cases v
  all_goals
    cases w
    all_goals first
      | exact ⟨rfl, rfl⟩
      | simp [typeName] at h

theorem exists_one_eq :
    ∃ h : Representable Number.unit, Number.one = .finite false Number.unit h := by
  have h : Representable (1 * Number.unit) := Number.representable_mul_unit (by decide)
  rw [Nat.one_mul] at h
  refine ⟨h, ?_⟩
  rw [Number.one, Number.ofNat, Nat.one_mul, Number.ofUnits_exact h]

theorem compare_boolean_iff {a b : Bool} :
    compare (boolean a) (boolean b) = some .eq ↔ a = b := by
  obtain ⟨hunit, hone⟩ := exists_one_eq
  have hfalse : (boolean false).toNumber = Number.zero := rfl
  have htrue : (boolean true).toNumber = .finite false Number.unit hunit := by
    rw [toNumber, if_pos rfl, hone]
  have hpos := Number.unit_pos
  have hdistinct : (Number.unit : Int) ≠ (0 : Nat) := by omega
  change (boolean a).toNumber.compare (boolean b).toNumber = _ ↔ _
  cases a with
  | false =>
      cases b with
      | false =>
          rw [hfalse, Number.zero, Number.compare_finite_iff]
          exact iff_of_true rfl rfl
      | true =>
          rw [hfalse, htrue, Number.zero, Number.compare_finite_iff, Number.scaled, Number.scaled]
          exact iff_of_false hdistinct.symm Bool.false_ne_true
  | true =>
      cases b with
      | false =>
          rw [hfalse, htrue, Number.zero, Number.compare_finite_iff, Number.scaled, Number.scaled]
          exact iff_of_false hdistinct Bool.false_ne_true.symm
      | true =>
          rw [htrue, Number.compare_finite_iff]
          exact iff_of_true rfl rfl

theorem strictEq_iff_compare (hv : v.isNull = false) (hc : v.isComposite = false)
    (htype : v.typeName = w.typeName) : strictEq v w = true ↔ compare v w = some .eq := by
  cases v with
  | null => cases hv
  | boolean a =>
      cases w with
      | boolean b => rw [strictEq, beq_iff_eq, compare_boolean_iff]
      | _ => simp [typeName] at htype
  | number x =>
      cases w with
      | number y => exact Number.equals_iff
      | _ => simp [typeName] at htype
  | string s =>
      cases w with
      | string t =>
          change (s == t) = true ↔ some (compareChars s.toList t.toList) = some .eq
          rw [beq_iff_eq, Option.some_inj, compareChars_eq_iff, String.toList_inj]
      | _ => simp [typeName] at htype
  | array => cases hc
  | object => cases hc

theorem numericEq_iff_compare (hv : v.isNull = false) (hw : w.isNull = false)
    (hc : (v.isComposite && w.isComposite) = false) (htype : v.typeName ≠ w.typeName)
    (hconvert : convert? v w = none) : numericEq v w = true ↔ compare v w = some .eq := by
  cases v with
  | null => cases hv
  | boolean => cases hconvert
  | number x =>
      cases w with
      | null => cases hw
      | number => exact absurd rfl htype
      | string => exact Number.equals_iff
      | _ => cases hconvert
  | string s =>
      cases w with
      | null => cases hw
      | number => exact Number.equals_iff
      | string => exact absurd rfl htype
      | _ => cases hconvert
  | array =>
      cases w with
      | null => cases hw
      | array => cases hc
      | object => cases hc
      | _ => cases hconvert
  | object =>
      cases w with
      | null => cases hw
      | array => cases hc
      | object => cases hc
      | _ => cases hconvert

/-- Values of which neither is null and not both are composites are loosely equal exactly where
the order calls them equal. -/
theorem looseEq_iff_compare (hv : v.isNull = false) (hw : w.isNull = false)
    (hc : (v.isComposite && w.isComposite) = false) :
    looseEq v w = true ↔ compare v w = some .eq := by
  induction v, w using looseEq.induct with
  | case1 v w hnull => simp [hv, hw] at hnull
  | case2 v w hnull htype =>
      rw [looseEq, if_neg hnull, if_pos htype]
      rw [← (kind_of_typeName_eq htype).2, Bool.and_self] at hc
      exact strictEq_iff_compare hv hc htype
  | case3 v w hnull htype v' w' hconvert ih =>
      obtain ⟨hv', hw'⟩ := isNull_of_convert? hconvert hv hw
      rw [looseEq, if_neg hnull, if_neg htype, ← compare_of_convert? hconvert,
        ← ih hv' hw' (isComposite_of_convert? hconvert)]
      split
      · next heq =>
          rw [hconvert] at heq
          cases heq
          rfl
      · next heq =>
          rw [hconvert] at heq
          cases heq
  | case4 v w hnull htype hconvert =>
      rw [looseEq, if_neg hnull, if_neg htype, ← numericEq_iff_compare hv hw hc htype hconvert]
      split
      · next heq =>
          rw [hconvert] at heq
          cases heq
      · rfl

theorem looseEq_of_null (h : (v.isNull || w.isNull) = true) :
    looseEq v w = (v.isNull && w.isNull) := by
  rw [looseEq, if_pos h]

theorem cases_of_isComposite (h : v.isComposite = true) :
    (∃ items, v = array items) ∨ ∃ fields, v = object fields := by
  cases v with
  | array items => exact .inl ⟨items, rfl⟩
  | object fields => exact .inr ⟨fields, rfl⟩
  | _ => cases h

/-- Nothing is converted between two composites. -/
theorem looseEq_of_composites (hv : v.isComposite = true) (hw : w.isComposite = true) :
    looseEq v w = strictEq v w := by
  rcases cases_of_isComposite hv with ⟨items, rfl⟩ | ⟨fields, rfl⟩
  all_goals
    rcases cases_of_isComposite hw with ⟨others, rfl⟩ | ⟨others, rfl⟩
    all_goals
      rw [looseEq]
      rfl

theorem looseEq_of_strictEq (h : strictEq v w = true) : looseEq v w = true := by
  have htype := typeName_eq_of_strictEq h
  by_cases hnull : (v.isNull || w.isNull) = true
  · rw [looseEq_of_null hnull]
    rw [(kind_of_typeName_eq htype).1] at hnull ⊢
    rwa [Bool.or_self, ← Bool.and_self w.isNull] at hnull
  · rw [looseEq, if_neg hnull, if_pos htype, h]

/-- Loose equality is symmetric where no object has a key twice. -/
theorem looseEq_comm (hv : v.Keyed) (hw : w.Keyed) : looseEq v w = looseEq w v := by
  by_cases hnull : (v.isNull || w.isNull) = true
  · rw [looseEq_of_null hnull, looseEq_of_null (by rwa [Bool.or_comm]), Bool.and_comm]
  by_cases hc : (v.isComposite && w.isComposite) = true
  · obtain ⟨hvc, hwc⟩ := Bool.and_eq_true_iff.mp hc
    rw [looseEq_of_composites hvc hwc, looseEq_of_composites hwc hvc, strictEq_comm hv hw]
  · obtain ⟨hvn, hwn⟩ := Bool.or_eq_false_iff.mp (Bool.eq_false_iff.mpr hnull)
    have hvw := Bool.eq_false_iff.mpr hc
    have hwv : (w.isComposite && v.isComposite) = false := by rwa [Bool.and_comm]
    rw [Bool.eq_iff_iff, looseEq_iff_compare hvn hwn hvw, looseEq_iff_compare hwn hvn hwv,
      compare_swap v w]
    cases compare v w with
    | none => simp
    | some order => cases order <;> simp

/-! ### The operators -/

theorem less_eq_greater (v w : Value) :
    BinaryOp.less.apply v w = BinaryOp.greater.apply w v := by
  rw [BinaryOp.apply, BinaryOp.apply, compare_swap v w]
  rcases compare v w with _ | _ | _ | _ <;> rfl

theorem lessEqual_eq_greaterEqual (v w : Value) :
    BinaryOp.lessEqual.apply v w = BinaryOp.greaterEqual.apply w v := by
  rw [BinaryOp.apply, BinaryOp.apply, compare_swap v w]
  rcases compare v w with _ | _ | _ | _ <;> rfl

theorem compare_eq_iff_apply (v w : Value) :
    compare v w = some .eq ↔
      BinaryOp.lessEqual.apply v w = boolean true ∧
        BinaryOp.greaterEqual.apply v w = boolean true := by
  rw [BinaryOp.apply, BinaryOp.apply]
  rcases compare v w with _ | _ | _ | _ <;> simp

/-- Loose equality agrees with the order.  The pairs that it goes through, each the conversion of
the one before, are at most three.  It is symmetric, as no object has a key twice, and follows from
strict equality.  The order of two values is reversed with them, and so are the operators.  Where
neither value is null and not both are composites, loose equality is equality in the order, that is
being at most and at least the other one. -/
theorem loose_equality_agrees_with_order :
    (∀ chain : List (Value × Value),
      List.IsChain (fun p q => convert? p.1 p.2 = some q) chain → chain.length ≤ 3) ∧
    ∀ v w : Value,
      (v.Keyed → w.Keyed → looseEq v w = looseEq w v) ∧
      (strictEq v w = true → looseEq v w = true) ∧
      compare w v = (compare v w).map Ordering.swap ∧
      BinaryOp.less.apply v w = BinaryOp.greater.apply w v ∧
      BinaryOp.lessEqual.apply v w = BinaryOp.greaterEqual.apply w v ∧
      (v.isNull = false → w.isNull = false → (v.isComposite && w.isComposite) = false →
        (looseEq v w = true ↔ compare v w = some .eq) ∧
        (looseEq v w = true ↔
          BinaryOp.lessEqual.apply v w = boolean true ∧
            BinaryOp.greaterEqual.apply v w = boolean true)) := by
  constructor
  · intro chain h
    cases chain with
    | nil => exact Nat.zero_le 3
    | cons p chain =>
        have hlength := length_le_conversions h
        have hleft := conversions_le_one p.1
        have hright := conversions_le_one p.2
        rw [List.length_cons]
        omega
  · intro v w
    refine ⟨looseEq_comm, looseEq_of_strictEq, compare_swap v w, less_eq_greater v w,
      lessEqual_eq_greaterEqual v w, ?_⟩
    intro hv hw hc
    have horder := looseEq_iff_compare hv hw hc
    exact ⟨horder, horder.trans (compare_eq_iff_apply v w)⟩

theorem empty_array_loosely_equals_false :
    [(array [], boolean false), (array [], number .zero), (string "", number .zero)].length ≤ 3 ∧
      looseEq (array []) (boolean false) = looseEq (boolean false) (array []) ∧
      looseEq (array []) (array []) = true ∧
      looseEq (array []) (boolean false) = true := by
  refine ⟨loose_equality_agrees_with_order.1 _ ?_,
    (loose_equality_agrees_with_order.2 _ _).1 ?_ (.boolean false),
    (loose_equality_agrees_with_order.2 _ _).2.1 rfl,
    ((loose_equality_agrees_with_order.2 _ _).2.2.2.2.2 rfl rfl rfl).1.mpr ?_⟩
  · exact .cons_cons rfl (.cons_cons rfl (.singleton _))
  · exact .array (fun item hitem => absurd hitem List.not_mem_nil)
  · rfl

end Value
end Guest
