import Guest.Value.Basic

/-!
# Equality and order of values

Strict equality compares within one type, arrays and objects by their contents.  Loose equality
converts values of different types step by step: booleans to numbers, composites to texts, and a
text against a number is read as a number.  The order compares two texts by characters and all else
as numbers.
-/

namespace Guest

namespace Value

mutual

/-- Equality of type and contents; the order of an object's keys does not matter. -/
def strictEq : Value → Value → Bool
  | null, null => true
  | boolean a, boolean b => a == b
  | number x, number y => x.equals y
  | string s, string t => s == t
  | array xs, array ys => itemsEq xs ys
  | object fields, object others =>
    fields.length == others.length && fieldsEq fields others
  | _, _ => false

/-- Two lists have equal items, pair by pair. -/
def itemsEq : List Value → List Value → Bool
  | [], [] => true
  | x :: xs, y :: ys => strictEq x y && itemsEq xs ys
  | _, _ => false

/-- Every field is found with an equal value among the others. -/
def fieldsEq : List (String × Value) → List (String × Value) → Bool
  | [], _ => true
  | (key, value) :: rest, others =>
    (match Fields.find? others key with
      | some other => strictEq value other
      | none => false) && fieldsEq rest others

end

/-- Arrays and objects become their text; all else stays. -/
def primitive (v : Value) : Value := if v.isComposite then string v.text else v

/-- Tells booleans. -/
def isBoolean : Value → Bool
  | boolean _ => true
  | _ => false

/-- The next form of two values on the way to a common type: a boolean becomes a number, and only
then an array or an object becomes its text where it stands against neither of them. -/
def convert? (v w : Value) : Option (Value × Value) :=
  if v.isBoolean then some (number v.toNumber, w)
  else if w.isBoolean then some (v, number w.toNumber)
  else if v.isComposite && !w.isComposite then some (v.primitive, w)
  else if w.isComposite && !v.isComposite then some (v, w.primitive)
  else none

/-- A conversion changes one side: a boolean, or a composite that stands against no other one. -/
theorem convert?_cases {v w v' w' : Value} (h : convert? v w = some (v', w')) :
    (v.isBoolean = true ∧ v' = number v.toNumber ∧ w' = w) ∨
    (w.isBoolean = true ∧ v' = v ∧ w' = number w.toNumber) ∨
    (v.isComposite = true ∧ w.isComposite = false ∧ v' = v.primitive ∧ w' = w) ∨
    (w.isComposite = true ∧ v.isComposite = false ∧ v' = v ∧ w' = w.primitive) := by
  have hside {a b : Value} (h : (a.isComposite && !b.isComposite) = true) :
      a.isComposite = true ∧ b.isComposite = false := by
    rwa [Bool.and_eq_true, Bool.not_eq_true'] at h
  unfold convert? at h
  split at h
  · next hv =>
      cases h
      exact .inl ⟨hv, rfl, rfl⟩
  split at h
  · next hw =>
      cases h
      exact .inr (.inl ⟨hw, rfl, rfl⟩)
  split at h
  · next hv =>
      cases h
      exact .inr (.inr (.inl ⟨(hside hv).1, (hside hv).2, rfl, rfl⟩))
  split at h
  · next hw =>
      cases h
      exact .inr (.inr (.inr ⟨(hside hw).1, (hside hw).2, rfl, rfl⟩))
  · cases h

/-- How many conversions a value can undergo. -/
def conversions (v : Value) : Nat := if v.isBoolean || v.isComposite then 1 else 0

theorem conversions_of_isBoolean {v : Value} (h : v.isBoolean = true) : v.conversions = 1 :=
  if_pos (by rw [h, Bool.true_or])

theorem conversions_of_isComposite {v : Value} (h : v.isComposite = true) : v.conversions = 1 :=
  if_pos (by rw [h, Bool.or_true])

theorem conversions_primitive {v : Value} (h : v.isComposite = true) :
    v.primitive.conversions = 0 := by
  rw [primitive, if_pos h]
  rfl

theorem conversions_of_convert? {v w v' w' : Value} (h : convert? v w = some (v', w')) :
    v'.conversions + w'.conversions + 1 = v.conversions + w.conversions := by
  have hnumber (x : Number) : (number x).conversions = 0 := rfl
  rcases convert?_cases h with
    ⟨hv, rfl, rfl⟩ | ⟨hw, rfl, rfl⟩ | ⟨hv, -, rfl, rfl⟩ | ⟨hw, -, rfl, rfl⟩
  · rw [conversions_of_isBoolean hv, hnumber]
    omega
  · rw [conversions_of_isBoolean hw, hnumber]
  · rw [conversions_of_isComposite hv, conversions_primitive hv]
    omega
  · rw [conversions_of_isComposite hw, conversions_primitive hw]

/-- Equality of a number and a text that is read as a number; other values that cannot be converted
differ. -/
def numericEq : Value → Value → Bool
  | number x, string s => x.equals (string s).toNumber
  | string s, number y => (string s).toNumber.equals y
  | _, _ => false

/-- Equality after conversion.  Null equals null alone, values of one type are compared strictly,
and all others are converted step by step. -/
def looseEq (v w : Value) : Bool :=
  if v.isNull || w.isNull then v.isNull && w.isNull
  else if v.typeName = w.typeName then strictEq v w
  else
    match _h : convert? v w with
    | some (v', w') => looseEq v' w'
    | none => numericEq v w
termination_by v.conversions + w.conversions
decreasing_by exact Nat.lt_of_succ_le (Nat.le_of_eq (conversions_of_convert? _h))

/-- The order of texts by code points. -/
def compareChars : List Char → List Char → Ordering
  | [], [] => .eq
  | [], _ :: _ => .lt
  | _ :: _, [] => .gt
  | c :: s, d :: t =>
    if c.toNat < d.toNat then .lt else if d.toNat < c.toNat then .gt else compareChars s t

/-- The order of values that are not composite. -/
def compareScalars : Value → Value → Option Ordering
  | string s, string t => some (compareChars s.toList t.toList)
  | v, w => v.toNumber.compare w.toNumber

/-- The order of values; there is none where a side is not a number. -/
def compare (v w : Value) : Option Ordering := compareScalars v.primitive w.primitive

end Value

end Guest
