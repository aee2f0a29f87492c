import Guest.Proofs.Number.RoundTrip
import Guest.Proofs.Value.Keyed
import Mathlib.Data.List.Perm.Subperm

/-!
# Strict equality

Arrays are equal item by item.  For objects only the fields of the left one are looked up in the
right one, and their numbers are compared; as no key stands twice, the right one has no other keys,
so strict equality is symmetric.  It is transitive as well, and it does not see the order of keys;
but a value equals itself only if it contains nothing that is not a number.
-/

namespace Guest

namespace Number

theorem compare_swap (x y : Number) : y.compare x = (x.compare y).map Ordering.swap := by
  cases x with
  | nan => cases y <;> rfl
  | infinite a =>
      cases y with
      | nan => rfl
      | infinite b => cases a <;> cases b <;> rfl
      | finite => cases a <;> rfl
  | finite =>
      cases y with
      | nan => rfl
      | infinite b => cases b <;> rfl
      | finite =>
          rw [compare, compare, Option.map_some]
          exact congrArg some Std.OrientedOrd.eq_swap

/-- Equality up to the sign of zero; what is not a number equals nothing. -/
theorem equals_iff_eq {x y : Number} :
    x.equals y = true ↔ x ≠ .nan ∧ (x = y ∨ x.isZero = true ∧ y.isZero = true) := by
  rw [equals_iff]
  cases x with
  | nan => cases y <;> simp [compare]
  | infinite a =>
      cases y with
      | nan => simp [compare, isZero]
      | infinite b => cases a <;> cases b <;> simp [compare, isZero]
      | finite => cases a <;> simp [compare, isZero]
  | finite a m hm =>
      cases y with
      | nan => simp [compare, isZero]
      | infinite b => cases b <;> simp [compare, isZero]
      | finite b n hn =>
          rw [compare_finite_iff, isZero, isZero, finite.injEq]
          cases a <;> cases b <;> simp [scaled] <;> omega

theorem equals_comm (x y : Number) : x.equals y = y.equals x := by
  rw [Bool.eq_iff_iff, equals_iff, equals_iff, compare_swap y x]
  cases y.compare x with
  | none => simp
  | some order => cases order <;> simp [Ordering.swap]

theorem equals_trans {x y z : Number} (h : x.equals y = true) (h' : y.equals z = true) :
    x.equals z = true := by
  rw [equals_iff_eq] at h h' ⊢
  refine ⟨h.1, ?_⟩
  rcases h.2 with rfl | ⟨hx, hy⟩
  · exact h'.2
  · rcases h'.2 with rfl | ⟨-, hz⟩
    · exact .inr ⟨hx, hy⟩
    · exact .inr ⟨hx, hz⟩

end Number

namespace Value

variable {v w : Value} {xs ys : List Value} {fields others : Fields}

theorem itemsEq_iff :
    itemsEq xs ys = true ↔ List.Forall₂ (fun x y => strictEq x y = true) xs ys := by
  induction xs generalizing ys with
  | nil => cases ys <;> simp [itemsEq]
  | cons x xs ih => cases ys <;> simp [itemsEq, ih]

theorem fieldsEq_iff :
    fieldsEq fields others = true ↔
      ∀ field ∈ fields, ∃ other, Fields.find? others field.1 = some other ∧
        strictEq field.2 other = true := by
  induction fields with
  | nil => simp [fieldsEq]
  | cons field rest ih =>
      obtain ⟨key, value⟩ := field
      rw [fieldsEq, Bool.and_eq_true, ih, List.forall_mem_cons]
      apply and_congr_left
      intro _
      cases Fields.find? others key <;> simp

/-- Where the left object is as long as the right one and has its keys there, the right one has its
keys in the left one. -/
theorem keys_subset (hfields : fields.Distinct) (hlength : fields.length = others.length)
    (h : fields.map Prod.fst ⊆ others.map Prod.fst) :
    others.map Prod.fst ⊆ fields.map Prod.fst := by
  have hle : (others.map Prod.fst).length ≤ (fields.map Prod.fst).length := by
    rw [List.length_map, List.length_map]
    exact Nat.le_of_eq hlength.symm
  exact ((List.subperm_of_subset hfields h).perm_of_length_le hle).symm.subset

theorem itemsEq_symm
    (hsymm : ∀ x ∈ xs, ∀ y ∈ ys, strictEq x y = true → strictEq y x = true)
    (h : itemsEq xs ys = true) : itemsEq ys xs = true := by
  rw [itemsEq_iff] at h ⊢
  induction h with
  | nil => exact .nil
  | cons hfirst _ ih =>
      refine .cons (hsymm _ List.mem_cons_self _ List.mem_cons_self hfirst) (ih ?_)
      intro x hx y hy
      exact hsymm x (List.mem_cons_of_mem _ hx) y (List.mem_cons_of_mem _ hy)

theorem fieldsEq_symm (hfields : fields.Distinct) (hothers : others.Distinct)
    (hlength : fields.length = others.length)
    (hsymm : ∀ field ∈ fields, ∀ other ∈ others,
      strictEq field.2 other.2 = true → strictEq other.2 field.2 = true)
    (h : fieldsEq fields others = true) : fieldsEq others fields = true := by
  rw [fieldsEq_iff] at h ⊢
  have hkeys : fields.map Prod.fst ⊆ others.map Prod.fst := by
    intro key hkey
    obtain ⟨field, hfield, rfl⟩ := List.mem_map.mp hkey
    obtain ⟨other, hfind, -⟩ := h field hfield
    exact List.mem_map.mpr ⟨(field.1, other), Fields.mem_of_find? hfind, rfl⟩
  rintro ⟨key, other⟩ hother
  have hkey : key ∈ fields.map Prod.fst :=
    keys_subset hfields hlength hkeys (List.mem_map.mpr ⟨(key, other), hother, rfl⟩)
  obtain ⟨⟨_, value⟩, hfield, rfl⟩ := List.mem_map.mp hkey
  obtain ⟨found, hfind, heq⟩ := h _ hfield
  obtain rfl : other = found :=
    Option.some.inj ((Fields.find?_of_mem hothers hother).symm.trans hfind)
  exact ⟨value, Fields.find?_of_mem hfields hfield, hsymm _ hfield _ hother heq⟩

theorem strictEq_symm (hv : v.Keyed) (hw : w.Keyed) (h : strictEq v w = true) :
    strictEq w v = true := by
  induction hv generalizing w with
  | null =>
      cases hw with
      | null => rfl
      | _ => cases h
  | boolean a =>
      cases hw with
      | boolean b =>
          rw [strictEq, beq_iff_eq] at h ⊢
          exact h.symm
      | _ => cases h
  | number x =>
      cases hw with
      | number y =>
          rw [strictEq] at h ⊢
          rwa [Number.equals_comm]
      | _ => cases h
  | string s =>
      cases hw with
      | string t =>
          rw [strictEq, beq_iff_eq] at h ⊢
          exact h.symm
      | _ => cases h
  | array _ ih =>
      cases hw with
      | array hitems =>
          rw [strictEq] at h ⊢
          exact itemsEq_symm (fun x hx y hy => ih x hx (hitems y hy)) h
      | _ => cases h
  | object hdistinct _ ih =>
      cases hw with
      | object hothers hkeyed =>
          rw [strictEq, Bool.and_eq_true, beq_iff_eq] at h ⊢
          refine ⟨h.1.symm, fieldsEq_symm hdistinct hothers h.1 ?_ h.2⟩
          intro field hfield other hother
          exact ih field hfield (hkeyed other hother)
      | _ => cases h

/-- Strict equality is symmetric where no object has a key twice. -/
theorem strictEq_comm (hv : v.Keyed) (hw : w.Keyed) : strictEq v w = strictEq w v := by
  rw [Bool.eq_iff_iff]
  exact ⟨strictEq_symm hv hw, strictEq_symm hw hv⟩

/-- Values that are strictly equal are of one type. -/
theorem typeName_eq_of_strictEq (h : strictEq v w = true) : v.typeName = w.typeName := by
  cases v
  all_goals
    cases w
    all_goals first
      | rfl
      | cases h

/-! ## Transitivity -/

theorem itemsEq_trans {zs : List Value}
    (htrans : ∀ x ∈ xs, ∀ y z, strictEq x y = true → strictEq y z = true → strictEq x z = true)
    (h : itemsEq xs ys = true) (h' : itemsEq ys zs = true) : itemsEq xs zs = true := by
  rw [itemsEq_iff] at h h' ⊢
  induction h generalizing zs with
  | nil => exact h'
  | cons hfirst _ ih =>
      cases h' with
      | cons hsecond hrest =>
          refine .cons (htrans _ List.mem_cons_self _ _ hfirst hsecond) (ih ?_ hrest)
          intro x hx
          exact htrans x (List.mem_cons_of_mem _ hx)

theorem fieldsEq_trans {more : Fields}
    (htrans : ∀ field ∈ fields, ∀ y z,
      strictEq field.2 y = true → strictEq y z = true → strictEq field.2 z = true)
    (h : fieldsEq fields others = true) (h' : fieldsEq others more = true) :
    fieldsEq fields more = true := by
  rw [fieldsEq_iff] at h h' ⊢
  intro field hfield
  obtain ⟨other, hother, hfirst⟩ := h field hfield
  obtain ⟨last, hlast, hsecond⟩ := h' _ (Fields.mem_of_find? hother)
  exact ⟨last, hlast, htrans field hfield _ _ hfirst hsecond⟩

theorem strictEq_trans {u : Value} (hu : u.Keyed) (h : strictEq u v = true)
    (h' : strictEq v w = true) : strictEq u w = true := by
  induction hu generalizing v w with
  | null =>
      cases v with
      | null => exact h'
      | _ => cases h
  | boolean a =>
      cases v with
      | boolean b =>
          rw [strictEq, beq_iff_eq] at h
          rwa [h]
      | _ => cases h
  | number x =>
      cases v with
      | number y =>
          cases w with
          | number z =>
              exact Number.equals_trans h h'
          | _ => cases h'
      | _ => cases h
  | string s =>
      cases v with
      | string t =>
          rw [strictEq, beq_iff_eq] at h
          rwa [h]
      | _ => cases h
  | array _ ih =>
      cases v with
      | array ys =>
          cases w with
          | array zs =>
              rw [strictEq] at h h' ⊢
              exact itemsEq_trans (fun x hx y z => ih x hx) h h'
          | _ => cases h'
      | _ => cases h
  | object _ _ ih =>
      cases v with
      | object others =>
          cases w with
          | object more =>
              rw [strictEq, Bool.and_eq_true, beq_iff_eq] at h h' ⊢
              exact ⟨h.1.trans h'.1,
                fieldsEq_trans (fun field hfield y z => ih field hfield) h.2 h'.2⟩
          | _ => cases h'
      | _ => cases h

/-! ## Values that equal themselves -/

/-- Somewhere in the value there is what is not a number. -/
inductive ContainsNaN : Value → Prop where
  | number :
      ContainsNaN (.number .nan)
  | item {items : List Value} {item : Value} :
      item ∈ items → ContainsNaN item → ContainsNaN (.array items)
  | field {fields : Fields} {field : String × Value} :
      field ∈ fields → ContainsNaN field.2 → ContainsNaN (.object fields)

theorem containsNaN_array : (array xs).ContainsNaN ↔ ∃ x ∈ xs, x.ContainsNaN := by
  constructor
  · intro h
    cases h with
    | item hx h => exact ⟨_, hx, h⟩
  · rintro ⟨x, hx, h⟩
    exact .item hx h

theorem containsNaN_object :
    (object fields).ContainsNaN ↔ ∃ field ∈ fields, field.2.ContainsNaN := by
  constructor
  · intro h
    cases h with
    | field hfield h => exact ⟨_, hfield, h⟩
  · rintro ⟨field, hfield, h⟩
    exact .field hfield h

theorem fieldsEq_self_iff (hfields : fields.Distinct) :
    fieldsEq fields fields = true ↔ ∀ field ∈ fields, strictEq field.2 field.2 = true := by
  rw [fieldsEq_iff]
  apply forall₂_congr
  intro field hfield
  rw [Fields.find?_of_mem hfields hfield]
  simp

theorem strictEq_self_iff (hv : v.Keyed) : strictEq v v = true ↔ ¬v.ContainsNaN := by
  induction hv with
  | null => exact iff_of_true rfl nofun
  | boolean b => exact iff_of_true (beq_self_eq_true b) nofun
  | number x =>
      rw [strictEq, Number.equals_iff_eq]
      constructor
      · rintro h ⟨⟩
        exact h.1 rfl
      · intro h
        refine ⟨?_, .inl rfl⟩
        rintro rfl
        exact h .number
  | string s => exact iff_of_true (beq_self_eq_true s) nofun
  | array _ ih =>
      rw [strictEq, itemsEq_iff, List.forall₂_same, containsNaN_array]
      simp only [not_exists, not_and]
      exact forall₂_congr ih
  | object hdistinct _ ih =>
      rw [strictEq, beq_self_eq_true, Bool.true_and, fieldsEq_self_iff hdistinct,
        containsNaN_object]
      simp only [not_exists, not_and]
      exact forall₂_congr ih

/-! ## The order of keys -/

/-- The fields of objects are rearranged, at any depth and any number of times. -/
inductive Rearranged : Value → Value → Prop where
  | refl (v : Value) :
      Rearranged v v
  | trans {u v w : Value} :
      Rearranged u v → Rearranged v w → Rearranged u w
  | fields {fields others : Fields} :
      fields.Perm others → Rearranged (.object fields) (.object others)
  | item (before after : List Value) {v w : Value} :
      Rearranged v w → Rearranged (.array (before ++ v :: after)) (.array (before ++ w :: after))
  | field (before after : Fields) (key : String) {v w : Value} :
      Rearranged v w →
      Rearranged (.object (before ++ (key, v) :: after)) (.object (before ++ (key, w) :: after))

theorem Rearranged.keyed (h : Rearranged v w) (hv : v.Keyed) : w.Keyed := by
  induction h with
  | refl v => exact hv
  | trans _ _ ih ih' => exact ih' (ih hv)
  | fields hperm =>
      cases hv with
      | object hdistinct hfields =>
          refine .object ((hperm.map Prod.fst).nodup_iff.mp hdistinct) ?_
          intro field hfield
          exact hfields field (hperm.mem_iff.mpr hfield)
  | item before after _ ih =>
      cases hv with
      | array hitems =>
          rw [List.forall_mem_append, List.forall_mem_cons] at hitems
          refine .array ?_
          rw [List.forall_mem_append, List.forall_mem_cons]
          exact ⟨hitems.1, ih hitems.2.1, hitems.2.2⟩
  | field before after key _ ih =>
      cases hv with
      | object hdistinct hfields =>
          rw [List.forall_mem_append, List.forall_mem_cons] at hfields
          refine .object ?_ ?_
          · rw [Fields.Distinct, List.map_append, List.map_cons] at hdistinct ⊢
            exact hdistinct
          · rw [List.forall_mem_append, List.forall_mem_cons]
            exact ⟨hfields.1, ih hfields.2.1, hfields.2.2⟩

theorem itemsEq_congr {before after : List Value} (h : ∀ u, strictEq v u = strictEq w u)
    (ys : List Value) : itemsEq (before ++ v :: after) ys = itemsEq (before ++ w :: after) ys := by
  induction before generalizing ys with
  | nil =>
      cases ys with
      | nil => rfl
      | cons y ys => rw [List.nil_append, List.nil_append, itemsEq, itemsEq, h]
  | cons x before ih =>
      cases ys with
      | nil => rfl
      | cons y ys => rw [List.cons_append, List.cons_append, itemsEq, itemsEq, ih]

/-- No side condition is needed on the left: its fields are only gone through. -/
theorem Rearranged.strictEq_left (h : Rearranged v w) (u : Value) :
    strictEq v u = strictEq w u := by
  induction h generalizing u with
  | refl v => rfl
  | trans _ _ ih ih' => exact (ih u).trans (ih' u)
  | fields hperm =>
      cases u with
      | object more =>
          rw [strictEq, strictEq, hperm.length_eq, Bool.eq_iff_iff, Bool.and_eq_true,
            Bool.and_eq_true, fieldsEq_iff, fieldsEq_iff]
          simp only [hperm.mem_iff]
      | _ => rfl
  | item before after _ ih =>
      cases u with
      | array ys =>
          rw [strictEq, strictEq]
          exact itemsEq_congr ih ys
      | _ => rfl
  | field before after key _ ih =>
      cases u with
      | object more =>
          rw [strictEq, strictEq, Bool.eq_iff_iff, Bool.and_eq_true, Bool.and_eq_true,
            fieldsEq_iff, fieldsEq_iff]
          simp only [List.length_append, List.length_cons, List.forall_mem_append,
            List.forall_mem_cons, ih]
      | _ => rfl

/-- The order of keys does not matter, on either side. -/
theorem Rearranged.strictEq_eq {v' w' : Value} (hv : v.Keyed) (hw : w.Keyed)
    (h : Rearranged v v') (h' : Rearranged w w') : strictEq v' w' = strictEq v w := by
  calc strictEq v' w'
      = strictEq v w' := (h.strictEq_left w').symm
    _ = strictEq w' v := strictEq_comm hv (h'.keyed hw)
    _ = strictEq w v := (h'.strictEq_left v).symm
    _ = strictEq v w := strictEq_comm hw hv

/-! ## Strict equality -/

/-- Strict equality is a partial equivalence on the values without a repeated key: it is symmetric
and transitive, and a value equals itself exactly if there is nothing in it that is not a number.
It does not depend on the order of keys at any depth, it never holds between values of different
types, and on numbers it is equality up to the sign of zero. -/
theorem strict_equality_is_partial_equivalence :
    (∀ v w : Value, v.Keyed → w.Keyed → strictEq v w = true → strictEq w v = true) ∧
    (∀ u v w : Value, u.Keyed → v.Keyed → w.Keyed →
      strictEq u v = true → strictEq v w = true → strictEq u w = true) ∧
    (∀ v : Value, v.Keyed → (strictEq v v = true ↔ ¬v.ContainsNaN)) ∧
    (∀ v v' w w' : Value, v.Keyed → w.Keyed → Rearranged v v' → Rearranged w w' →
      strictEq v' w' = strictEq v w) ∧
    (∀ v w : Value, v.typeName ≠ w.typeName → strictEq v w = false) ∧
    ∀ x y : Number, strictEq (number x) (number y) = true ↔
      x ≠ .nan ∧ (x = y ∨ x.isZero = true ∧ y.isZero = true) := by
  refine ⟨?_, ?_, ?_, ?_, ?_, ?_⟩
  · intro v w hv hw h
    exact strictEq_symm hv hw h
  · intro u v w hu _ _ h h'
    exact strictEq_trans hu h h'
  · intro v hv
    exact strictEq_self_iff hv
  · intro v v' w w' hv hw h h'
    exact h.strictEq_eq hv hw h'
  · intro v w hne
    rw [Bool.eq_false_iff]
    intro h
    exact hne (typeName_eq_of_strictEq h)
  · intro x y
    exact Number.equals_iff_eq

theorem nested_objects_are_equal_in_any_order :
    let zeros := array [object [("a", .number .zero), ("b", .null)]]
    let signed := array [object [("b", .null), ("a", .number .negZero)]]
    strictEq zeros signed = true ∧ strictEq signed zeros = true ∧ strictEq signed signed = true ∧
      strictEq (array [object [("b", .null), ("a", .number .zero)]]) signed = true ∧
      strictEq (array [.number .nan]) (array [.number .nan]) = false ∧
      strictEq zeros .null = false := by
  intro zeros signed
  obtain ⟨hsymm, htrans, hself, hrearranged, htypes, -⟩ := strict_equality_is_partial_equivalence
  have hkeyed {fields : Fields} (hdistinct : fields.Distinct)
      (hfields : ∀ field ∈ fields, field.2.Keyed) : (array [object fields]).Keyed :=
    .array (List.forall_mem_singleton.mpr (.object hdistinct hfields))
  have hzeros : zeros.Keyed := hkeyed (by decide) (by simp [Keyed.number, Keyed.null])
  have hsigned : signed.Keyed := hkeyed (by decide) (by simp [Keyed.number, Keyed.null])
  have hnan : (array [number .nan]).Keyed := .array (by simp [Keyed.number])
  have heq : strictEq zeros signed = true := by decide
  have heq' : strictEq signed zeros = true := hsymm _ _ hzeros hsigned heq
  refine ⟨heq, heq', htrans _ _ _ hsigned hzeros hsigned heq' heq, ?_, ?_, ?_⟩
  · have hmoved : Rearranged zeros (array [object [("b", .null), ("a", .number .zero)]]) :=
      .item [] [] (.fields (.swap _ _ _))
    rw [hrearranged _ _ _ _ hzeros hsigned hmoved (.refl signed)]
    exact heq
  · rw [Bool.eq_false_iff]
    intro h
    exact (hself _ hnan).mp h (.item List.mem_cons_self .number)
  · exact htypes _ _ (by decide)

end Value
end Guest
