import Guest.Expr.Script
import Guest.Value.Access
import Mathlib.Data.List.Nodup

/-!
# Objects without a repeated key

An object is stored as the list of its fields.  In the values of the language no key stands twice
in such a list, at any depth; then looking a key up finds its field, and setting each key in turn
gives the list back.
-/

namespace Guest

namespace Fields

variable {fields entries : Fields} {key : String} {v : Value}

/-- No key stands twice. -/
def Distinct (fields : Fields) : Prop := (fields.map Prod.fst).Nodup

instance (fields : Fields) : Decidable fields.Distinct := inferInstanceAs (Decidable (List.Nodup _))

theorem find?_of_mem (hfields : fields.Distinct) (h : (key, v) ∈ fields) :
    find? fields key = some v := by
  induction fields with
  | nil => cases h
  | cons field rest ih =>
      obtain ⟨name, value⟩ := field
      obtain ⟨hname, hrest⟩ := List.nodup_cons.mp hfields
      rw [find?]
      rcases List.mem_cons.mp h with heq | hmem
      · cases heq
        exact if_pos rfl
      · have hne : name ≠ key := by
          rintro rfl
          exact hname (List.mem_map.mpr ⟨_, hmem, rfl⟩)
        rw [if_neg hne]
        exact ih hrest hmem

theorem insert_of_not_mem (h : key ∉ fields.map Prod.fst) :
    insert fields key v = fields ++ [(key, v)] := by
  induction fields with
  | nil => rfl
  | cons field rest ih =>
      obtain ⟨name, value⟩ := field
      have hname : name ≠ key := fun heq => h (heq ▸ List.mem_cons_self)
      have hrest : key ∉ rest.map Prod.fst := fun hmem => h (List.mem_cons_of_mem _ hmem)
      rw [insert, if_neg hname, ih hrest, List.cons_append]

theorem mem_keys_insert {other : String} :
    other ∈ (insert fields key v).map Prod.fst ↔ other ∈ fields.map Prod.fst ∨ other = key := by
  induction fields with
  | nil => simp [insert]
  | cons field rest ih =>
      obtain ⟨name, value⟩ := field
      rw [insert]
      split
      · next heq => simp [heq, or_comm]
      · rw [List.map_cons, List.mem_cons, ih, List.map_cons, List.mem_cons, or_assoc]

/-- Setting a key keeps the keys distinct. -/
theorem Distinct.insert (h : fields.Distinct) : Distinct (insert fields key v) := by
  induction fields with
  | nil => exact List.nodup_singleton key
  | cons field rest ih =>
      obtain ⟨name, value⟩ := field
      obtain ⟨hname, hrest⟩ := List.nodup_cons.mp h
      rw [Fields.insert]
      split
      · exact h
      · next hne =>
          refine List.nodup_cons.mpr ⟨?_, ih hrest⟩
          intro hmem
          rcases mem_keys_insert.mp hmem with hold | hnew
          · exact hname hold
          · exact hne hnew

theorem Distinct.insertAll (h : fields.Distinct) : Distinct (insertAll fields entries) := by
  induction entries generalizing fields with
  | nil => exact h
  | cons entry rest ih => exact ih h.insert

theorem mem_insert {field : String × Value} (h : field ∈ insert fields key v) :
    field ∈ fields ∨ field.2 = v := by
  induction fields with
  | nil =>
      rw [List.mem_singleton.mp h]
      exact .inr rfl
  | cons old rest ih =>
      obtain ⟨name, value⟩ := old
      rw [insert] at h
      split at h
      · rcases List.mem_cons.mp h with rfl | hrest
        · exact .inr rfl
        · exact .inl (List.mem_cons_of_mem _ hrest)
      · rcases List.mem_cons.mp h with rfl | hrest
        · exact .inl List.mem_cons_self
        · exact (ih hrest).imp_left (List.mem_cons_of_mem _)

/-- A property of all values of a list and of an object holds of the values in the object. -/
theorem forall_insertAll {p : Value → Prop} (hfields : ∀ field ∈ fields, p field.2)
    (hentries : ∀ entry ∈ entries, p entry.2) : ∀ field ∈ insertAll fields entries, p field.2 := by
  induction entries generalizing fields with
  | nil => exact hfields
  | cons entry rest ih =>
      obtain ⟨hentry, hrest⟩ := List.forall_mem_cons.mp hentries
      apply ih _ hrest
      intro field hfield
      rcases mem_insert hfield with hold | hnew
      · exact hfields field hold
      · exact hnew ▸ hentry

theorem mem_of_find? (h : find? fields key = some v) : (key, v) ∈ fields := by
  induction fields with
  | nil => cases h
  | cons field rest ih =>
      obtain ⟨name, value⟩ := field
      rw [find?] at h
      split at h
      · next heq =>
          cases h
          exact heq ▸ List.mem_cons_self
      · exact List.mem_cons_of_mem _ (ih h)

theorem insertAll_append (h : Distinct (fields ++ entries)) :
    insertAll fields entries = fields ++ entries := by
  induction entries generalizing fields with
  | nil => exact (List.append_nil _).symm
  | cons entry rest ih =>
      obtain ⟨key, v⟩ := entry
      have hkey : key ∉ fields.map Prod.fst := by
        unfold Distinct at h
        rw [List.map_append] at h
        intro hmem
        exact List.disjoint_of_nodup_append h hmem (List.mem_cons_self ..)
      have hrest : Distinct (fields ++ [(key, v)] ++ rest) := by
        rw [List.append_assoc]
        exact h
      calc insertAll fields ((key, v) :: rest)
          = insertAll (insert fields key v) rest := rfl
        _ = fields ++ [(key, v)] ++ rest := by rw [insert_of_not_mem hkey, ih hrest]
        _ = fields ++ (key, v) :: rest := List.append_assoc _ _ _

/-- Setting the keys of a list in turn gives the list. -/
theorem insertAll_nil (h : entries.Distinct) : insertAll [] entries = entries :=
  insertAll_append h

end Fields

namespace Value

/-- The objects of a value have no key twice, at any depth. -/
inductive Keyed : Value → Prop where
  | null :
      Keyed .null
  | boolean (b : Bool) :
      Keyed (.boolean b)
  | number (x : Number) :
      Keyed (.number x)
  | string (s : String) :
      Keyed (.string s)
  | array {items : List Value} :
      (∀ item ∈ items, Keyed item) → Keyed (.array items)
  | object {fields : Fields} :
      fields.Distinct → (∀ field ∈ fields, Keyed field.2) → Keyed (.object fields)

variable {v w : Value}

theorem keyed_insertAll {entries : Fields} (h : ∀ entry ∈ entries, entry.2.Keyed) :
    (object (Fields.insertAll [] entries)).Keyed :=
  .object (Fields.Distinct.insertAll List.nodup_nil)
    (Fields.forall_insertAll (List.forall_mem_nil _) h)

/-! ## Operations -/

theorem keyed_unary (op : UnaryOp) : (op.apply v).Keyed := by
  cases op
  all_goals first
    | exact .number _
    | exact .boolean _

theorem keyed_applyAll (ops : List UnaryOp) (h : v.Keyed) :
    (UnaryOp.applyAll ops v).Keyed := by
  cases ops with
  | nil => exact h
  | cons op ops => exact keyed_unary op

theorem keyed_sum : (v.sum w).Keyed := by
  unfold sum
  split
  · exact .string _
  · exact .number _

theorem keyed_binary (op : BinaryOp) (hv : v.Keyed) (hw : w.Keyed) : (op.apply v w).Keyed := by
  cases op with
  | or =>
      rw [BinaryOp.apply]
      split
      · exact hv
      · exact hw
  | and =>
      rw [BinaryOp.apply]
      split
      · exact hw
      · exact hv
  | add => exact keyed_sum
  | _ => first
    | exact .number _
    | exact .boolean _

theorem keyed_select {length : Nat} {item? : Nat → Option Value} {key : Value}
    (h : ∀ i item, item? i = some item → item.Keyed) : (select length item? key).Keyed := by
  unfold select
  split
  · exact .number _
  · cases hitem : (index? key).bind item? with
    | none => exact .null
    | some item =>
        obtain ⟨i, -, hi⟩ := Option.bind_eq_some_iff.mp hitem
        exact h i item hi

/-- A part of a value has no key twice either. -/
theorem keyed_access {target key : Value} (htarget : target.Keyed)
    (h : target.access? key = some v) : v.Keyed := by
  cases htarget with
  | null => cases h
  | boolean b =>
      cases h
      exact .null
  | number x =>
      cases h
      exact .null
  | string s =>
      cases h
      apply keyed_select
      intro i item hi
      obtain ⟨c, -, rfl⟩ := Option.map_eq_some_iff.mp hi
      exact .string _
  | array hitems =>
      cases h
      apply keyed_select
      intro i item hi
      exact hitems item (List.mem_of_getElem? hi)
  | @object fields hdistinct hfields =>
      cases h
      cases hfind : Fields.find? fields key.text with
      | none => exact .null
      | some found => exact hfields _ (Fields.mem_of_find? hfind)

end Value
end Guest
