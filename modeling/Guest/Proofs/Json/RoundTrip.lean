import Guest.Proofs.Json.Compact
import Guest.Proofs.Json.Conversion

/-!
# Reading the JSON texts of a value

A reader that converts numerals to the nearest numbers reads both texts of a value as the value,
with null for the numbers that have no JSON form and zeros without their signs.  The reader of the
program has a conversion of its own: it reads the value with whatever numbers this conversion
makes, which are the same ones if the numerals are simple.
-/

namespace Guest

/-- A conversion of numerals that finds the nearest number wherever it is finite. -/
def JsonNumeral.Nearest (number? : JsonNumeral → Option Number) : Prop :=
  ∀ n : JsonNumeral, n.nearest.isFinite = true → number? n = some n.nearest

namespace Value

mutual

/-- The numbers in a value. -/
def numbers : Value → List Number
  | null => []
  | boolean _ => []
  | number x => [x]
  | string _ => []
  | array items => itemNumbers items
  | object fields => fieldNumbers fields

/-- The numbers in the items of an array. -/
def itemNumbers : List Value → List Number
  | [] => []
  | item :: rest => numbers item ++ itemNumbers rest

/-- The numbers in the fields of an object. -/
def fieldNumbers : List (String × Value) → List Number
  | [] => []
  | (_, value) :: rest => numbers value ++ fieldNumbers rest

end

theorem fieldsWithoutNonFinite_keys (fields : Fields) :
    (fieldsWithoutNonFinite fields).map Prod.fst = fields.map Prod.fst := by
  induction fields with
  | nil => rfl
  | cons field rest ih => rw [fieldsWithoutNonFinite, List.map_cons, List.map_cons, ih]

/-! ## The value of the tree -/

/-- The finite numbers among these are converted back to themselves, apart from the sign of a
zero. -/
def Restores (number? : JsonNumeral → Option Number) (numbers : List Number) : Prop :=
  ∀ x ∈ numbers, x.isFinite = true →
    number? x.numeral = some (if x = .negZero then .zero else x)

variable {number? : JsonNumeral → Option Number}

theorem Restores.append {xs ys : List Number} (h : Restores number? (xs ++ ys)) :
    Restores number? xs ∧ Restores number? ys :=
  List.forall_mem_append.mp h

theorem restores_of_nearest (h : JsonNumeral.Nearest number?) (xs : List Number) :
    Restores number? xs := by
  intro x _ hx
  have hnearest := Number.nearest_numeral hx
  have hfinite : x.numeral.nearest.isFinite = true := by
    rw [hnearest]
    split
    · rfl
    · exact hx
  rw [h x.numeral hfinite, hnearest]

theorem restores_of_simple {xs : List Number}
    (h : ∀ x ∈ xs, x.isFinite = true → x.numeral.Simple) :
    Restores JsonNumeral.value? xs := by
  intro x hmem hx
  rw [JsonNumeral.value?_of_simple (Number.numeralText_numeral hx) (h x hmem hx),
    Number.nearest_numeral hx]

mutual

/-- A conversion that restores the numbers of a value restores the value. -/
theorem value?_jsonTree : ∀ v : Value, v.Keyed → Restores number? v.numbers →
    v.jsonTree.value? number? = some v.withoutNonFinite.unsigned
  | null, _, _ => rfl
  | boolean _, _, _ => rfl
  | string _, _, _ => rfl
  | number x, _, h => by
      rw [jsonTree, withoutNonFinite]
      split
      · next hx =>
          rw [JsonTree.value?, h x List.mem_cons_self hx]
          rfl
      · rfl
  | array items, .array hitems, h => by
      rw [jsonTree, JsonTree.value?, itemValues?_itemTrees items hitems h]
      rfl
  | object fields, .object hdistinct hfields, h => by
      have hkeys : Fields.Distinct (unsignedFields (fieldsWithoutNonFinite fields)) := by
        rw [Fields.Distinct, unsignedFields_keys, fieldsWithoutNonFinite_keys]
        exact hdistinct
      rw [jsonTree, JsonTree.value?, fieldValues?_fieldTrees fields hfields h, Option.map_some,
        Fields.insertAll_nil hkeys]
      rfl

theorem itemValues?_itemTrees :
    ∀ items : List Value, (∀ item ∈ items, item.Keyed) → Restores number? (itemNumbers items) →
      JsonTree.itemValues? number? (itemTrees items) =
        some (unsignedItems (itemsWithoutNonFinite items))
  | [], _, _ => rfl
  | item :: rest, hitems, h => by
      obtain ⟨hitem, hrest⟩ := List.forall_mem_cons.mp hitems
      obtain ⟨hnumbers, hmore⟩ := h.append
      rw [itemTrees, JsonTree.itemValues?, value?_jsonTree item hitem hnumbers,
        itemValues?_itemTrees rest hrest hmore]
      rfl

theorem fieldValues?_fieldTrees :
    ∀ fields : List (String × Value), (∀ field ∈ fields, field.2.Keyed) →
      Restores number? (fieldNumbers fields) →
      JsonTree.fieldValues? number? (fieldTrees fields) =
        some (unsignedFields (fieldsWithoutNonFinite fields))
  | [], _, _ => rfl
  | (key, value) :: rest, hfields, h => by
      obtain ⟨hvalue, hrest⟩ := List.forall_mem_cons.mp hfields
      obtain ⟨hnumbers, hmore⟩ := h.append
      rw [fieldTrees, JsonTree.fieldValues?, value?_jsonTree value hvalue hnumbers,
        fieldValues?_fieldTrees rest hrest hmore]
      rfl

end

/-! ## Reading back -/

open JsonText (ElementText NoControl compress readWithin read mostNesting)

theorem exists_layout_of_mem {v : Value} {text : String} (h : text ∈ [v.json, v.jsonIndented]) :
    ∃ layout, text.toList = JsonText.write layout v := by
  rcases List.mem_cons.mp h with rfl | h
  · exact ⟨.compact, String.toList_ofList⟩
  · rw [List.mem_singleton.mp h]
    exact ⟨.indented 0, String.toList_ofList⟩

/-- Both texts of a value are JSON, with the same tree.  Within its limit of nesting a reader gives
the value of this tree, its numerals converted in the reader's own way.  This is the value itself
with null for numbers that are not finite and with unsigned zeros, where the conversion finds the
nearest numbers, and in the reader of the program where the numerals are simple.  The compact text
has no control character, and it is the indented one without the whitespace outside of strings. -/
theorem read_json {v : Value} (hv : v.Keyed) :
    (∀ text ∈ [v.json, v.jsonIndented],
      ElementText text.toList v.jsonTree ∧
      (∀ number? nesting, v.jsonTree.nesting ≤ nesting →
        readWithin number? nesting text.toList = v.jsonTree.value? number? ∧
        (JsonNumeral.Nearest number? →
          readWithin number? nesting text.toList = some v.withoutNonFinite.unsigned)) ∧
      (v.jsonTree.nesting ≤ mostNesting →
        read text.toList = v.jsonTree.value? JsonNumeral.value? ∧
        ((∀ x ∈ v.numbers, x.isFinite = true → x.numeral.Simple) →
          read text.toList = some v.withoutNonFinite.unsigned))) ∧
    NoControl v.json.toList ∧
    compress .outside v.jsonIndented.toList = v.json.toList := by
  refine ⟨?_, ?_, ?_⟩
  · intro text htext
    obtain ⟨layout, hlayout⟩ := exists_layout_of_mem htext
    have helement : ElementText text.toList v.jsonTree := by
      rw [hlayout]
      exact JsonText.elementText_write layout v
    refine ⟨helement, ?_, ?_⟩
    · intro number? nesting hnesting
      have hread : readWithin number? nesting text.toList = v.jsonTree.value? number? :=
        JsonText.readWithin_elementText helement hnesting
      refine ⟨hread, ?_⟩
      intro hnearest
      exact hread.trans (value?_jsonTree v hv (restores_of_nearest hnearest _))
    · intro hnesting
      have hread : read text.toList = v.jsonTree.value? JsonNumeral.value? :=
        JsonText.readWithin_elementText helement hnesting
      refine ⟨hread, ?_⟩
      intro hsimple
      exact hread.trans (value?_jsonTree v hv (restores_of_simple hsimple))
  · rw [json, String.toList_ofList]
    exact JsonText.noControl_write v
  · have hcompress := JsonText.compress_write (.indented 0) v []
    rw [json, jsonIndented, String.toList_ofList, String.toList_ofList]
    simpa [compress] using hcompress

/-- An escaped key, a zero with a sign, a number without a JSON form and a fraction. -/
theorem read_json_nested :
    let v : Value := .object
      [("a\n\"", .array [.number .negZero, .number .nan, .number (.ofDecimal false 15 (-1))]),
        ("", .string "\x07")]
    let u : Value := .object
      [("a\n\"", .array [.number .zero, .null, .number (.ofDecimal false 15 (-1))]),
        ("", .string "\x07")]
    v.Keyed ∧ v.json = "\x7b\"a\\n\\\"\":[0,null,1.5],\"\":\"\\u0007\"\x7d" ∧
      readWithin (fun n => some n.nearest) 2 v.jsonIndented.toList = some u ∧
      read v.json.toList = some u := by
  intro v u
  have hitems : ∀ item ∈ [number .negZero, number .nan, number (.ofDecimal false 15 (-1))],
      item.Keyed := by
    simp [Keyed.number]
  have hkeyed : v.Keyed := by
    refine .object (by decide) (List.forall_mem_cons.mpr ⟨.array hitems, ?_⟩)
    exact List.forall_mem_singleton.mpr (.string _)
  have hfinite : (Number.ofDecimal false 15 (-1)).isFinite = true := by decide +kernel
  have hnonzero : Number.ofDecimal false 15 (-1) ≠ .negZero := by decide +kernel
  have hzero : Number.negZero.isFinite = true := rfl
  have hnan : Number.nan.isFinite = false := rfl
  have hvalue : v.withoutNonFinite.unsigned = u := by
    simp [v, u, withoutNonFinite, fieldsWithoutNonFinite, itemsWithoutNonFinite, unsigned,
      unsignedFields, unsignedItems, hfinite, hnonzero, hzero, hnan]
  have hsimple : ∀ x ∈ v.numbers, x.isFinite = true → x.numeral.Simple := by
    decide +kernel
  have hjson : JsonText.write .compact v =
      "\x7b\"a\\n\\\"\":[0,null,1.5],\"\":\"\\u0007\"\x7d".toList := by
    decide +kernel
  obtain ⟨hread, -⟩ := read_json hkeyed
  obtain ⟨-, -, hcompact⟩ := hread v.json List.mem_cons_self
  obtain ⟨-, hindented, -⟩ := hread v.jsonIndented (List.mem_cons_of_mem _ List.mem_cons_self)
  have hnearest : JsonNumeral.Nearest fun n => some n.nearest := fun _ _ => rfl
  refine ⟨hkeyed, ?_, ?_, ?_⟩
  · rw [json, hjson, String.ofList_toList]
  · exact hvalue ▸ (hindented _ 2 (by decide +kernel)).2 hnearest
  · exact hvalue ▸ (hcompact (by decide +kernel)).2 hsimple

/-- The nearest number to the text of this one is the number itself, but the conversion of the
reader multiplies by a rounded power of ten and misses it. -/
theorem read_json_rounded_power :
    let v : Value := .number (.ofDecimal false 3 23)
    v.Keyed ∧ v.jsonTree.nesting ≤ mostNesting ∧ v.json = "3e+23" ∧
      read v.json.toList ≠ some v.withoutNonFinite.unsigned := by
  intro v
  have hfinite : (Number.ofDecimal false 3 23).isFinite = true := by decide +kernel
  have hnonzero : Number.ofDecimal false 3 23 ≠ .negZero := by decide +kernel
  have hjson : JsonText.write .compact v = "3e+23".toList := by decide +kernel
  have hnesting : v.jsonTree.nesting ≤ mostNesting := by decide +kernel
  have hvalue : v.withoutNonFinite.unsigned = v := by
    simp [v, withoutNonFinite, unsigned, hfinite, hnonzero]
  have hread : read (JsonText.write .compact v) = v.jsonTree.value? JsonNumeral.value? :=
    JsonText.readWithin_elementText (JsonText.elementText_write .compact v) hnesting
  have hmiss : JsonNumeral.value? (Number.ofDecimal false 3 23).numeral ≠
      some (.ofDecimal false 3 23) := by decide +kernel
  refine ⟨.number _, hnesting, ?_, ?_⟩
  · rw [json, hjson, String.ofList_toList]
  · rw [json, String.toList_ofList, hread, hvalue, jsonTree, if_pos hfinite, JsonTree.value?]
    intro heq
    obtain ⟨x, hx, hnumber⟩ := Option.map_eq_some_iff.mp heq
    rw [number.inj hnumber] at hx
    exact hmiss hx

end Value

end Guest
