import Guest.Json.Printer
import Guest.Proofs.Json.Reading
import Guest.Proofs.Value.RoundTrip

/-!
# The JSON texts of values

Both texts of a value are texts of the grammar, and they have the same tree, which depends on the
value alone.  The tree has null for every number without a JSON form and the numeral of its text
for every other one.
-/

namespace Guest

open Numeral (AllDigits)

/-! ## The numeral of a number -/

namespace Number

/-- The numeral that is written for a finite number. -/
def numeral (x : Number) : JsonNumeral :=
  ((JsonText.numeral? x.text).map Prod.fst).getD ⟨false, [], [], false, []⟩

variable {x : Number}

/-- The text of a finite number is a numeral, and the nearest number to it is the number; a zero is
written without its sign. -/
theorem numeralText_text (hx : x.isFinite = true) :
    ∃ n, JsonText.NumeralText x.text n ∧ n.nearest = if x = .negZero then .zero else x := by
  cases x with
  | nan => cases hx
  | infinite negative => cases hx
  | finite negative units hunits =>
      obtain ⟨l, hl⟩ := exists_denotes_text hunits
      obtain ⟨exponentNegative, hscale, hdecimal⟩ :=
        @Lexeme.exists_exponentText_standard l.whole l.fraction l.exponent l.exponentNegative
          hl.proper.exponent
      have hfraction : Literal.fractionText l.fraction ≠ [] → l.fraction ≠ [] := by
        rintro h hnil
        rw [hnil] at h
        exact h rfl
      have htext : (finite negative units hunits).text =
          signText (decide (negative ∧ units ≠ 0)) l.text := by
        rw [text_finite, ← hl.text_eq, signText]
        simp only [decide_eq_true_eq]
      have hliteral : (Literal.mk l.whole l.fraction exponentNegative l.exponent).value =
          finite false units hunits := (Literal.value_congr hdecimal).trans hl.value_eq
      have hnumeral := @JsonText.NumeralText.parts _ _ _ _ _ (decide (negative ∧ units ≠ 0)) _
        hl.proper.whole hl.proper.nonempty hl.proper.lead
        (Lexeme.fractionText_standard hl.proper.fraction) hfraction hscale
      refine ⟨_, htext ▸ hnumeral, ?_⟩
      rw [JsonNumeral.nearest, JsonNumeral.literal, hliteral, ← neg_or_unsigned]
      simp only [decide_eq_true_eq]

theorem numeralText_numeral (hx : x.isFinite = true) : JsonText.NumeralText x.text x.numeral := by
  obtain ⟨n, htext, -⟩ := numeralText_text hx
  have hread := JsonText.numeral?_numeralText htext (Lexeme.starts_nil : JsonText.Ends [])
  rw [List.append_nil] at hread
  rw [numeral, hread]
  exact htext

theorem nearest_numeral (hx : x.isFinite = true) :
    x.numeral.nearest = if x = .negZero then .zero else x := by
  obtain ⟨n, htext, hnearest⟩ := numeralText_text hx
  have hread := JsonText.numeral?_numeralText htext (Lexeme.starts_nil : JsonText.Ends [])
  rw [List.append_nil] at hread
  rw [numeral, hread]
  exact hnearest

end Number

/-! ## The tree of a value -/

namespace Value

mutual

/-- The tree of the JSON texts of a value. -/
def jsonTree : Value → JsonTree
  | null => .null
  | boolean b => .boolean b
  | number x => if x.isFinite then .numeral x.numeral else .null
  | string s => .string s
  | array items => .array (itemTrees items)
  | object fields => .object (fieldTrees fields)

/-- The trees of the items of an array. -/
def itemTrees : List Value → List JsonTree
  | [] => []
  | item :: rest => jsonTree item :: itemTrees rest

/-- The trees of the fields of an object. -/
def fieldTrees : List (String × Value) → List (String × JsonTree)
  | [] => []
  | (key, value) :: rest => (key, jsonTree value) :: fieldTrees rest

end

end Value

namespace JsonText

variable {c : Char} {w s : List Char}

/-! ## Strings -/

theorem unitText_hexDigits {code : Nat} (h : code < 0x10000) : UnitText (hexDigits code) code := by
  have hcode : ((code / 4096 % 16 * 16 + code / 256 % 16) * 16 + code / 16 % 16) * 16 + code % 16 =
      code := by omega
  have hdigit (n : Nat) : Numeral.digitValue? 16 (Numeral.digit (n % 16)) = some (n % 16) :=
    Numeral.digitValue?_digit (Nat.mod_lt n (by decide)) (by decide)
  have hdigits := UnitText.digits (hdigit (code / 4096)) (hdigit (code / 256)) (hdigit (code / 16))
    (hdigit code)
  rwa [hcode] at hdigits

theorem characters_escaped (h : Characters w s) : Characters (escaped c ++ w) (c :: s) := by
  unfold escaped
  split
  · next hc =>
      subst hc
      exact .short .quote h
  split
  · next hc =>
      subst hc
      exact .short .backslash h
  split
  · next hc =>
      subst hc
      exact .short .newline h
  split
  · next hc =>
      subst hc
      exact .short .carriageReturn h
  split
  · next hc =>
      subst hc
      exact .short .tab h
  split
  · next hcontrol =>
      have hc : c.toNat ≤ 0x9F := by
        simp only [Text.isControl, Bool.or_eq_true, Bool.and_eq_true, decide_eq_true_eq] at hcontrol
        omega
      have hlow : Text.isLowSurrogate c.toNat = false := by
        simp only [Text.isLowSurrogate, Bool.and_eq_false_iff, decide_eq_false_iff_not]
        omega
      have hhigh : Text.isHighSurrogate c.toNat = false := by
        simp only [Text.isHighSurrogate, Bool.and_eq_false_iff, decide_eq_false_iff_not]
        omega
      have hunit := Characters.unit (unitText_hexDigits (by omega)) hlow hhigh h
      rwa [Char.ofNat_toNat] at hunit
  · next hquote hbackslash _ _ _ hcontrol =>
      have hc : 0x20 ≤ c.toNat := by
        simp only [Text.isControl, Bool.or_eq_true, Bool.and_eq_true, decide_eq_true_eq] at hcontrol
        omega
      exact .plain hc hquote hbackslash h

theorem characters_flatMap (s : List Char) : Characters (s.flatMap escaped) s := by
  induction s with
  | nil => exact .nil
  | cons c s ih =>
      rw [List.flatMap_cons]
      exact characters_escaped ih

/-! ## Layouts -/

variable {layout : Layout}

theorem spaces_nil : Spaces [] := List.forall_mem_nil _

theorem spaces_lineStart : Spaces layout.lineStart := by
  cases layout with
  | compact => exact spaces_nil
  | indented depth =>
      refine List.forall_mem_cons.mpr ⟨rfl, ?_⟩
      intro c hc
      rw [List.eq_of_mem_replicate hc]
      rfl

/-- The colon behind a key with the blanks that belong to the value. -/
theorem exists_colon (layout : Layout) : ∃ gap, layout.colon = ':' :: gap ∧ Spaces gap := by
  cases layout with
  | compact => exact ⟨[], rfl, spaces_nil⟩
  | indented depth => exact ⟨[' '], rfl, List.forall_mem_singleton.mpr rfl⟩

/-! ## Values -/

theorem valueText_number (x : Number) : ValueText (number x) (Value.number x).jsonTree := by
  rw [number, Value.jsonTree]
  split
  · next hx => exact .numeral (Number.numeralText_numeral hx)
  · exact .null

theorem writeItems_cons_cons (layout : Layout) (item next : Value) (more : List Value) :
    writeItems layout (item :: next :: more) =
      layout.lineStart ++ (write layout item ++ ',' :: writeItems layout (next :: more)) :=
  List.append_assoc _ _ _

theorem writeFields_cons_cons (layout : Layout) (key : String) (value : Value)
    (next : String × Value) (more : List (String × Value)) :
    writeFields layout ((key, value) :: next :: more) =
      layout.lineStart ++ (string key.toList ++ (layout.colon ++
        (write layout value ++ ',' :: writeFields layout (next :: more)))) := by
  rw [writeFields]
  · simp only [List.append_assoc]
  · simp

theorem keyText_string (key : String) :
    KeyText (layout.lineStart ++ (string key.toList ++ [':'])) key := by
  have hkey := KeyText.quoted (@spaces_lineStart layout) (characters_flatMap key.toList) spaces_nil
  rw [String.ofList_toList] at hkey
  simpa [string] using hkey

mutual

/-- What is written for a value is a text of its tree. -/
theorem valueText_write (layout : Layout) : ∀ v : Value, ValueText (write layout v) v.jsonTree
  | .null => .null
  | .boolean true => .true
  | .boolean false => .false
  | .number x => valueText_number x
  | .string s => by
      have hstring := ValueText.string (characters_flatMap s.toList)
      rw [String.ofList_toList] at hstring
      exact hstring
  | .array [] => .emptyArray spaces_nil
  | .array (item :: rest) => by
      rw [write, Value.jsonTree, List.cons_append, List.cons_append]
      exact .array (itemsText_write layout.deeper spaces_lineStart (item :: rest)
        (List.cons_ne_nil _ _))
  | .object [] => .emptyObject spaces_nil
  | .object ((key, value) :: rest) => by
      rw [write, Value.jsonTree, List.cons_append, List.cons_append]
      exact .object (fieldsText_write layout.deeper spaces_lineStart ((key, value) :: rest)
        (List.cons_ne_nil _ _))

theorem itemsText_write (layout : Layout) {gap : List Char} (hgap : Spaces gap) :
    ∀ items : List Value, items ≠ [] →
      ItemsText (writeItems layout items ++ gap) (Value.itemTrees items)
  | [], hitems => absurd rfl hitems
  | [item], _ => by
      rw [writeItems, List.append_assoc]
      exact .last (.blanks spaces_lineStart (valueText_write layout item) hgap)
  | item :: next :: rest, _ => by
      have helement := ElementText.blanks (@spaces_lineStart layout) (valueText_write layout item)
        spaces_nil
      have hrest := itemsText_write layout hgap (next :: rest) (List.cons_ne_nil _ _)
      rw [List.append_nil] at helement
      rw [writeItems_cons_cons, List.append_assoc, List.append_assoc, List.cons_append,
        ← List.append_assoc]
      exact .more helement hrest

theorem fieldsText_write (layout : Layout) {gap : List Char} (hgap : Spaces gap) :
    ∀ fields : List (String × Value), fields ≠ [] →
      FieldsText (writeFields layout fields ++ gap) (Value.fieldTrees fields)
  | [], hfields => absurd rfl hfields
  | [(key, value)], _ => by
      obtain ⟨gap', hcolon, hgap'⟩ := exists_colon layout
      have hfield := FieldsText.last (@keyText_string layout key)
        (.blanks hgap' (valueText_write layout value) hgap)
      rw [writeFields, hcolon]
      simpa [Value.fieldTrees] using hfield
  | (key, value) :: (next, following) :: rest, _ => by
      obtain ⟨gap', hcolon, hgap'⟩ := exists_colon layout
      have hfield := FieldsText.more (@keyText_string layout key)
        (.blanks hgap' (valueText_write layout value) spaces_nil)
        (fieldsText_write layout hgap ((next, following) :: rest) (List.cons_ne_nil _ _))
      rw [writeFields_cons_cons, hcolon, Value.fieldTrees]
      simpa using hfield

end

theorem elementText_write (layout : Layout) (v : Value) :
    ElementText (write layout v) v.jsonTree := by
  have helement := ElementText.blanks spaces_nil (valueText_write layout v) spaces_nil
  rwa [List.append_nil, List.nil_append] at helement

end JsonText

end Guest
