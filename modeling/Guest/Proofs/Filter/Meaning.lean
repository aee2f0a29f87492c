import Guest.Proofs.Filter.Results
import Guest.Proofs.Filter.Wire
import Guest.Proofs.Number.Literals

/-!
# The meaning of query strings

The query string of a filter is read as the filter: the negations above a condition or group are
reduced to their parity, and operands are the texts of scalars.  Quotes keep the characters of a
text from being taken for the structure of the filter.
-/

namespace Guest

open Lexeme (isNamePart)

/-! ## Characters without a meaning -/

namespace Query

/-- Tells the characters that need no quotes wherever they stand. -/
def isBare (c : Char) : Bool := !reserved.contains c && !Text.isBlank c

/-- Texts that need no quotes. -/
def IsBareText (s : List Char) : Prop := s ≠ [] ∧ ∀ c ∈ s, isBare c = true

theorem isBare_iff {c : Char} : isBare c = true ↔ c ∉ reserved ∧ Text.isBlank c = false := by
  simp [isBare]

theorem isBare_of_isNumeric {c : Char} (h : Number.IsNumeric c) : isBare c = true := by
  rcases h with hdigit | hother
  · have hreserved : ∀ c ∈ reserved, (!Numeral.isDecimalDigit c) = true := List.all_eq_true.mp rfl
    have hmem : c ∉ reserved := by
      intro hc
      have hother := hreserved c hc
      rw [hdigit] at hother
      cases hother
    exact isBare_iff.mpr ⟨hmem, Number.not_isBlank_of_isDecimalDigit hdigit⟩
  · have hbare : ∀ c ∈ ['.', 'e', '+', '-'], isBare c = true := List.all_eq_true.mp rfl
    exact hbare c hother

/-- The text of a number needs no quotes. -/
theorem isBareText_number (x : Number) : IsBareText x.text := by
  cases x with
  | nan => exact ⟨List.cons_ne_nil _ _, List.all_eq_true.mp rfl⟩
  | infinite negative =>
      cases negative with
      | false => exact ⟨List.cons_ne_nil _ _, List.all_eq_true.mp rfl⟩
      | true => exact ⟨List.cons_ne_nil _ _, List.all_eq_true.mp rfl⟩
  | finite negative units h =>
      obtain ⟨l, hl⟩ := Number.exists_denotes_text h
      have hne : (Number.finite false units h).text ≠ [] := by
        rw [← hl.text_eq]
        exact List.append_ne_nil_of_left_ne_nil hl.proper.nonempty _
      have hbare : ∀ c ∈ (Number.finite false units h).text, isBare c = true := by
        rw [← hl.text_eq]
        intro c hc
        exact isBare_of_isNumeric (Number.Literal.isNumeric_text hl.proper c hc)
      rw [Number.text_finite]
      split
      · exact ⟨List.cons_ne_nil _ _, List.forall_mem_cons.mpr ⟨rfl, hbare⟩⟩
      · exact ⟨hne, hbare⟩

/-! ## Operands -/

theorem quoted_escaped (s : List Char) : Quoted (s.flatMap escaped) s := by
  induction s with
  | nil => exact .nil
  | cons c rest ih =>
      rw [List.flatMap_cons, escaped]
      split
      · exact .escaped ih
      · next hc =>
          obtain ⟨hbackslash, hquote⟩ := not_or.mp hc
          exact .plain hquote hbackslash ih

/-- A text as an operand is read as the text. -/
theorem scalar_term (s : List Char) : Scalar (term s) (String.ofList s) := by
  unfold term
  split
  · exact .quoted (quoted_escaped s)
  · next hplain =>
      simp only [needsQuotes, Bool.or_eq_true, not_or, List.any_eq_true, List.contains_iff_mem,
        not_exists, not_and, List.isEmpty_iff] at hplain
      exact .plain hplain.2 hplain.1.1

theorem term_of_isBareText {s : List Char} (h : IsBareText s) : term s = s := by
  obtain ⟨hne, hbare⟩ := h
  have htrim : Text.trim s = s :=
    Text.trimBy_eq_self fun c hc => (isBare_iff.mp (hbare c hc)).2
  have hreserved : s.any reserved.contains = false := by
    rw [List.any_eq_false]
    intro c hc
    rw [List.contains_iff_mem]
    exact (isBare_iff.mp (hbare c hc)).1
  have hquotes : needsQuotes s = false := by
    simp [needsQuotes, hreserved, htrim, hne]
  rw [term, hquotes]
  rfl

/-- A scalar is written as its text. -/
theorem scalar_eq_term {v : Value} (hv : v.isComposite = false) : scalar v = term v.chars := by
  have hbare (hplain : scalar v = v.chars) (h : IsBareText v.chars) : scalar v = term v.chars :=
    hplain.trans (term_of_isBareText h).symm
  cases v with
  | string s => rfl
  | number x =>
      have hchars : (Value.number x).chars = x.text := rfl
      apply hbare rfl
      rw [hchars]
      exact isBareText_number x
  | boolean b =>
      cases b with
      | false => exact hbare rfl ⟨List.cons_ne_nil _ _, List.all_eq_true.mp rfl⟩
      | true => exact hbare rfl ⟨List.cons_ne_nil _ _, List.all_eq_true.mp rfl⟩
  | null => exact hbare rfl ⟨List.cons_ne_nil _ _, List.all_eq_true.mp rfl⟩
  | array items => cases hv
  | object fields => cases hv

theorem scalar_scalar {v : Value} (hv : v.isComposite = false) : Scalar (scalar v) v.text := by
  rw [scalar_eq_term hv]
  exact scalar_term v.chars

/-! ## Lists -/

theorem scalars_eq (items : List Value) : scalars items = [','].intercalate (items.map scalar) := by
  induction items with
  | nil => rfl
  | cons v rest ih =>
      cases rest with
      | nil => simp [scalars]
      | cons next more => simp [scalars, ih]

theorem operand_list {items : List Value} (hne : items ≠ [])
    (hitems : ∀ v ∈ items, v.isComposite = false) :
    Operand (.compare .oneOf) (operand (.array items)) (.list (items.map Value.text)) := by
  let parts : List (List Char × String) := items.map fun v => (scalar v, v.text)
  have hparts : ∀ part ∈ parts, Scalar part.1 part.2 := by
    intro part hpart
    obtain ⟨v, hv, rfl⟩ := List.mem_map.mp hpart
    exact scalar_scalar (hitems v hv)
  have hlist : Operand (.compare .oneOf) (listed (parts.map Prod.fst))
      (.list (parts.map Prod.snd)) := .list (by simpa [parts] using hne) hparts
  have htexts : parts.map Prod.fst = items.map scalar := by simp [parts]
  have hreadings : parts.map Prod.snd = items.map Value.text := by simp [parts]
  rw [htexts, hreadings] at hlist
  rw [operand, scalars_eq]
  exact hlist

theorem operand_of_not_isComposite {v : Value} (hv : v.isComposite = false) :
    operand v = scalar v := by
  cases v with
  | array items => cases hv
  | _ => rfl

theorem operand_text {op : Operator} {v : Value} (hv : v.isComposite = false) :
    Operand op (operand v) (.text v.text) := by
  rw [operand_of_not_isComposite hv]
  exact .text (scalar_scalar hv)

/-- What an operand is read as. -/
def argument : Value → Argument
  | .array items => .list (items.map Value.text)
  | v => .text v.text

end Query

/-! ## Filters -/

namespace Filter

open Query

mutual

/-- What a filter means below an even or an odd number of negations. -/
def reading (negated : Bool) : Filter → Reading
  | compare field op operand => .condition negated field (.compare op) (argument operand)
  | search field kind term _ => .condition negated field (.search kind) (.text term)
  | not inner => reading (!negated) inner
  | all items => .group negated .and (readings items)
  | any items => .group negated .or (readings items)

/-- What the items of a group mean. -/
def readings : List Filter → List Reading
  | [] => []
  | item :: rest => reading false item :: readings rest

end

mutual

/-- Tells whether a search of a filter has a language. -/
def hasLanguage : Filter → Bool
  | compare .. => false
  | search _ _ _ language => language.isSome
  | not inner => hasLanguage inner
  | all items => anyLanguage items
  | any items => anyLanguage items

/-- Tells whether a search of one of the filters has a language. -/
def anyLanguage : List Filter → Bool
  | [] => false
  | item :: rest => hasLanguage item || anyLanguage rest

end

variable {f : Filter} {items : List Filter} {root negated : Bool}

theorem renderItems_eq (items : List Filter) :
    renderItems items = [','].intercalate (items.map (render false false)) := by
  induction items with
  | nil => rw [renderItems]; rfl
  | cons item rest ih =>
      cases rest with
      | nil => simp [renderItems]
      | cons next more => simp [renderItems, ih]

theorem readings_eq (items : List Filter) : readings items = items.map (reading false) := by
  induction items with
  | nil => rw [readings, List.map_nil]
  | cons item rest ih => rw [readings, List.map_cons, ih]

theorem anyLanguage_eq_false :
    anyLanguage items = false ↔ ∀ item ∈ items, hasLanguage item = false := by
  induction items with
  | nil => simp [anyLanguage]
  | cons item rest ih => simp [anyLanguage, ih]

theorem isField_of_reads {field : String} (h : Dialect.filter.Reads field) :
    IsField field.toList := by
  obtain ⟨hne, hpart⟩ := Parser.isNamePart_of_reads h
  have hseparators : ∀ c ∈ separators, (!isNamePart c) = true := List.all_eq_true.mp rfl
  refine ⟨hne, ?_⟩
  intro c hc hmem
  have hother := hseparators c hmem
  rw [hpart c hc] at hother
  cases hother

/-! ## Derivations -/

variable {field : String} {op : Operator} {s : List Char} {a : Argument} {connective : Connective}

/-- The grammar at the root or inside of a group. -/
def Derives : Bool → List Char → Reading → Prop
  | true => Root
  | false => Item

theorem derives_condition (hfield : Dialect.filter.Reads field) (h : Operand op s a) :
    Derives root (condition root negated field.toList op.name s)
      (.condition negated field op a) := by
  have htest := @Test.mk negated _ _ _ h
  have hfield := isField_of_reads hfield
  cases root with
  | true =>
      have hroot := Root.condition hfield htest
      rw [String.ofList_toList] at hroot
      simpa [Derives, condition] using hroot
  | false =>
      have hitem := Item.condition hfield htest
      rw [String.ofList_toList] at hitem
      simpa [Derives, condition] using hitem

theorem derives_group (hne : items ≠ [])
    (h : ∀ item ∈ items, Derives false (render false false item) (reading false item)) :
    Derives root (group root negated connective.name (renderItems items))
      (.group negated connective (readings items)) := by
  let parts : List (List Char × Reading) :=
    items.map fun item => (render false false item, reading false item)
  have hparts : parts ≠ [] := fun hnil => hne (List.map_eq_nil_iff.mp hnil)
  have hderived : ∀ part ∈ parts, Item part.1 part.2 := by
    intro part hpart
    obtain ⟨item, hitem, rfl⟩ := List.mem_map.mp hpart
    exact h item hitem
  have htexts : listed (parts.map Prod.fst) = '(' :: (renderItems items ++ [')']) := by
    rw [listed, renderItems_eq, List.map_map]
    rfl
  have hreadings : parts.map Prod.snd = readings items := by
    rw [readings_eq, List.map_map]
    rfl
  cases root with
  | true =>
      have hroot := @Root.group negated connective _ hparts hderived
      rw [htexts, hreadings] at hroot
      simpa [Derives, group] using hroot
  | false =>
      have hitem := @Item.group negated connective _ hparts hderived
      rw [htexts, hreadings] at hitem
      simpa [Derives, group] using hitem

theorem argument_of_not_isComposite {v : Value} (hv : v.isComposite = false) :
    argument v = .text v.text := by
  cases v with
  | array items => cases hv
  | _ => rfl

/-- The query string of a filter is read as what the filter means. -/
theorem derives_render (h : f.Proper) (hlanguage : f.hasLanguage = false) (root negated : Bool) :
    Derives root (render root negated f) (reading negated f) := by
  induction h generalizing root negated with
  | @compare _ op v hfield _ hv =>
      rw [render, reading, argument_of_not_isComposite hv]
      exact @derives_condition _ _ _ (.compare op) _ _ hfield (operand_text hv)
  | oneOf hfield hne hitems =>
      rw [render, reading]
      exact @derives_condition _ _ _ (.compare .oneOf) _ _ hfield (operand_list hne hitems)
  | @search _ kind term language hfield =>
      obtain rfl : language = none := by simpa [hasLanguage] using hlanguage
      have hterm := scalar_term term.toList
      rw [String.ofList_toList] at hterm
      rw [render, reading, searchOp]
      exact @derives_condition _ _ _ (.search kind) _ _ hfield (.text hterm)
  | not _ ih =>
      rw [hasLanguage] at hlanguage
      rw [render, reading]
      exact ih hlanguage root _
  | all hne _ ih =>
      rw [hasLanguage, anyLanguage_eq_false] at hlanguage
      rw [render, reading]
      exact @derives_group _ _ _ .and hne fun item h => ih item h (hlanguage item h) false false
  | any hne _ ih =>
      rw [hasLanguage, anyLanguage_eq_false] at hlanguage
      rw [render, reading]
      exact @derives_group _ _ _ .or hne fun item h => ih item h (hlanguage item h) false false

end Filter

/-! ## The query string of a reading -/

namespace Query

/-- What a condition's operand is written as. -/
def Argument.chars : Argument → List Char
  | text s => term s.toList
  | list texts => listed (texts.map fun s => term s.toList)

mutual

/-- The query string that is written for a reading. -/
def Reading.chars (root : Bool) : Reading → List Char
  | condition negated field op argument =>
    Query.condition root negated field.toList op.name argument.chars
  | group negated connective items =>
    Query.group root negated connective.name (Reading.itemChars items)

/-- The query strings of the items of a group between commas. -/
def Reading.itemChars : List Reading → List Char
  | [] => []
  | [item] => Reading.chars false item
  | item :: rest => Reading.chars false item ++ ',' :: Reading.itemChars rest

end

theorem chars_text {v : Value} (hv : v.isComposite = false) :
    operand v = (Argument.text v.text).chars := by
  rw [operand_of_not_isComposite hv, scalar_eq_term hv, Argument.chars, Value.text,
    String.toList_ofList]

theorem chars_list {items : List Value} (hitems : ∀ v ∈ items, v.isComposite = false) :
    operand (.array items) = (Argument.list (items.map Value.text)).chars := by
  have hterms : items.map scalar = (items.map Value.text).map fun s => term s.toList := by
    rw [List.map_map]
    apply List.map_congr_left
    intro v hv
    rw [scalar_eq_term (hitems v hv), Function.comp_apply, Value.text, String.toList_ofList]
  rw [operand, scalars_eq, hterms, Argument.chars, listed]
  rfl

end Query

namespace Filter

open Query

theorem itemChars_readings {items : List Filter}
    (h : ∀ item ∈ items, render false false item = (reading false item).chars false) :
    renderItems items = Reading.itemChars (readings items) := by
  induction items with
  | nil => rw [renderItems, readings, Reading.itemChars]
  | cons item rest ih =>
      obtain ⟨hitem, hrest⟩ := List.forall_mem_cons.mp h
      have hmore := ih hrest
      cases rest with
      | nil => rw [renderItems, readings, readings, Reading.itemChars, hitem]
      | cons next more =>
          rw [renderItems, readings, Reading.itemChars, hitem, hmore]
          · simp [readings]
          · simp

/-- The query string depends on the meaning of the filter alone. -/
theorem render_eq_chars {f : Filter} (h : f.Proper) (hlanguage : f.hasLanguage = false)
    (root negated : Bool) : render root negated f = (reading negated f).chars root := by
  induction h generalizing root negated with
  | compare _ _ hv =>
      rw [render, reading, argument_of_not_isComposite hv, chars_text hv, Reading.chars]
      rfl
  | oneOf _ _ hitems =>
      rw [render, reading, chars_list hitems, Reading.chars]
      rfl
  | @search _ _ _ language =>
      obtain rfl : language = none := by simpa [hasLanguage] using hlanguage
      rw [render, reading, Reading.chars]
      rfl
  | not _ ih =>
      rw [hasLanguage] at hlanguage
      rw [render, reading]
      exact ih hlanguage root _
  | all _ _ ih =>
      rw [hasLanguage, anyLanguage_eq_false] at hlanguage
      have hitems := itemChars_readings fun item h => ih item h (hlanguage item h) false false
      rw [render, reading, Reading.chars, hitems]
      rfl
  | any _ _ ih =>
      rw [hasLanguage, anyLanguage_eq_false] at hlanguage
      have hitems := itemChars_readings fun item h => ih item h (hlanguage item h) false false
      rw [render, reading, Reading.chars, hitems]
      rfl

/-- The query string of a filter without languages has one reading, which is what the filter means.
Hence filters have the same query string if and only if they mean the same. -/
theorem root_query {source : String} {f : Filter} (h : parse source = .ok f)
    (hlanguage : f.hasLanguage = false) :
    (∀ r, Root f.query.toList r ↔ r = f.reading false) ∧
    ∀ source' g, parse source' = .ok g → g.hasLanguage = false →
      (f.query = g.query ↔ f.reading false = g.reading false) := by
  have hroot {source : String} {f : Filter} (h : parse source = .ok f)
      (hlanguage : f.hasLanguage = false) : Root f.query.toList (f.reading false) := by
    rw [query, String.toList_ofList]
    exact derives_render (proper_of_parse h) hlanguage true false
  refine ⟨fun r => ⟨fun hr => hr.unique (hroot h hlanguage), ?_⟩, ?_⟩
  · rintro rfl
    exact hroot h hlanguage
  · intro source' g hg hlanguage'
    constructor
    · intro heq
      have hsame := hroot hg hlanguage'
      rw [← heq] at hsame
      exact (hroot h hlanguage).unique hsame
    · intro hsame
      rw [query, query, render_eq_chars (proper_of_parse h) hlanguage,
        render_eq_chars (proper_of_parse hg) hlanguage', hsame]

/-- Reserved characters in texts, a field named like a negation, and two texts of filters with the
same meaning. -/
theorem root_query_group :
    ∃ f g, parse "NOT(AND(not = 'a,b', NOT(NOT(id IN (1, ')'))), FTS(title, ' x')))" = .ok f ∧
      parse "NOT(AND(not == \"a,b\", id in ('1', \")\"), NOT(NOT(fts(title, ' x')))))" = .ok g ∧
      f.hasLanguage = false ∧ g.hasLanguage = false ∧
      f.query = "not.and=(not.eq.\"a,b\",id.in.(1,\")\"),title.fts.\" x\")" ∧
      (∀ r, Root f.query.toList r ↔ r = f.reading false) ∧ f.reading false = g.reading false := by
  have hparse {source text : String}
      (h : (parse source).map (fun f => (f.hasLanguage, f.query)) = .ok (false, text)) :
      ∃ f, parse source = .ok f ∧ f.hasLanguage = false ∧ f.query = text := by
    cases hf : parse source with
    | error error =>
        rw [hf] at h
        cases h
    | ok f =>
        rw [hf, Except.map] at h
        obtain ⟨hlanguage, hquery⟩ := Prod.mk.inj (Except.ok.inj h)
        exact ⟨f, rfl, hlanguage, hquery⟩
  obtain ⟨f, hf, hlanguage, hquery⟩ := @hparse
    "NOT(AND(not = 'a,b', NOT(NOT(id IN (1, ')'))), FTS(title, ' x')))"
    "not.and=(not.eq.\"a,b\",id.in.(1,\")\"),title.fts.\" x\")" (by decide +kernel)
  obtain ⟨g, hg, hlanguage', hquery'⟩ := @hparse
    "NOT(AND(not == \"a,b\", id in ('1', \")\"), NOT(NOT(fts(title, ' x')))))"
    "not.and=(not.eq.\"a,b\",id.in.(1,\")\"),title.fts.\" x\")" (by decide +kernel)
  have hroot := root_query hf hlanguage
  refine ⟨f, g, hf, hg, hlanguage, hlanguage', hquery, hroot.1, ?_⟩
  exact (hroot.2 _ g hg hlanguage').mp (hquery.trans hquery'.symm)

end Filter
end Guest
