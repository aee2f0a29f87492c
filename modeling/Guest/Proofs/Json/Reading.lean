import Guest.Proofs.Json.Grammar

/-!
# The reader reads every JSON text

A text of the grammar is read as the value of its tree, provided that the nesting is within the
reader's limit.  A statement about a part of a text is one about that part in front of any other
text; only a numeral looks at the character behind it.
-/

namespace Guest

namespace JsonText

open Lexeme (Starts NoDigit starts_nil starts_cons starts_append spanDigits_append spanSign_sign)
open Number (FractionText ExponentText signText)

variable {gap w s rest whole fraction digits point scale : List Char} {c : Char}
  {number? : JsonNumeral → Option Number} {fuel depth : Nat} {tree : JsonTree}

/-! ## Blanks -/

theorem skipSpaces_append (h : Spaces gap) : skipSpaces (gap ++ s) = skipSpaces s :=
  List.dropWhile_append_of_pos h

theorem skipSpaces_of_starts (h : Starts (fun c => isSpace c = false) s) : skipSpaces s = s :=
  Lexeme.dropWhile_append_of_starts (List.forall_mem_nil _) h

theorem starts_skipSpaces (s : List Char) :
    Starts (fun c => isSpace c = false) (skipSpaces s) := by
  intro c hc
  have hhead := List.head?_dropWhile_not isSpace s
  rw [skipSpaces] at hc
  rw [hc] at hhead
  simpa using hhead

@[simp] theorem skipSpaces_skipSpaces (s : List Char) :
    skipSpaces (skipSpaces s) = skipSpaces s :=
  skipSpaces_of_starts (starts_skipSpaces s)

/-! ## Strings -/

theorem escape?_shortEscape {letter c : Char} (h : ShortEscape letter c) :
    escape? letter = some c := by
  cases h <;> rfl

theorem exists_of_unitText {unit : Nat} (h : UnitText digits unit) :
    ∃ a b c d, digits = [a, b, c, d] ∧ hexValue? a b c d = some unit := by
  cases h with
  | digits ha hb hc hd => exact ⟨_, _, _, _, rfl, by simp [hexValue?, ha, hb, hc, hd]⟩

theorem not_isLowSurrogate_of_isHighSurrogate {unit : Nat}
    (h : Text.isHighSurrogate unit = true) : Text.isLowSurrogate unit = false := by
  simp only [Text.isHighSurrogate, Bool.and_eq_true, decide_eq_true_eq] at h
  simp only [Text.isLowSurrogate, Bool.and_eq_false_iff, decide_eq_false_iff_not]
  omega

/-- The reader of a string stops behind the closing quote. -/
theorem stringRest_characters (h : Characters w s) :
    stringRest (w ++ '"' :: rest) = some (s, rest) := by
  induction h with
  | nil => rfl
  | @plain c w s hlow hquote hbackslash _ ih =>
      have hplain : (decide (c.toNat < 0x20) || c == '\\') = false := by
        simp only [Bool.or_eq_false_iff, decide_eq_false_iff_not, beq_eq_false_iff_ne]
        exact ⟨by omega, hbackslash⟩
      rw [List.cons_append, stringRest]
      · rw [hplain, ih]
        rfl
      all_goals simp [hquote, hbackslash]
  | short hescape _ ih =>
      rw [List.cons_append, List.cons_append, stringRest]
      · rw [escape?_shortEscape hescape, ih]
        rfl
      · cases hescape <;> simp
  | unit hunit hlow hhigh _ ih =>
      obtain ⟨a, b, c, d, rfl, hvalue⟩ := exists_of_unitText hunit
      simp only [List.cons_append, List.nil_append, stringRest, hvalue, hlow, hhigh, ih]
      rfl
  | pair hhigh hhigh' hlow hlow' _ ih =>
      obtain ⟨a, b, c, d, rfl, hvalue⟩ := exists_of_unitText hhigh
      obtain ⟨a', b', c', d', rfl, hvalue'⟩ := exists_of_unitText hlow
      have hno := not_isLowSurrogate_of_isHighSurrogate hhigh'
      simp only [List.cons_append, List.nil_append, stringRest, hvalue, hvalue', hhigh', hlow',
        hno, ih]
      rfl

/-! ## Numerals -/

/-- A text at whose front a numeral before it ends. -/
abbrev Ends (rest : List Char) : Prop :=
  Starts (fun c => NoDigit c ∧ c ≠ '.' ∧ c ≠ 'e' ∧ c ≠ 'E') rest

theorem spanMinus_signText {negative : Bool} (h : Starts (· ≠ '-') s) :
    spanMinus (signText negative s) = (negative, s) := by
  cases negative with
  | true => rfl
  | false =>
      cases s with
      | nil => rfl
      | cons c rest => simp [signText, spanMinus, starts_cons.mp h]

theorem wholeDigits?_append (hwhole : Numeral.AllDigits whole) (hnonempty : whole ≠ [])
    (hlead : whole.head? = some '0' → whole = ['0']) (hrest : Starts NoDigit rest) :
    wholeDigits? (whole ++ rest) = some (whole, rest) := by
  rw [wholeDigits?, spanDigits_append hwhole hrest]
  split
  · next heq =>
      cases heq
      exact absurd rfl hnonempty
  · next heq =>
      cases heq
      cases hlead rfl
  · rfl

theorem fractionDigits?_append (hpoint : FractionText point fraction)
    (hdigit : point ≠ [] → fraction ≠ []) (hrest : Starts (fun c => NoDigit c ∧ c ≠ '.') rest) :
    fractionDigits? (point ++ rest) = some (fraction, rest) := by
  cases hpoint with
  | none =>
      rw [List.nil_append]
      unfold fractionDigits?
      split
      · exact absurd rfl (starts_cons.mp hrest).2
      · rfl
  | point hdigits =>
      rw [List.cons_append, fractionDigits?, spanDigits_append hdigits fun c hc => (hrest c hc).1]
      split
      · next heq =>
          cases heq
          exact absurd rfl (hdigit (List.cons_ne_nil _ _))
      · rfl

theorem exponentDigits?_append {negative : Bool} (hscale : ExponentText scale negative digits)
    (hrest : Ends rest) : exponentDigits? (scale ++ rest) = some (negative, digits, rest) := by
  cases hscale with
  | none =>
      cases rest with
      | nil => rfl
      | cons c more =>
          obtain ⟨-, -, he, hE⟩ := starts_cons.mp hrest
          simp [exponentDigits?, he, hE]
  | scale hmark hsign hdigits hnonempty =>
      rw [List.cons_append, List.append_assoc, exponentDigits?, if_pos hmark,
        spanSign_sign hsign hdigits hnonempty]
      dsimp only
      rw [spanDigits_append hdigits fun c hc => (hrest c hc).1]
      split
      · next heq =>
          cases heq
          exact absurd rfl hnonempty
      · next heq =>
          cases heq
          rfl

theorem starts_exponentText {p : Char → Prop} {negative : Bool}
    (hscale : ExponentText scale negative digits) (he : p 'e') (hE : p 'E') : Starts p scale := by
  cases hscale with
  | none => exact starts_nil
  | scale hmark =>
      rcases hmark with rfl | rfl
      · exact starts_cons.mpr he
      · exact starts_cons.mpr hE

theorem starts_fractionText {p : Char → Prop} (hpoint : FractionText point fraction)
    (hp : p '.') : Starts p point := by
  cases hpoint with
  | none => exact starts_nil
  | point => exact starts_cons.mpr hp

/-- A numeral is read to its end. -/
theorem numeral?_numeralText {n : JsonNumeral} (h : NumeralText w n) (hrest : Ends rest) :
    numeral? (w ++ rest) = some (n, rest) := by
  cases h with
  | @parts whole fraction digits point scale negative exponentNegative hwhole hnonempty hlead
      hpoint hdigit hscale =>
      have hafterPoint : Starts (fun c => NoDigit c ∧ c ≠ '.') (scale ++ rest) := by
        refine starts_append (starts_exponentText hscale (by decide) (by decide)) ?_
        exact fun c hc => ⟨(hrest c hc).1, (hrest c hc).2.1⟩
      have hafterWhole : Starts NoDigit (point ++ (scale ++ rest)) := by
        refine starts_append (starts_fractionText hpoint (by decide)) ?_
        exact fun c hc => (hafterPoint c hc).1
      have hunsigned : Starts (· ≠ '-') (whole ++ (point ++ (scale ++ rest))) := by
        cases whole with
        | nil => exact absurd rfl hnonempty
        | cons c more =>
            refine starts_cons.mpr ?_
            rintro rfl
            exact absurd (hwhole '-' List.mem_cons_self) (by decide)
      have hsplit : signText negative (whole ++ (point ++ scale)) ++ rest =
          signText negative (whole ++ (point ++ (scale ++ rest))) := by
        cases negative <;> simp [signText, List.append_assoc]
      have hread : wholeDigits? (whole ++ (point ++ (scale ++ rest))) =
          some (whole, point ++ (scale ++ rest)) :=
        wholeDigits?_append hwhole hnonempty hlead hafterWhole
      have hread' := fractionDigits?_append hpoint hdigit hafterPoint
      have hread'' := exponentDigits?_append hscale hrest
      rw [hsplit]
      simp [numeral?, spanMinus_signText hunsigned, hread, hread', hread'']

/-! ## Words, strings and numerals -/

theorem head_numeralText {n : JsonNumeral} (h : NumeralText w n) :
    ∃ c more, w = c :: more ∧ (c = '-' ∨ Numeral.isDecimalDigit c = true) := by
  cases h with
  | @parts whole fraction digits point scale negative exponentNegative hwhole hnonempty =>
      cases negative with
      | true => exact ⟨'-', _, rfl, .inl rfl⟩
      | false =>
          cases whole with
          | nil => exact absurd rfl hnonempty
          | cons c more => exact ⟨c, _, rfl, .inr (hwhole c List.mem_cons_self)⟩

/-- The first character of a numeral differs from those of all other values. -/
theorem ne_of_head_numeral {a : Char} (h : c = '-' ∨ Numeral.isDecimalDigit c = true)
    (hminus : a ≠ '-') (hdigit : Numeral.isDecimalDigit a = false) : c ≠ a := by
  rintro rfl
  rcases h with rfl | h
  · exact hminus rfl
  · rw [h] at hdigit
    cases hdigit

theorem scalar?_numeralText {n : JsonNumeral} (h : NumeralText w n) (hrest : Ends rest) :
    scalar? number? (w ++ rest) = (number? n).map fun x => (.number x, rest) := by
  have hread := numeral?_numeralText h hrest
  obtain ⟨c, more, rfl, hc⟩ := head_numeralText h
  have hne {a : Char} := @ne_of_head_numeral c a hc
  unfold scalar?
  split
  · next heq => exact absurd (List.cons.inj heq).1 (hne (by decide) (by decide))
  · next heq => exact absurd (List.cons.inj heq).1 (hne (by decide) (by decide))
  · next heq => exact absurd (List.cons.inj heq).1 (hne (by decide) (by decide))
  · next heq => exact absurd (List.cons.inj heq).1 (hne (by decide) (by decide))
  · rw [hread]
    cases hnumber : number? n <;> simp [hnumber]

theorem scalar?_string (h : Characters w s) :
    scalar? number? ('"' :: (w ++ '"' :: rest)) = some (.string (String.ofList s), rest) := by
  rw [scalar?, stringRest_characters h]
  rfl

theorem key?_keyText {key : String} (h : KeyText w key) : key? (w ++ rest) = some (key, rest) := by
  cases h with
  | @quoted gap gap' w s hgap hw hgap' =>
      have hstart : skipSpaces (gap ++ '"' :: (w ++ '"' :: (gap' ++ [':'])) ++ rest) =
          '"' :: (w ++ '"' :: (gap' ++ ':' :: rest)) := by
        rw [List.append_assoc, skipSpaces_append hgap]
        simp [skipSpaces, isSpace]
      have hcolon : skipSpaces (gap' ++ ':' :: rest) = ':' :: rest := by
        rw [skipSpaces_append hgap']
        rfl
      simp only [key?, hstart, stringRest_characters hw, hcolon]

/-! ## First characters -/

theorem head_valueText (h : ValueText w tree) :
    ∃ c more, w = c :: more ∧ isSpace c = false ∧ c ≠ ']' := by
  cases h with
  | numeral hw =>
      obtain ⟨c, more, rfl, hc⟩ := head_numeralText hw
      have hne {a : Char} := @ne_of_head_numeral c a hc
      refine ⟨c, more, rfl, ?_, hne (by decide) (by decide)⟩
      simp only [isSpace, Bool.or_eq_false_iff, beq_eq_false_iff_ne]
      exact ⟨⟨⟨hne (by decide) (by decide), hne (by decide) (by decide)⟩,
        hne (by decide) (by decide)⟩, hne (by decide) (by decide)⟩
  | _ => exact ⟨_, _, rfl, by decide, by decide⟩

theorem skipSpaces_valueText (h : ValueText w tree) : skipSpaces (w ++ rest) = w ++ rest := by
  obtain ⟨c, more, rfl, hc, -⟩ := head_valueText h
  exact skipSpaces_of_starts (starts_cons.mpr hc)

theorem starts_elementText (h : ElementText w tree) :
    Starts (· ≠ ']') (skipSpaces (w ++ rest)) := by
  cases h with
  | @blanks gap w gap' _ hgap hw =>
      rw [List.append_assoc, List.append_assoc, skipSpaces_append hgap, skipSpaces_valueText hw]
      obtain ⟨c, more, rfl, -, hc⟩ := head_valueText hw
      exact starts_cons.mpr hc

theorem starts_itemsText {items : List JsonTree} (h : ItemsText w items) :
    Starts (· ≠ ']') (skipSpaces (w ++ rest)) := by
  cases h with
  | last hitem => exact starts_elementText hitem
  | more hitem =>
      rw [List.append_assoc]
      exact starts_elementText hitem

theorem starts_keyText {key : String} (h : KeyText w key) :
    Starts (· ≠ '\x7d') (skipSpaces (w ++ rest)) := by
  cases h with
  | quoted hgap =>
      rw [List.append_assoc, skipSpaces_append hgap]
      exact starts_cons.mpr (by decide)

theorem starts_fieldsText {fields : List (String × JsonTree)} (h : FieldsText w fields) :
    Starts (· ≠ '\x7d') (skipSpaces (w ++ rest)) := by
  cases h with
  | last hkey =>
      rw [List.append_assoc]
      exact starts_keyText hkey
  | more hkey =>
      rw [List.append_assoc]
      exact starts_keyText hkey

theorem ends_append (hgap : Spaces gap) (hrest : Ends rest) : Ends (gap ++ rest) := by
  refine starts_append ?_ hrest
  intro c hc
  have hspace : isSpace c = true := hgap c (List.mem_of_mem_head? hc)
  simp only [isSpace, Bool.or_eq_true, beq_iff_eq] at hspace
  rcases hspace with ((rfl | rfl) | rfl) | rfl <;> decide

/-! ## Steps of the reader -/

theorem valueIn_skipSpaces :
    valueIn number? fuel depth (skipSpaces s) = valueIn number? fuel depth s := by
  cases fuel with
  | zero => simp [valueIn]
  | succ fuel => simp [valueIn]

theorem itemsIn_skipSpaces :
    itemsIn number? fuel depth (skipSpaces s) = itemsIn number? fuel depth s := by
  cases fuel with
  | zero => simp [itemsIn]
  | succ fuel => simp [itemsIn, valueIn_skipSpaces]

theorem fieldsIn_skipSpaces :
    fieldsIn number? fuel depth (skipSpaces s) = fieldsIn number? fuel depth s := by
  cases fuel with
  | zero => simp [fieldsIn]
  | succ fuel => simp [fieldsIn, key?]

theorem valueIn_scalar (h : ValueText (c :: w) tree) (hbracket : c ≠ '[') (hbrace : c ≠ '\x7b') :
    valueIn number? (fuel + 1) depth (c :: w ++ rest) = scalar? number? (c :: w ++ rest) := by
  unfold valueIn
  dsimp only
  rw [skipSpaces_valueText h]
  split
  · next heq => exact absurd (List.cons.inj heq).1 hbracket
  · next heq => exact absurd (List.cons.inj heq).1 hbrace
  · next heq => exact absurd (List.cons.inj heq).1 hbracket
  · next heq => exact absurd (List.cons.inj heq).1 hbrace
  · rfl

theorem valueIn_emptyArray (hs : skipSpaces s = ']' :: rest) :
    valueIn number? (fuel + 1) (depth + 1) ('[' :: s) = some (.array [], rest) := by
  have hstart : skipSpaces ('[' :: s) = '[' :: s := rfl
  unfold valueIn
  simp only [hstart, hs]

theorem valueIn_array (hs : Starts (· ≠ ']') (skipSpaces s)) :
    valueIn number? (fuel + 1) (depth + 1) ('[' :: s) =
      (itemsIn number? fuel depth s).map fun (items, rest) => (.array items, rest) := by
  have hstart : skipSpaces ('[' :: s) = '[' :: s := rfl
  unfold valueIn
  simp only [hstart]
  split
  · next heq =>
      rw [heq] at hs
      exact absurd rfl (starts_cons.mp hs)
  · rw [itemsIn_skipSpaces]
    cases hitems : itemsIn number? fuel depth s <;> simp

theorem valueIn_emptyObject (hs : skipSpaces s = '\x7d' :: rest) :
    valueIn number? (fuel + 1) (depth + 1) ('\x7b' :: s) = some (.object [], rest) := by
  have hstart : skipSpaces ('\x7b' :: s) = '\x7b' :: s := rfl
  unfold valueIn
  simp only [hstart, hs]

theorem valueIn_object (hs : Starts (· ≠ '\x7d') (skipSpaces s)) :
    valueIn number? (fuel + 1) (depth + 1) ('\x7b' :: s) =
      (fieldsIn number? fuel depth s).map fun (fields, rest) =>
        (.object (Fields.insertAll [] fields), rest) := by
  have hstart : skipSpaces ('\x7b' :: s) = '\x7b' :: s := rfl
  unfold valueIn
  simp only [hstart]
  split
  · next heq =>
      rw [heq] at hs
      exact absurd rfl (starts_cons.mp hs)
  · rw [fieldsIn_skipSpaces]
    cases hfields : fieldsIn number? fuel depth s <;> simp

/-! ## Values -/

/-- With this much fuel every text is read as the value of its tree. -/
structure ReadsAt (number? : JsonNumeral → Option Number) (fuel : Nat) : Prop where
  value : ∀ {depth : Nat} {w rest : List Char} {tree : JsonTree}, ValueText w tree →
    tree.nesting ≤ depth → Ends rest → 2 * w.length < fuel →
    valueIn number? fuel depth (w ++ rest) = (tree.value? number?).map (·, rest)
  items : ∀ {depth : Nat} {w rest : List Char} {items : List JsonTree}, ItemsText w items →
    JsonTree.itemsNesting items ≤ depth → 2 * w.length + 1 < fuel →
    itemsIn number? fuel depth (w ++ ']' :: rest) =
      (JsonTree.itemValues? number? items).map (·, rest)
  fields : ∀ {depth : Nat} {w rest : List Char} {fields : List (String × JsonTree)},
    FieldsText w fields → JsonTree.fieldsNesting fields ≤ depth → 2 * w.length + 1 < fuel →
    fieldsIn number? fuel depth (w ++ '\x7d' :: rest) =
      (JsonTree.fieldValues? number? fields).map (·, rest)

/-- A value between blanks is read up to the second blanks. -/
theorem ReadsAt.element (h : ReadsAt number? fuel) (hw : ElementText w tree)
    (hnesting : tree.nesting ≤ depth) (hrest : Ends rest) (hfuel : 2 * w.length < fuel) :
    ∃ after, valueIn number? fuel depth (w ++ rest) = (tree.value? number?).map (·, after) ∧
      skipSpaces after = skipSpaces rest := by
  cases hw with
  | @blanks gap w gap' _ hgap hvalue hgap' =>
      simp only [List.length_append] at hfuel
      refine ⟨gap' ++ rest, ?_, skipSpaces_append hgap'⟩
      rw [List.append_assoc, List.append_assoc, ← valueIn_skipSpaces, skipSpaces_append hgap,
        valueIn_skipSpaces]
      exact h.value hvalue hnesting (ends_append hgap' hrest) (by omega)

theorem readsAt_zero : ReadsAt number? 0 :=
  ⟨fun _ _ _ hfuel => absurd hfuel (Nat.not_lt_zero _),
    fun _ _ hfuel => absurd hfuel (Nat.not_lt_zero _),
    fun _ _ hfuel => absurd hfuel (Nat.not_lt_zero _)⟩

theorem ReadsAt.value_succ (h : ReadsAt number? fuel) (hw : ValueText w tree)
    (hnesting : tree.nesting ≤ depth) (hrest : Ends rest) (hfuel : 2 * w.length < fuel + 1) :
    valueIn number? (fuel + 1) depth (w ++ rest) = (tree.value? number?).map (·, rest) := by
  have hvalue := hw
  cases hw with
  | null => exact valueIn_scalar hvalue (by decide) (by decide)
  | true => exact valueIn_scalar hvalue (by decide) (by decide)
  | false => exact valueIn_scalar hvalue (by decide) (by decide)
  | numeral hnumeral =>
      have hread := @scalar?_numeralText w rest number? _ hnumeral hrest
      obtain ⟨c, more, rfl, hc⟩ := head_numeralText hnumeral
      have hne {a : Char} := @ne_of_head_numeral c a hc
      rw [valueIn_scalar hvalue (hne (by decide) (by decide)) (hne (by decide) (by decide)), hread,
        JsonTree.value?, Option.map_map]
      rfl
  | string hcharacters =>
      rw [valueIn_scalar hvalue (by decide) (by decide), List.cons_append, List.append_assoc]
      exact scalar?_string hcharacters
  | emptyArray hgap =>
      obtain ⟨depth, rfl⟩ := Nat.exists_eq_add_of_le' (Nat.lt_of_lt_of_le (Nat.succ_pos _) hnesting)
      rw [List.cons_append, List.append_assoc]
      exact valueIn_emptyArray (skipSpaces_append hgap)
  | @array w items hitems =>
      rw [JsonTree.nesting] at hnesting
      obtain ⟨depth, rfl⟩ := Nat.exists_eq_add_of_le' (Nat.lt_of_lt_of_le (Nat.succ_pos _) hnesting)
      simp only [List.length_cons, List.length_append] at hfuel
      rw [List.cons_append, List.append_assoc, valueIn_array (starts_itemsText hitems)]
      rw [List.singleton_append, h.items hitems (by omega) (by omega), JsonTree.value?,
        Option.map_map, Option.map_map]
      rfl
  | emptyObject hgap =>
      obtain ⟨depth, rfl⟩ := Nat.exists_eq_add_of_le' (Nat.lt_of_lt_of_le (Nat.succ_pos _) hnesting)
      rw [List.cons_append, List.append_assoc]
      exact valueIn_emptyObject (skipSpaces_append hgap)
  | @object w fields hfields =>
      rw [JsonTree.nesting] at hnesting
      obtain ⟨depth, rfl⟩ := Nat.exists_eq_add_of_le' (Nat.lt_of_lt_of_le (Nat.succ_pos _) hnesting)
      simp only [List.length_cons, List.length_append] at hfuel
      rw [List.cons_append, List.append_assoc, valueIn_object (starts_fieldsText hfields)]
      rw [List.singleton_append, h.fields hfields (by omega) (by omega), JsonTree.value?,
        Option.map_map, Option.map_map]
      rfl

theorem ends_comma : Ends (',' :: rest) := starts_cons.mpr (by decide)

theorem ends_rightBracket : Ends (']' :: rest) := starts_cons.mpr (by decide)

theorem ends_rightBrace : Ends ('\x7d' :: rest) := starts_cons.mpr (by decide)

theorem ReadsAt.items_succ {items : List JsonTree} (h : ReadsAt number? fuel)
    (hw : ItemsText w items) (hnesting : JsonTree.itemsNesting items ≤ depth)
    (hfuel : 2 * w.length + 1 < fuel + 1) :
    itemsIn number? (fuel + 1) depth (w ++ ']' :: rest) =
      (JsonTree.itemValues? number? items).map (·, rest) := by
  cases hw with
  | @last w item hitem =>
      have hdepth : item.nesting ≤ depth := Nat.max_le.mp hnesting |>.1
      obtain ⟨after, hread, hafter⟩ :=
        h.element hitem hdepth (@ends_rightBracket rest) (by omega)
      have hclose : skipSpaces (']' :: rest) = ']' :: rest := rfl
      rw [itemsIn, hread]
      cases hvalue : item.value? number? <;>
        simp [JsonTree.itemValues?, hvalue, hafter, hclose]
  | @more w more item items hitem hmore =>
      obtain ⟨hdepth, hdepths⟩ := Nat.max_le.mp hnesting
      simp only [List.length_append, List.length_cons] at hfuel
      obtain ⟨after, hread, hafter⟩ :=
        h.element hitem hdepth (@ends_comma (more ++ ']' :: rest)) (by omega)
      have hcomma : skipSpaces (',' :: (more ++ ']' :: rest)) = ',' :: (more ++ ']' :: rest) := rfl
      have hrest := @ReadsAt.items _ _ h depth more rest items hmore hdepths (by omega)
      rw [List.append_assoc, List.cons_append, itemsIn, hread]
      cases hvalue : item.value? number? with
      | none => simp [JsonTree.itemValues?, hvalue]
      | some v =>
          cases hvalues : JsonTree.itemValues? number? items <;>
            simp [JsonTree.itemValues?, hvalue, hvalues, hafter, hcomma, hrest]

theorem ReadsAt.fields_succ {fields : List (String × JsonTree)} (h : ReadsAt number? fuel)
    (hw : FieldsText w fields) (hnesting : JsonTree.fieldsNesting fields ≤ depth)
    (hfuel : 2 * w.length + 1 < fuel + 1) :
    fieldsIn number? (fuel + 1) depth (w ++ '\x7d' :: rest) =
      (JsonTree.fieldValues? number? fields).map (·, rest) := by
  cases hw with
  | @last name w key tree hkey htree =>
      have hdepth : tree.nesting ≤ depth := Nat.max_le.mp hnesting |>.1
      simp only [List.length_append] at hfuel
      obtain ⟨after, hread, hafter⟩ :=
        h.element htree hdepth (@ends_rightBrace rest) (by omega)
      have hclose : skipSpaces ('\x7d' :: rest) = '\x7d' :: rest := rfl
      rw [List.append_assoc, fieldsIn, key?_keyText hkey]
      cases hvalue : tree.value? number? <;>
        simp [JsonTree.fieldValues?, hread, hvalue, hafter, hclose]
  | @more name w more key tree fields hkey htree hmore =>
      obtain ⟨hdepth, hdepths⟩ := Nat.max_le.mp hnesting
      simp only [List.length_append, List.length_cons] at hfuel
      obtain ⟨after, hread, hafter⟩ :=
        h.element htree hdepth (@ends_comma (more ++ '\x7d' :: rest)) (by omega)
      have hcomma : skipSpaces (',' :: (more ++ '\x7d' :: rest)) =
          ',' :: (more ++ '\x7d' :: rest) := rfl
      have hrest := @ReadsAt.fields _ _ h depth more rest fields hmore hdepths (by omega)
      rw [List.append_assoc, List.append_assoc, List.cons_append, fieldsIn, key?_keyText hkey]
      cases hvalue : tree.value? number? with
      | none => simp [JsonTree.fieldValues?, hread, hvalue]
      | some v =>
          cases hvalues : JsonTree.fieldValues? number? fields <;>
            simp [JsonTree.fieldValues?, hread, hvalue, hvalues, hafter, hcomma, hrest]

theorem readsAt (number? : JsonNumeral → Option Number) (fuel : Nat) : ReadsAt number? fuel := by
  induction fuel with
  | zero => exact readsAt_zero
  | succ fuel ih => exact ⟨ih.value_succ, ih.items_succ, ih.fields_succ⟩

/-- A text of the grammar is read as the value of its tree, if it is nested no deeper than the
reader allows; there is none exactly where a numeral has no number. -/
theorem readWithin_elementText {nesting : Nat} (h : ElementText s tree)
    (hnesting : tree.nesting ≤ nesting) : readWithin number? nesting s = tree.value? number? := by
  obtain ⟨after, hread, hafter⟩ := (readsAt number? (2 * s.length + 2)).element h hnesting
    (starts_nil : Ends []) (by omega)
  rw [List.append_nil] at hread
  rw [readWithin, hread]
  cases hvalue : tree.value? number? with
  | none => rfl
  | some v =>
      have hend : skipSpaces after = [] := hafter
      simp [hend]

end JsonText

end Guest
