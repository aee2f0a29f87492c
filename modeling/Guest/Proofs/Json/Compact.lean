import Guest.Proofs.Json.Writing

/-!
# The compact text and the indented one

The compact text of a value has no control character.  Outside of its strings it has no whitespace
either, and the indented text is the compact one with whitespace added there: without it both are
the same text.
-/

namespace Guest

namespace JsonText

variable {c : Char} {w s gap rest : List Char} {n : JsonNumeral} {layout : Layout}

/-! ## Control characters -/

/-- A text without control characters. -/
def NoControl (w : List Char) : Prop := ∀ c ∈ w, Text.isControl c = false

theorem noControl_nil : NoControl [] := List.forall_mem_nil _

theorem noControl_cons : NoControl (c :: w) ↔ Text.isControl c = false ∧ NoControl w :=
  List.forall_mem_cons

theorem noControl_append : NoControl (w ++ s) ↔ NoControl w ∧ NoControl s :=
  List.forall_mem_append

theorem noControl_of_all (h : w.all (fun c => !Text.isControl c) = true) : NoControl w := by
  intro c hc
  simpa using List.all_eq_true.mp h c hc

/-- Tells the characters that are neither control characters nor whitespace and start no
string. -/
def isBare (c : Char) : Bool := !Text.isControl c && !Text.isBlank c && c != '"'

theorem isBare_iff : isBare c = true ↔
    Text.isControl c = false ∧ Text.isBlank c = false ∧ c ≠ '"' := by
  simp [isBare, and_assoc]

/-- A text of such characters. -/
def AllBare (w : List Char) : Prop := ∀ c ∈ w, isBare c = true

theorem isBare_of_isDecimalDigit (h : Numeral.isDecimalDigit c = true) : isBare c = true := by
  refine isBare_iff.mpr ⟨?_, Number.not_isBlank_of_isDecimalDigit h, ?_⟩
  · simp only [Numeral.isDecimalDigit, Bool.and_eq_true, decide_eq_true_eq] at h
    have hlow : 48 ≤ c.toNat := h.1
    have hhigh : c.toNat ≤ 57 := h.2
    simp only [Text.isControl, Bool.or_eq_false_iff, Bool.and_eq_false_iff,
      decide_eq_false_iff_not]
    omega
  · rintro rfl
    cases h

theorem allBare_digits (h : Numeral.AllDigits w) : AllBare w :=
  fun c hc => isBare_of_isDecimalDigit (h c hc)

theorem allBare_fractionText {point fraction : List Char} (h : Number.FractionText point fraction) :
    AllBare point := by
  cases h with
  | none => exact List.forall_mem_nil _
  | point hdigits => exact List.forall_mem_cons.mpr ⟨rfl, allBare_digits hdigits⟩

theorem allBare_exponentText {scale digits : List Char} {negative : Bool}
    (h : Number.ExponentText scale negative digits) : AllBare scale := by
  cases h with
  | none => exact List.forall_mem_nil _
  | scale hmark hsign hdigits =>
      refine List.forall_mem_cons.mpr ⟨?_, List.forall_mem_append.mpr ⟨?_, allBare_digits hdigits⟩⟩
      · rcases hmark with rfl | rfl <;> rfl
      · cases hsign with
        | none => exact List.forall_mem_nil _
        | plus => exact List.forall_mem_singleton.mpr rfl
        | minus => exact List.forall_mem_singleton.mpr rfl

theorem allBare_numeralText (h : NumeralText w n) : AllBare w := by
  cases h with
  | @parts whole fraction digits point scale negative exponentNegative hwhole _ _ hpoint _ hscale =>
      have hunsigned : AllBare (whole ++ (point ++ scale)) :=
        List.forall_mem_append.mpr ⟨allBare_digits hwhole, List.forall_mem_append.mpr
          ⟨allBare_fractionText hpoint, allBare_exponentText hscale⟩⟩
      cases negative with
      | true => exact List.forall_mem_cons.mpr ⟨rfl, hunsigned⟩
      | false => exact hunsigned

theorem allBare_number (x : Number) : AllBare (number x) := by
  rw [number]
  split
  · next hx => exact allBare_numeralText (Number.numeralText_numeral hx)
  · exact List.all_eq_true.mp rfl

theorem noControl_hexDigits (code : Nat) : NoControl (hexDigits code) := by
  have hdigit : ∀ k < 16, Text.isControl (Numeral.digit k) = false := by decide
  have hall (k : Nat) : Text.isControl (Numeral.digit (k % 16)) = false :=
    hdigit _ (Nat.mod_lt _ (by decide))
  simp [NoControl, hexDigits, hall]

theorem noControl_escaped (c : Char) : NoControl (escaped c) := by
  unfold escaped
  split
  · exact noControl_of_all rfl
  split
  · exact noControl_of_all rfl
  split
  · exact noControl_of_all rfl
  split
  · exact noControl_of_all rfl
  split
  · exact noControl_of_all rfl
  split
  · exact noControl_cons.mpr ⟨rfl,
      noControl_cons.mpr ⟨rfl, noControl_hexDigits _⟩⟩
  · next hcontrol => exact noControl_cons.mpr ⟨Bool.eq_false_of_not_eq_true hcontrol, noControl_nil⟩

theorem noControl_string (s : List Char) : NoControl (string s) := by
  have hbody : NoControl (s.flatMap escaped) := by
    intro c hc
    obtain ⟨a, -, ha⟩ := List.mem_flatMap.mp hc
    exact noControl_escaped a c ha
  exact noControl_cons.mpr ⟨rfl, noControl_append.mpr ⟨hbody, noControl_of_all rfl⟩⟩

theorem write_compact_array (items : List Value) :
    write .compact (.array items) = '[' :: (writeItems .compact items ++ [']']) := by
  simp [write, Layout.deeper, Layout.lineStart]

theorem write_compact_object (fields : List (String × Value)) :
    write .compact (.object fields) = '\x7b' :: (writeFields .compact fields ++ ['\x7d']) := by
  simp [write, Layout.deeper, Layout.lineStart]

mutual

/-- The compact text has no control character. -/
theorem noControl_write : ∀ v : Value, NoControl (write .compact v)
  | .null => noControl_of_all rfl
  | .boolean true => noControl_of_all rfl
  | .boolean false => noControl_of_all rfl
  | .number x => fun c hc => (isBare_iff.mp (allBare_number x c hc)).1
  | .string s => noControl_string s.toList
  | .array items => by
      have hitems := noControl_writeItems items
      rw [write_compact_array]
      exact noControl_cons.mpr ⟨rfl, noControl_append.mpr ⟨hitems, noControl_of_all rfl⟩⟩
  | .object fields => by
      have hfields := noControl_writeFields fields
      rw [write_compact_object]
      exact noControl_cons.mpr ⟨rfl, noControl_append.mpr ⟨hfields, noControl_of_all rfl⟩⟩

theorem noControl_writeItems : ∀ items : List Value, NoControl (writeItems .compact items)
  | [] => noControl_nil
  | [item] => noControl_write item
  | item :: next :: rest => by
      have hitem := noControl_write item
      have hrest := noControl_writeItems (next :: rest)
      rw [writeItems_cons_cons, Layout.lineStart, List.nil_append]
      exact noControl_append.mpr ⟨hitem, noControl_cons.mpr ⟨rfl, hrest⟩⟩

theorem noControl_writeFields :
    ∀ fields : List (String × Value), NoControl (writeFields .compact fields)
  | [] => noControl_nil
  | [(key, value)] => by
      have hvalue := noControl_write value
      have hkey := noControl_string key.toList
      rw [writeFields]
      exact noControl_append.mpr ⟨noControl_append.mpr ⟨hkey, noControl_of_all rfl⟩, hvalue⟩
  | (key, value) :: next :: rest => by
      have hvalue := noControl_write value
      have hkey := noControl_string key.toList
      have hrest := noControl_writeFields (next :: rest)
      rw [writeFields_cons_cons, Layout.lineStart, Layout.colon, List.nil_append,
        List.singleton_append]
      exact noControl_append.mpr ⟨hkey, noControl_cons.mpr ⟨rfl,
        noControl_append.mpr ⟨hvalue, noControl_cons.mpr ⟨rfl, hrest⟩⟩⟩⟩

end

/-! ## Whitespace outside of strings -/

/-- Where a character of a text stands. -/
inductive Region where
  | outside
  | inside
  /-- In a string, behind a backslash. -/
  | escape
  deriving DecidableEq

/-- Where the next character stands. -/
def Region.next : Region → Char → Region
  | outside, c => if c = '"' then inside else outside
  | inside, c => if c = '"' then outside else if c = '\\' then escape else inside
  | escape, _ => inside

/-- The text without the whitespace outside of its strings. -/
def compress : Region → List Char → List Char
  | _, [] => []
  | region, c :: rest =>
    if region = .outside ∧ Text.isBlank c then compress .outside rest
    else c :: compress (region.next c) rest

theorem compress_blank (h : Text.isBlank c = true) :
    compress .outside (c :: rest) = compress .outside rest :=
  if_pos ⟨rfl, h⟩

theorem compress_cons (h : isBare c = true) :
    compress .outside (c :: rest) = c :: compress .outside rest := by
  obtain ⟨-, hblank, hquote⟩ := isBare_iff.mp h
  have hkept : ¬(Region.outside = .outside ∧ Text.isBlank c = true) := by simp [hblank]
  have hnext : Region.outside.next c = .outside := if_neg hquote
  have hstep : compress .outside (c :: rest) = c :: compress (Region.outside.next c) rest :=
    if_neg hkept
  rw [hstep, hnext]

theorem compress_openingQuote :
    compress .outside ('"' :: rest) = '"' :: compress .inside rest := rfl

theorem compress_closingQuote :
    compress .inside ('"' :: rest) = '"' :: compress .outside rest := rfl

theorem compress_escape (c : Char) :
    compress .inside ('\\' :: c :: rest) = '\\' :: c :: compress .inside rest := rfl

theorem compress_plain (hquote : c ≠ '"') (hbackslash : c ≠ '\\') :
    compress .inside (c :: rest) = c :: compress .inside rest := by
  have hnext : Region.inside.next c = .inside := (if_neg hquote).trans (if_neg hbackslash)
  have hstep : compress .inside (c :: rest) = c :: compress (Region.inside.next c) rest := rfl
  rw [hstep, hnext]

theorem compress_bare (h : AllBare w) :
    compress .outside (w ++ rest) = w ++ compress .outside rest := by
  induction w with
  | nil => rfl
  | cons c w ih =>
      obtain ⟨hc, hw⟩ := List.forall_mem_cons.mp h
      rw [List.cons_append, compress_cons hc, ih hw, List.cons_append]

theorem compress_spaces (h : Spaces gap) :
    compress .outside (gap ++ rest) = compress .outside rest := by
  induction gap with
  | nil => rfl
  | cons c gap ih =>
      obtain ⟨hc, hgap⟩ := List.forall_mem_cons.mp h
      have hblank : Text.isBlank c = true := by
        simp only [isSpace, Bool.or_eq_true, beq_iff_eq] at hc
        rcases hc with ((rfl | rfl) | rfl) | rfl <;> rfl
      rw [List.cons_append, compress_blank hblank, ih hgap]

theorem compress_unitText {digits : List Char} {unit : Nat} (h : UnitText digits unit) :
    compress .inside (digits ++ rest) = digits ++ compress .inside rest := by
  have hne {c : Char} {i : Nat} (hc : Numeral.digitValue? 16 c = some i) : c ≠ '"' ∧ c ≠ '\\' := by
    constructor
    · rintro rfl
      cases hc
    · rintro rfl
      cases hc
  cases h with
  | digits ha hb hc hd =>
      simp only [List.cons_append, List.nil_append]
      rw [compress_plain (hne ha).1 (hne ha).2, compress_plain (hne hb).1 (hne hb).2,
        compress_plain (hne hc).1 (hne hc).2, compress_plain (hne hd).1 (hne hd).2]

/-- A string stays as it is, whatever whitespace it holds. -/
theorem compress_characters (h : Characters w s) :
    compress .inside (w ++ '"' :: rest) = w ++ '"' :: compress .outside rest := by
  induction h with
  | nil => exact compress_closingQuote
  | plain _ hquote hbackslash _ ih =>
      rw [List.cons_append, compress_plain hquote hbackslash, ih, List.cons_append]
  | short _ _ ih =>
      rw [List.cons_append, List.cons_append, compress_escape, ih, List.cons_append,
        List.cons_append]
  | unit hunit _ _ _ ih =>
      rw [List.cons_append, List.cons_append, List.append_assoc, compress_escape,
        compress_unitText hunit, ih]
      simp
  | pair hhigh _ hlow _ _ ih =>
      rw [List.cons_append, List.cons_append, List.append_assoc, compress_escape,
        compress_unitText hhigh, List.cons_append, List.cons_append, List.append_assoc,
        compress_escape, compress_unitText hlow, ih]
      simp

theorem compress_string (s : List Char) :
    compress .outside (string s ++ rest) = string s ++ compress .outside rest := by
  have hbody := @compress_characters _ s rest (characters_flatMap s)
  simp only [string, List.cons_append, List.append_assoc, List.nil_append]
  rw [compress_openingQuote, hbody]

theorem compress_lineStart :
    compress .outside (layout.lineStart ++ rest) = compress .outside rest :=
  compress_spaces spaces_lineStart

theorem compress_colon :
    compress .outside (layout.colon ++ rest) = ':' :: compress .outside rest := by
  obtain ⟨gap, hcolon, hgap⟩ := exists_colon layout
  rw [hcolon, List.cons_append, compress_cons rfl, compress_spaces hgap]

mutual

/-- Without the whitespace outside of its strings every text of a value is the compact one. -/
theorem compress_write (layout : Layout) :
    ∀ (v : Value) (rest : List Char),
      compress .outside (write layout v ++ rest) = write .compact v ++ compress .outside rest
  | .null, rest => @compress_bare nullWord rest (List.all_eq_true.mp rfl)
  | .boolean true, rest => @compress_bare ['t', 'r', 'u', 'e'] rest (List.all_eq_true.mp rfl)
  | .boolean false, rest => @compress_bare ['f', 'a', 'l', 's', 'e'] rest (List.all_eq_true.mp rfl)
  | .number x, _ => compress_bare (allBare_number x)
  | .string s, _ => compress_string s.toList
  | .array items, rest => by
      have hclose : compress .outside
          ((if items.isEmpty then [] else layout.lineStart) ++ ']' :: rest) =
            ']' :: compress .outside rest := by
        split
        · exact compress_cons rfl
        · rw [compress_lineStart, compress_cons rfl]
      rw [write, write_compact_array]
      simp only [List.cons_append, List.append_assoc, List.nil_append]
      rw [compress_cons rfl, compress_writeItems layout.deeper items, hclose]
  | .object fields, rest => by
      have hclose : compress .outside
          ((if fields.isEmpty then [] else layout.lineStart) ++ '\x7d' :: rest) =
            '\x7d' :: compress .outside rest := by
        split
        · exact compress_cons rfl
        · rw [compress_lineStart, compress_cons rfl]
      rw [write, write_compact_object]
      simp only [List.cons_append, List.append_assoc, List.nil_append]
      rw [compress_cons rfl, compress_writeFields layout.deeper fields, hclose]

theorem compress_writeItems (layout : Layout) :
    ∀ (items : List Value) (rest : List Char),
      compress .outside (writeItems layout items ++ rest) =
        writeItems .compact items ++ compress .outside rest
  | [], _ => rfl
  | [item], rest => by
      rw [writeItems, writeItems, List.append_assoc, compress_lineStart,
        compress_write layout item]
      rfl
  | item :: next :: more, rest => by
      have hrest := compress_writeItems layout (next :: more) rest
      rw [writeItems_cons_cons, writeItems_cons_cons]
      simp only [List.cons_append, List.append_assoc]
      rw [compress_lineStart, compress_write layout item, compress_cons rfl, hrest]
      rfl

theorem compress_writeFields (layout : Layout) :
    ∀ (fields : List (String × Value)) (rest : List Char),
      compress .outside (writeFields layout fields ++ rest) =
        writeFields .compact fields ++ compress .outside rest
  | [], _ => rfl
  | [(key, value)], rest => by
      rw [writeFields, writeFields]
      simp only [List.append_assoc]
      rw [compress_lineStart, compress_string, compress_colon, compress_write layout value]
      rfl
  | (key, value) :: next :: more, rest => by
      have hrest := compress_writeFields layout (next :: more) rest
      rw [writeFields_cons_cons, writeFields_cons_cons]
      simp only [List.cons_append, List.append_assoc]
      rw [compress_lineStart, compress_string, compress_colon, compress_write layout value,
        compress_cons rfl, hrest]
      rfl

end

end JsonText

end Guest
