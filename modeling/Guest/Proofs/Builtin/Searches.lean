import Guest.Proofs.Builtin.Positions
import Guest.Proofs.Number.Words
import Guest.Proofs.Text.Bytes
import Guest.Proofs.Text.Pieces

/-!
# Searching, splitting and replacing

The functions that search a text convert a position into an offset among the bytes, compare bytes
from there on, and convert what they found back.  Yet they agree on where another text occurs, in
characters and from the same position on.  Splitting, replacing and searching agree as well: the
pieces are what is between the occurrences that are replaced, and the first of these is the one that
is found.
-/

namespace Guest

namespace Number

theorem scaled_ofNat_nonneg (n : Nat) : 0 ≤ (ofNat n).scaled := by
  cases hx : ofNat n with
  | nan => exact Int.le_refl 0
  | infinite => exact Int.le_refl 0
  | finite negative units hunits =>
      rw [ofNat, ofUnits] at hx
      have hsign : negative = false := eq_of_ofRatio hx
      subst hsign
      exact Int.natCast_nonneg units

theorem ofNat_ne_minusOne (n : Nat) : ofNat n ≠ one.neg := by
  intro h
  have hexact : one.neg.IsExactly (-1) := (isExactly_ofNat (by decide : 1 ≤ 2 ^ 53)).neg
  have hnonneg := scaled_ofNat_nonneg n
  rw [h, hexact.scaled] at hnonneg
  have hunit := unit_pos
  omega

end Number

namespace Builtin

open Arguments (chars number?)
open Text (OccursAt)

/-! ## From bytes to characters -/

theorem startIn_le (args : Arguments) (n : Nat) : startIn args n ≤ n := Number.clampedIndex_le _ n

/-- The position that the third argument stands for in the first one. -/
def start (args : Arguments) : Nat := startIn args (chars args 0).length

theorem startOffset_eq (args : Arguments) :
    startOffset args = Text.offsetOf (chars args 0) (start args) :=
  Text.byteOffset_eq _ _

/-- The bytes from the offset of a position on are those of the characters from the position on. -/
theorem tail_eq (args : Arguments) : tail args = Text.bytes ((chars args 0).drop (start args)) := by
  rw [tail, startOffset_eq, Text.drop_offsetOf]

theorem startsWith_eq (args : Arguments) : startsWith args =
    .ok (.boolean (Text.startsWith (chars args 1) ((chars args 0).drop (start args)))) := by
  rw [startsWith, tail_eq, Text.startsWith_bytes]

theorem includes_eq (args : Arguments) : includes args =
    .ok (.boolean (Text.contains (chars args 1) ((chars args 0).drop (start args)))) := by
  rw [includes, tail_eq, Text.contains_bytes]

/-- An index that is found among the bytes from the offset of a position on is counted in characters
again. -/
theorem indexOf_eq_drop (args : Arguments) : indexOf args =
    .ok (indexOr ((Text.indexOf? (chars args 1) ((chars args 0).drop (start args))).map
      (start args + ·))) := by
  have hstart : start args ≤ (chars args 0).length := startIn_le _ _
  rw [indexOf, tail_eq, Text.indexOf?_bytes, Option.map_map, startOffset_eq]
  refine congrArg (fun index? => Except.ok (indexOr index?)) (Option.map_congr fun i hi => ?_)
  have hle := (Text.isLeast_of_indexOf? hi).1.add_length_le
  rw [List.length_drop] at hle
  rw [Function.comp_apply, ← Text.offsetOf_add, Text.charIndex_offsetOf (by omega)]

theorem lastIndexOf_eq (args : Arguments) : lastIndexOf args =
    .ok (indexOr (Text.lastIndexOf? (chars args 1) (chars args 0))) := by
  have hfound : (Text.lastIndexOf? (chars args 1) (chars args 0)).map
      (Text.charIndex (chars args 0) ∘ Text.offsetOf (chars args 0)) =
      (Text.lastIndexOf? (chars args 1) (chars args 0)).map id := by
    refine Option.map_congr fun i hi => ?_
    have hle := (Text.isGreatest_of_lastIndexOf? hi).1.add_length_le
    exact Text.charIndex_offsetOf (Nat.le_trans (Nat.le_add_right _ _) hle)
  rw [lastIndexOf, Text.lastIndexOf?_bytes, Option.map_map, hfound, Option.map_id_apply]

theorem endsWith_eq (args : Arguments) : endsWith args =
    .ok (.boolean (Text.endsWith (chars args 1) ((chars args 0).take
      (((number? args 2).map fun x => x.clampedIndex (chars args 0).length).getD
        (chars args 0).length)))) := by
  rw [endsWith, Text.endsWith_bytes]

variable {s p r : String} {x : Number} {k : Int} {i c : Nat} {index? : Option Nat}

/-! ## Searching -/

/-- An index is told apart from a missing one. -/
theorem indexOr_eq_minusOne_iff :
    indexOr index? = .number Number.one.neg ↔ index? = none := by
  cases index? with
  | none => exact iff_of_true rfl rfl
  | some i =>
      refine iff_of_false (fun h => ?_) nofun
      exact Number.ofNat_ne_minusOne i (Value.number.inj h)

theorem start_eq (hk : x.IsExactly k) :
    start [.string s, .string p, .number x] = Nat.min k.toNat s.length := by
  rw [← String.length_toList]
  exact hk.clampedIndex_eq _

theorem clamped_le_length (k : Int) (s : String) : Nat.min k.toNat s.length ≤ s.toList.length := by
  rw [String.length_toList]
  exact Nat.min_le_right _ _

/-- The first occurrence from a position on is the first one in what is behind the position. -/
theorem isLeast_drop_of_isLeast {p s : List Char} (hc : c ≤ s.length)
    (h : IsLeast {i | c ≤ i ∧ OccursAt p s i} i) :
    IsLeast {i | OccursAt p (s.drop c) i} (i - c) := by
  obtain ⟨⟨hle, hoccurs⟩, hleast⟩ := h
  refine ⟨(Text.occursAt_drop_iff hc).mpr ?_, fun j hj => ?_⟩
  · rwa [Nat.add_sub_cancel' hle]
  · have hbound := hleast ⟨Nat.le_add_right c j, (Text.occursAt_drop_iff hc).mp hj⟩
    omega

/-- The index is that of the search behind the position, counted from the start. -/
theorem indexOf_eq_from (hk : x.IsExactly k) :
    indexOf [.string s, .string p, .number x] =
      .ok (indexOr ((Text.indexOf? p.toList (s.toList.drop (Nat.min k.toNat s.length))).map
        (Nat.min k.toNat s.length + ·))) := by
  rw [indexOf_eq_drop, start_eq hk]
  rfl

theorem indexOf_of_isLeast (hk : x.IsExactly k)
    (h : IsLeast {i | Nat.min k.toNat s.length ≤ i ∧ OccursAt p.toList s.toList i} i) :
    indexOf [.string s, .string p, .number x] = .ok (.ofCount i) := by
  have hbehind := isLeast_drop_of_isLeast (clamped_le_length k s) h
  rw [indexOf_eq_from hk, Text.indexOf?_eq_some_iff.mpr hbehind, Option.map_some,
    Nat.add_sub_cancel' h.1.1]
  rfl

theorem indexOf_of_not_occursAt (hk : x.IsExactly k)
    (h : ∀ i, Nat.min k.toNat s.length ≤ i → ¬OccursAt p.toList s.toList i) :
    indexOf [.string s, .string p, .number x] = .ok (.number Number.one.neg) := by
  have hbehind (i : Nat) :
      ¬OccursAt p.toList (s.toList.drop (Nat.min k.toNat s.length)) i := fun hi =>
    h _ (Nat.le_add_right _ i) ((Text.occursAt_drop_iff (clamped_le_length k s)).mp hi)
  rw [indexOf_eq_from hk, Text.indexOf?_eq_none_iff.mpr hbehind]
  rfl

theorem startsWith_eq_iff (hk : x.IsExactly k) :
    ∃ b, startsWith [.string s, .string p, .number x] = .ok (.boolean b) ∧
      (b = true ↔ OccursAt p.toList s.toList (Nat.min k.toNat s.length)) := by
  refine ⟨_, startsWith_eq _, ?_⟩
  rw [start_eq hk]
  exact Text.startsWith_drop_iff (clamped_le_length k s)

theorem includes_eq_iff (hk : x.IsExactly k) :
    ∃ b, includes [.string s, .string p, .number x] = .ok (.boolean b) ∧
      (b = true ↔
        indexOf [.string s, .string p, .number x] ≠ .ok (.number Number.one.neg)) := by
  refine ⟨_, includes_eq _, ?_⟩
  rw [indexOf_eq_from hk, Ne, Except.ok.injEq, indexOr_eq_minusOne_iff, Option.map_eq_none_iff,
    start_eq hk]
  exact Text.contains_iff

theorem endsWith_eq_iff (hk : x.IsExactly k) :
    ∃ b, endsWith [.string s, .string p, .number x] = .ok (.boolean b) ∧
      (b = true ↔ p.length ≤ Nat.min k.toNat s.length ∧
        OccursAt p.toList s.toList (Nat.min k.toNat s.length - p.length)) := by
  refine ⟨_, endsWith_eq _, ?_⟩
  rw [← String.length_toList (s := p), ← Text.endsWith_take_iff (clamped_le_length k s),
    ← start_eq (s := s) (p := p) hk]
  rfl

theorem lastIndexOf_of_isGreatest (h : IsGreatest {i | OccursAt p.toList s.toList i} i) :
    lastIndexOf [.string s, .string p] = .ok (.ofCount i) := by
  have hsearch := Text.lastIndexOf?_eq_some_iff.mpr h
  exact (lastIndexOf_eq _).trans (congrArg (fun index? => Except.ok (indexOr index?)) hsearch)

theorem lastIndexOf_of_not_occursAt (h : ∀ i, ¬OccursAt p.toList s.toList i) :
    lastIndexOf [.string s, .string p] = .ok (.number Number.one.neg) := by
  have hsearch := Text.lastIndexOf?_eq_none_iff.mpr h
  exact (lastIndexOf_eq _).trans (congrArg (fun index? => Except.ok (indexOr index?)) hsearch)

/-- The searches agree: the tests and the indices speak of the same occurrences, counted in
characters, from the position that the number stands for. -/
theorem searches_agree (s p : String) (hk : x.IsExactly k) :
    let c := Nat.min k.toNat s.length
    let occurs (i : Nat) : Prop := OccursAt p.toList s.toList i
    let args : List Value := [.string s, .string p, .number x]
    (∃ b, startsWith args = .ok (.boolean b) ∧ (b = true ↔ occurs c)) ∧
    (∀ i, IsLeast {i | c ≤ i ∧ occurs i} i → indexOf args = .ok (.ofCount i)) ∧
    ((∀ i, c ≤ i → ¬occurs i) → indexOf args = .ok (.number Number.one.neg)) ∧
    (∃ b, includes args = .ok (.boolean b) ∧
      (b = true ↔ indexOf args ≠ .ok (.number Number.one.neg))) ∧
    (∀ i, IsGreatest {i | occurs i} i →
      lastIndexOf [.string s, .string p] = .ok (.ofCount i)) ∧
    ((∀ i, ¬occurs i) → lastIndexOf [.string s, .string p] = .ok (.number Number.one.neg)) ∧
    (∃ b, endsWith args = .ok (.boolean b) ∧
      (b = true ↔ p.length ≤ c ∧ occurs (c - p.length))) ∧
    (p = "" → ∀ i, occurs i ↔ i ≤ s.length) := by
  intro c occurs args
  refine ⟨startsWith_eq_iff hk, fun i => indexOf_of_isLeast hk, indexOf_of_not_occursAt hk,
    includes_eq_iff hk, fun i => lastIndexOf_of_isGreatest, lastIndexOf_of_not_occursAt,
    endsWith_eq_iff hk, fun hp i => ?empty⟩
  case empty =>
    subst hp
    rw [← String.length_toList]
    exact Text.occursAt_nil_iff

/-- Positions count characters, however many bytes each of them takes, and a search from between two
occurrences finds the second. -/
theorem searches_agree_multibyte :
    (Number.ofNat 1).IsExactly (1 : Nat) ∧
    startsWith [.string "é→é", .string "é", .number (.ofNat 1)] = .ok (.boolean false) ∧
    indexOf [.string "é→é", .string "é", .number (.ofNat 1)] = .ok (.ofCount 2) ∧
    lastIndexOf [.string "é→é", .string "é"] = .ok (.ofCount 2) ∧
    endsWith [.string "é→é", .string "é", .number (.ofNat 1)] = .ok (.boolean true) := by
  have hexact : (Number.ofNat 1).IsExactly (1 : Nat) := Number.isExactly_ofNat (by decide)
  obtain ⟨⟨starts, hstarts, hstart⟩, hleast, -, -, hgreatest, -, ⟨ends, hends, hend⟩, -⟩ :=
    searches_agree "é→é" "é" hexact
  have hfirst : OccursAt "é".toList "é→é".toList 0 := ⟨[], ['→', 'é'], rfl, rfl⟩
  have hsecond : OccursAt "é".toList "é→é".toList 2 := ⟨['é', '→'], [], rfl, rfl⟩
  have hbetween : ¬OccursAt "é".toList "é→é".toList 1 := fun h =>
    absurd ((Text.occursAt_iff_prefix_drop (by decide)).mp h) (by decide)
  have hbound {i : Nat} (h : OccursAt "é".toList "é→é".toList i) : i + 1 ≤ 3 := h.add_length_le
  obtain rfl : starts = false := Bool.eq_false_iff.mpr fun h => hbetween (hstart.mp h)
  obtain rfl : ends = true := hend.mpr ⟨by decide, hfirst⟩
  refine ⟨hexact, hstarts, hleast 2 ⟨⟨by decide, hsecond⟩, ?_⟩, hgreatest 2 ⟨hsecond, ?_⟩, hends⟩
  · rintro i ⟨hi, hoccurs⟩
    refine Nat.lt_of_le_of_ne (show 1 ≤ i from hi) ?_
    rintro rfl
    exact hbetween hoccurs
  · intro i hoccurs
    exact Nat.le_of_succ_le_succ (hbound hoccurs)

/-! ## Splitting and replacing -/

theorem pieces_eq_splitOn {p s : List Char} (hp : p ≠ []) :
    pieces s (some p) = Text.splitOn p s := by
  cases p with
  | nil => exact absurd rfl hp
  | cons c more => rfl

theorem split_eq : split [.string s, .string p] =
    .ok (.array (((pieces s.toList (some p.toList)).map String.ofList).map .string)) := by
  rw [List.map_map]
  rfl

theorem split_eq_take : split [.string s, .string p, .number x] =
    .ok (.array ((((pieces s.toList (some p.toList)).map String.ofList).take x.toUnsigned).map
      .string)) := by
  rw [← List.map_take, List.map_map]
  rfl

theorem toUnsigned_eq_of_isExactly {k : Nat} (h : x.IsExactly k) (hk : k < 2 ^ 32) :
    x.toUnsigned = k := by
  rw [Number.toUnsigned_eq, h.truncated_eq, ← Int.natCast_mod, Int.toNat_natCast,
    Nat.mod_eq_of_lt hk]

/-- To join the pieces is to join their characters. -/
theorem ofList_intercalate (separator : String) (pieces : List (List Char)) :
    separator.intercalate (pieces.map String.ofList) =
      String.ofList (separator.toList.intercalate pieces) := by
  have hchars : (pieces.map String.ofList).map String.toList = pieces := by
    rw [List.map_map]
    exact List.map_id'' (fun _ => String.toList_ofList) pieces
  rw [← String.toList_inj, String.toList_intercalate, String.toList_ofList, hchars]

/-- Without a position the whole text is searched. -/
theorem indexOf_eq : indexOf [.string s, .string p] =
    .ok (indexOr (Text.indexOf? p.toList s.toList)) := by
  have hzero (found? : Option Nat) : found?.map (0 + ·) = found? := by
    cases found? with
    | none => rfl
    | some i => exact congrArg some (Nat.zero_add i)
  have hstart : start [.string s, .string p] = 0 :=
    (Number.isExactly_zero.clampedIndex_eq _).trans (Nat.zero_min _)
  rw [indexOf_eq_drop, hstart, List.drop_zero, hzero]
  rfl

theorem indexOf_eq_minusOne_iff :
    indexOf [.string s, .string p] = .ok (.number Number.one.neg) ↔
      Text.indexOf? p.toList s.toList = none := by
  rw [indexOf_eq, Except.ok.injEq, indexOr_eq_minusOne_iff]

theorem replace_of_missing
    (h : indexOf [.string s, .string p] = .ok (.number Number.one.neg)) :
    replace [.string s, .string p, .string r] = .ok (.string s) := by
  have hnone := Text.indexOf?_eq_none_iff.mp (indexOf_eq_minusOne_iff.mp h)
  change Except.ok (Value.ofChars (Text.replaceFirst p.toList r.toList s.toList)) = _
  rw [Text.replaceFirst_of_not_occursAt hnone, Value.ofChars, String.ofList_toList]

theorem replace_of_found
    (h : indexOf [.string s, .string p] ≠ .ok (.number Number.one.neg)) :
    ∃ before after : String, s = before ++ p ++ after ∧
      indexOf [.string s, .string p] = .ok (.ofCount before.length) ∧
      replace [.string s, .string p, .string r] = .ok (.string (before ++ r ++ after)) := by
  obtain ⟨i, hindex⟩ := Option.ne_none_iff_exists'.mp (h ∘ indexOf_eq_minusOne_iff.mpr)
  have hleast := Text.isLeast_of_indexOf? hindex
  obtain ⟨before, after, hs, rfl⟩ := hleast.1
  refine ⟨String.ofList before, String.ofList after, ?_, ?_, ?_⟩
  · simp only [← String.toList_inj, String.toList_append, String.toList_ofList, hs]
  · rw [indexOf_eq, hindex, String.length_ofList]
    rfl
  · change Except.ok (Value.ofChars (Text.replaceFirst p.toList r.toList s.toList)) = _
    rw [hs] at hleast ⊢
    rw [Text.replaceFirst_of_isLeast hleast, Value.ofChars, String.ofList_append,
      String.ofList_append, String.ofList_toList]

/-- Splitting, replacing and searching agree: the pieces are free of the separator and make up the
text when it joins them, every replacement stands where it did, the first one is at the index that
the search finds, and a limit keeps as many of the pieces. -/
theorem splitting_replacing_agree (s p r : String) :
    ∃ pieces : List String,
      split [.string s, .string p] = .ok (.array (pieces.map .string)) ∧
      (p ≠ "" →
        p.intercalate pieces = s ∧ (∀ piece ∈ pieces, ¬p.toList <:+: piece.toList) ∧
        replaceAll [.string s, .string p, .string r] = .ok (.string (r.intercalate pieces))) ∧
      (indexOf [.string s, .string p] = .ok (.number Number.one.neg) →
        replace [.string s, .string p, .string r] = .ok (.string s)) ∧
      (indexOf [.string s, .string p] ≠ .ok (.number Number.one.neg) →
        ∃ before after : String, s = before ++ p ++ after ∧
          indexOf [.string s, .string p] = .ok (.ofCount before.length) ∧
          replace [.string s, .string p, .string r] = .ok (.string (before ++ r ++ after))) ∧
      ∀ (x : Number) (k : Nat), x.IsExactly k → k < 2 ^ 32 →
        split [.string s, .string p, .number x] = .ok (.array ((pieces.take k).map .string)) := by
  refine ⟨_, split_eq, fun hp => ?joined, replace_of_missing, replace_of_found,
    fun x k hexact hk => ?limited⟩
  case joined =>
    have hpattern : p.toList ≠ [] := hp ∘ String.toList_eq_nil_iff.mp
    rw [pieces_eq_splitOn hpattern]
    refine ⟨?_, fun piece hpiece => ?_, ?_⟩
    · rw [ofList_intercalate, Text.intercalate_splitOn hpattern, String.ofList_toList]
    · obtain ⟨piece, hmem, rfl⟩ := List.mem_map.mp hpiece
      rw [String.toList_ofList]
      exact Text.not_infix_of_mem_splitOn hpattern _ piece hmem
    · rw [ofList_intercalate, ← Text.replaceAll_eq_intercalate hpattern]
      rfl
  case limited =>
    rw [split_eq_take, toUnsigned_eq_of_isExactly hexact hk]

/-- Of two occurrences that overlap the first separates; where there is none, nothing is replaced. -/
theorem overlapping_occurrences_separate_once :
    "éé" ≠ "" ∧ (Number.ofNat 1).IsExactly (1 : Nat) ∧
    split [.string "ééé", .string "éé"] = .ok (.array [.string "", .string "é"]) ∧
    "éé".intercalate ["", "é"] = "ééé" ∧
    replaceAll [.string "ééé", .string "éé", .string "x"] =
      .ok (.string ("x".intercalate ["", "é"])) ∧
    split [.string "ééé", .string "éé", .number (.ofNat 1)] = .ok (.array [.string ""]) ∧
    (∃ before after : String, "ééé" = before ++ "éé" ++ after ∧
      replace [.string "ééé", .string "éé", .string "x"] = .ok (.string (before ++ "x" ++ after))) ∧
    replace [.string "ééé", .string "→", .string "x"] = .ok (.string "ééé") := by
  have hnonempty : "éé" ≠ "" := by decide
  have hexact : (Number.ofNat 1).IsExactly (1 : Nat) := Number.isExactly_ofNat (by decide)
  have hsplit : split [.string "ééé", .string "éé"] = .ok (.array [.string "", .string "é"]) := rfl
  have hfound : indexOf [.string "ééé", .string "éé"] ≠ .ok (.number Number.one.neg) :=
    fun h => absurd (indexOf_eq_minusOne_iff.mp h) (by decide)
  have hmissing : indexOf [.string "ééé", .string "→"] = .ok (.number Number.one.neg) :=
    indexOf_eq_minusOne_iff.mpr (by decide)
  obtain ⟨pieces, hpieces, hjoined, -, hreplace, hlimited⟩ :=
    splitting_replacing_agree "ééé" "éé" "x"
  obtain ⟨-, -, -, hunchanged, -⟩ := splitting_replacing_agree "ééé" "→" "x"
  have hvalues : ["", "é"].map Value.string = pieces.map Value.string :=
    Value.array.inj (Except.ok.inj (hsplit.symm.trans hpieces))
  obtain rfl := List.map_injective_iff.mpr (fun _ _ => Value.string.inj) hvalues
  obtain ⟨hjoin, -, hreplaceAll⟩ := hjoined hnonempty
  obtain ⟨before, after, hwhole, -, hreplaced⟩ := hreplace hfound
  exact ⟨hnonempty, hexact, hsplit, hjoin, hreplaceAll, hlimited _ 1 hexact (by decide),
    ⟨before, after, hwhole, hreplaced⟩, hunchanged hmissing⟩

end Builtin

end Guest
