import Guest.Pattern.Parser
import Guest.Proofs.Number.Scanner
import Guest.Proofs.Pattern.Programs

/-!
# The patterns of literals

The conversions search for fixed patterns, and a search tries the parts that may be left out in the
order of the pattern.  Part by part the first way through a pattern is what the scanner of literals
reads, and every way covers a literal.  So the literal that is found at the front of a text is the
one that the scanner reads, and a text is matched as a whole exactly if the scanner reads it to its
end.
-/

namespace Guest
namespace Number

open Lexeme (Starts starts_nil starts_cons NoDigit fractionPart)
open Numeral (AllDigits)
open Pattern Pattern.Searcher

variable {searcher : Searcher} {start stop n : Nat} {w tail after : List Char} {c d : Char}
  {l : Literal} {x : Number} {s : List Char}

/-! ## Sets -/

theorem inRanges_digits : Text.inRanges [('0'.toNat, '9'.toNat)] c.toNat = true ↔
    Numeral.isDecimalDigit c = true := by
  rw [Text.inRanges, Numeral.isDecimalDigit, Bool.and_eq_true, decide_eq_true_iff,
    decide_eq_true_iff]
  split
  · next hlt => exact iff_of_false Bool.false_ne_true fun h => absurd h.1 (Nat.not_le_of_lt hlt)
  · next hle =>
      rw [Text.inRanges, Bool.or_false, decide_eq_true_iff]
      exact ⟨fun h => ⟨Nat.le_of_not_lt hle, h⟩, And.right⟩

theorem inRanges_character : Text.inRanges [(c.toNat, c.toNat)] d.toNat = true ↔ d = c := by
  rw [Text.inRanges, Text.inRanges, Bool.or_false, ← Char.toNat_inj]
  split
  · exact iff_of_false Bool.false_ne_true (by omega)
  · rw [decide_eq_true_iff]
    omega

/-- A set of two characters in the order of their code points. -/
theorem inRanges_pair {e : Char} (h : c.toNat < d.toNat) :
    Text.inRanges [(c.toNat, c.toNat), (d.toNat, d.toNat)] e.toNat = true ↔ e = c ∨ e = d := by
  rw [Text.inRanges, Bool.if_false_left, Bool.and_eq_true, Bool.or_eq_true, inRanges_character,
    ← Char.toNat_inj, ← Char.toNat_inj]
  simp only [Bool.not_eq_true', decide_eq_false_iff_not, decide_eq_true_eq]
  omega

/-! ## Every way covers a literal -/

theorem exists_between_digits (h : stop ∈ searcher.ways (digitsPattern n) start) :
    ∃ w, AllDigits w ∧ n ≤ w.length ∧ searcher.Between start stop w := by
  obtain ⟨w, hw, hlength, hbetween⟩ := exists_between_repetition h
  exact ⟨w, fun c hc => inRanges_digits.mp (hw c hc), hlength, hbetween⟩

theorem between_character (h : stop ∈ searcher.ways (characterPattern c) start) :
    searcher.Between start stop [c] := by
  obtain ⟨d, hd, hbetween⟩ := exists_between_oneOf h
  rwa [← inRanges_character.mp hd]

theorem between_word (h : stop ∈ searcher.sequenceWays (w.map characterPattern) start) :
    searcher.Between start stop w := by
  induction w generalizing start with
  | nil =>
      rw [mem_sequenceWays_nil.mp h]
      exact between_refl
  | cons c w ih =>
      obtain ⟨middle, hmiddle, hstop⟩ := mem_sequenceWays_cons.mp h
      exact (between_character hmiddle).trans (ih hstop)

theorem exists_between_sign (h : stop ∈ searcher.ways signPattern start) :
    ∃ sign negative, SignText sign negative ∧ searcher.Between start stop sign := by
  rcases mem_ways_optional.mp h with h | rfl
  · obtain ⟨c, hc, hbetween⟩ := exists_between_oneOf h
    rcases (inRanges_pair (by decide)).mp hc with rfl | rfl
    · exact ⟨_, _, .plus, hbetween⟩
    · exact ⟨_, _, .minus, hbetween⟩
  · exact ⟨_, _, .none, between_refl⟩

theorem exists_between_mantissa (h : stop ∈ searcher.ways mantissaPattern start) :
    ∃ whole point fraction, AllDigits whole ∧ FractionText point fraction ∧
      (whole ≠ [] ∨ fraction ≠ []) ∧ searcher.Between start stop (whole ++ point) := by
  rw [mantissaPattern, ways_either, List.mem_append] at h
  simp only [mem_sequenceWays_cons, mem_sequenceWays_nil] at h
  rcases h with ⟨behind, hdigits, middle, hpoint, last, hmore, rfl⟩ |
    ⟨middle, hpoint, last, hmore, rfl⟩
  · obtain ⟨whole, hwhole, hlength, hfirst⟩ := exists_between_digits hdigits
    obtain ⟨fraction, hfraction, -, hlast⟩ := exists_between_digits hmore
    have hnonempty : whole ≠ [] := List.length_pos_iff.mp hlength
    rcases mem_ways_optional.mp hpoint with hpoint | rfl
    · refine ⟨whole, _, fraction, hwhole, .point hfraction, .inl hnonempty, ?_⟩
      exact hfirst.trans ((between_character hpoint).trans hlast)
    · -- Without a point the digits behind it are digits before it.
      refine ⟨whole ++ fraction, [], [], List.forall_mem_append.mpr ⟨hwhole, hfraction⟩, .none,
        .inl (List.append_ne_nil_of_left_ne_nil hnonempty _), ?_⟩
      rw [List.append_nil]
      exact hfirst.trans hlast
  · obtain ⟨fraction, hfraction, hlength, hlast⟩ := exists_between_digits hmore
    exact ⟨[], _, fraction, Numeral.allDigits_nil, .point hfraction,
      .inr (List.length_pos_iff.mp hlength), (between_character hpoint).trans hlast⟩

theorem exists_between_exponent (h : stop ∈ searcher.ways exponentPattern start) :
    ∃ scale negative digits, ExponentText scale negative digits ∧ scale ≠ [] ∧
      searcher.Between start stop scale := by
  rw [exponentPattern, ways] at h
  simp only [mem_sequenceWays_cons, mem_sequenceWays_nil] at h
  obtain ⟨behind, hmark, middle, hsign, last, hdigits, rfl⟩ := h
  obtain ⟨mark, hmark, hfirst⟩ := exists_between_oneOf hmark
  obtain ⟨sign, negative, hsign, hmiddle⟩ := exists_between_sign hsign
  obtain ⟨digits, hdigits, hlength, hlast⟩ := exists_between_digits hdigits
  exact ⟨_, negative, digits, .scale ((inRanges_pair (by decide)).mp hmark).symm hsign hdigits
    (List.length_pos_iff.mp hlength), List.cons_ne_nil _ _, hfirst.trans (hmiddle.trans hlast)⟩

theorem exists_between_unsigned (h : stop ∈ searcher.ways unsignedPattern start) :
    searcher.Between start stop textInfinity ∨
      ∃ w l, DecimalText w l ∧ searcher.Between start stop w := by
  rw [unsignedPattern, ways_either, List.mem_append] at h
  rcases h with h | h
  · exact .inl (between_word h)
  · simp only [mem_sequenceWays_cons, mem_sequenceWays_nil] at h
    obtain ⟨middle, hmantissa, last, hscale, rfl⟩ := h
    rw [ways] at hmantissa
    obtain ⟨whole, point, fraction, hwhole, hpoint, hdigit, hfirst⟩ :=
      exists_between_mantissa hmantissa
    right
    rcases mem_ways_optional.mp hscale with hscale | rfl
    · rw [ways] at hscale
      obtain ⟨scale, negative, digits, hscale, -, hlast⟩ := exists_between_exponent hscale
      refine ⟨_, _, .parts hwhole hpoint hdigit hscale, ?_⟩
      rw [← List.append_assoc]
      exact hfirst.trans hlast
    · refine ⟨_, _, .parts hwhole hpoint hdigit .none, ?_⟩
      rwa [List.append_nil]

/-- A sign that may be left out and a literal behind it. -/
def signedParts : List Pattern := [signPattern, .scope unsignedPattern]

theorem exists_between_signed (h : stop ∈ searcher.sequenceWays signedParts start) :
    ∃ w x, SignedText w x ∧ searcher.Between start stop w := by
  rw [signedParts] at h
  simp only [mem_sequenceWays_cons, mem_sequenceWays_nil] at h
  obtain ⟨middle, hsign, last, hunsigned, rfl⟩ := h
  rw [ways] at hunsigned
  obtain ⟨sign, negative, hsign, hfirst⟩ := exists_between_sign hsign
  rcases exists_between_unsigned hunsigned with hlast | ⟨w, l, htext, hlast⟩
  · exact ⟨_, _, .infinity hsign, hfirst.trans hlast⟩
  · exact ⟨_, _, .decimal hsign htext, hfirst.trans hlast⟩

/-! ## The first way is what the scanner reads -/

theorem allDigits_inRanges (h : AllDigits w) :
    ∀ c ∈ w, Text.inRanges [('0'.toNat, '9'.toNat)] c.toNat = true :=
  fun c hc => inRanges_digits.mpr (h c hc)

theorem starts_spanDigits (s : List Char) : Starts NoDigit (spanDigits s).2 := by
  intro c hc
  have hhead := List.head?_dropWhile_not Numeral.isDecimalDigit s
  rw [spanDigits] at hc
  rwa [hc] at hhead

theorem leaves_digits (h : n ≤ (spanDigits (searcher.rest start)).1.length) :
    searcher.Leaves start (searcher.ways (digitsPattern n) start)
      (spanDigits (searcher.rest start)).2 := by
  refine leaves_repetition (allDigits_inRanges (Lexeme.allDigits_spanDigits _)) (fun c hc => ?_)
    (Lexeme.append_spanDigits _).symm h
  rw [← Bool.not_eq_true, inRanges_digits, Bool.not_eq_true]
  exact starts_spanDigits _ c hc

theorem ways_digits_eq_nil (h : (spanDigits (searcher.rest start)).1 = []) :
    searcher.ways (digitsPattern 1) start = [] := by
  refine List.eq_nil_iff_forall_not_mem.mpr fun stop hstop => ?_
  obtain ⟨w, hw, hlength, hbetween⟩ := exists_between_digits hstop
  rw [hbetween.rest_eq, spanDigits, List.takeWhile_append_of_pos hw] at h
  exact absurd (List.append_eq_nil_iff.mp h).1 (List.length_pos_iff.mp hlength)

theorem leaves_character (h : searcher.rest start = c :: tail) :
    searcher.Leaves start (searcher.ways (characterPattern c) start) tail :=
  leaves_oneOf h (inRanges_character.mpr rfl)

theorem leaves_word (h : searcher.rest start = w ++ tail) :
    searcher.Leaves start (searcher.sequenceWays (w.map characterPattern) start) tail := by
  induction w generalizing start with
  | nil =>
      rw [List.nil_append] at h
      exact h ▸ leaves_sequence_nil
  | cons c w ih => exact leaves_sequence_cons (leaves_character h) fun next hnext => ih hnext

/-- What may be left out is left out where it has no way. -/
theorem leaves_optional_of_nil {body : Pattern} (h : searcher.ways body start = []) :
    searcher.Leaves start (searcher.ways (optionally body) start) (searcher.rest start) := by
  rw [optionally, ways_optional, h]
  exact leaves_stay

theorem leaves_optional {body : Pattern}
    (h : searcher.Leaves start (searcher.ways body start) tail) :
    searcher.Leaves start (searcher.ways (optionally body) start) tail := by
  rw [optionally, ways_optional]
  exact h.append _

theorem leaves_sign :
    searcher.Leaves start (searcher.ways signPattern start) (spanSign (searcher.rest start)).2 := by
  unfold spanSign
  split
  · next more hrest =>
      exact leaves_optional (leaves_oneOf hrest ((inRanges_pair (by decide)).mpr (.inl rfl)))
  · next more hrest =>
      exact leaves_optional (leaves_oneOf hrest ((inRanges_pair (by decide)).mpr (.inr rfl)))
  · next hplus hminus =>
      refine leaves_optional_of_nil (ways_oneOf_eq_nil fun c hc => ?_)
      obtain ⟨more, hrest⟩ := List.head?_eq_some_iff.mp hc
      rw [← Bool.not_eq_true, inRanges_pair (by decide)]
      rintro (rfl | rfl)
      · exact hplus more hrest
      · exact hminus more hrest

/-- Behind digits an optional point and the digits behind it are read. -/
theorem leaves_fraction (h : Starts NoDigit (searcher.rest start)) :
    searcher.Leaves start
      (searcher.sequenceWays [optionally (characterPattern '.'), digitsPattern 0] start)
      (fractionPart (searcher.rest start)).2.2 := by
  have hdigits (next : Nat) : searcher.Leaves next (searcher.sequenceWays [digitsPattern 0] next)
      (spanDigits (searcher.rest next)).2 :=
    leaves_sequence_singleton (leaves_digits (Nat.zero_le _))
  unfold fractionPart
  split
  · next more hrest =>
      refine leaves_sequence_cons (leaves_optional (leaves_character hrest)) fun next hnext => ?_
      rw [← hnext]
      exact hdigits next
  · next hpoint =>
      have hnone : searcher.ways (characterPattern '.') start = [] := by
        refine ways_oneOf_eq_nil fun c hc => ?_
        obtain ⟨more, hrest⟩ := List.head?_eq_some_iff.mp hc
        rw [← Bool.not_eq_true, inRanges_character]
        rintro rfl
        exact hpoint more hrest
      refine leaves_sequence_cons (leaves_optional_of_nil hnone) fun next hnext => ?_
      have hleaves := hdigits next
      rwa [hnext, spanDigits_snd_of_starts h] at hleaves

theorem leaves_mantissa (h : (spanDigits (searcher.rest start)).1 ≠ [] ∨
      (fractionPart (spanDigits (searcher.rest start)).2).1 ≠ []) :
    searcher.Leaves start (searcher.ways mantissaPattern start)
      (fractionPart (spanDigits (searcher.rest start)).2).2.2 := by
  rw [mantissaPattern, ways_either]
  by_cases hwhole : (spanDigits (searcher.rest start)).1 = []
  · -- Without a digit before the point the first alternative has no way.
    have hrest : (spanDigits (searcher.rest start)).2 = searcher.rest start := by
      rw [← List.nil_append (spanDigits _).2, ← hwhole, Lexeme.append_spanDigits]
    rw [sequenceWays, ways_digits_eq_nil hwhole, List.flatMap_nil, List.nil_append]
    rw [hrest] at h ⊢
    replace h := h.resolve_left (not_not_intro hwhole)
    unfold fractionPart at h ⊢
    split at h
    · next more hpoint =>
        refine leaves_sequence_cons (leaves_character hpoint) fun next hnext => ?_
        rw [← hnext] at h ⊢
        exact leaves_sequence_singleton (leaves_digits (List.length_pos_iff.mpr h))
    · exact absurd rfl h
  · refine Leaves.append (leaves_sequence_cons (leaves_digits (List.length_pos_iff.mpr hwhole))
      fun next hnext => ?_) _
    rw [← hnext]
    exact leaves_fraction (hnext ▸ starts_spanDigits _)

/-- Where the scanner reads no exponent, the pattern of exponents has no way. -/
theorem ways_exponent_eq_nil (h : (spanExponent (searcher.rest start)).2.2 = searcher.rest start) :
    searcher.ways exponentPattern start = [] := by
  refine List.eq_nil_iff_forall_not_mem.mpr fun stop hstop => ?_
  obtain ⟨scale, negative, digits, hscale, hnonempty, hbetween⟩ := exists_between_exponent hstop
  have hgreedy := (spanExponent_greedy hscale (searcher.rest stop)).length_le
  rw [← hbetween.rest_eq, h, hbetween.rest_eq, List.length_append] at hgreedy
  have hpos := List.length_pos_iff.mpr hnonempty
  omega

theorem leaves_exponent :
    searcher.Leaves start (searcher.ways (optionally (.scope exponentPattern)) start)
      (spanExponent (searcher.rest start)).2.2 := by
  by_cases hnone : (spanExponent (searcher.rest start)).2.2 = searcher.rest start
  · rw [hnone]
    refine leaves_optional_of_nil ?_
    rw [ways, ways_exponent_eq_nil hnone]
  · refine leaves_optional ?_
    rw [ways, exponentPattern, ways]
    unfold spanExponent at hnone ⊢
    split at hnone
    · next mark more hrest =>
        split at hnone
        · next hmark =>
            dsimp only at hnone
            split at hnone
            · exact absurd rfl hnone
            · next hdigits =>
                rw [if_pos hmark]
                dsimp only
                rw [if_neg hdigits]
                rw [List.isEmpty_iff] at hdigits
                have hset := (inRanges_pair (by decide)).mpr hmark.symm
                refine leaves_sequence_cons (leaves_oneOf hrest hset) fun next hnext => ?_
                rw [← hnext] at hdigits ⊢
                refine leaves_sequence_cons leaves_sign fun last hlast => ?_
                rw [← hlast] at hdigits ⊢
                exact leaves_sequence_singleton (leaves_digits (List.length_pos_iff.mpr hdigits))
        · exact absurd rfl hnone
    · next hrest => exact absurd hrest.symm hnone

theorem leaves_infinity (h : Text.dropFront? textInfinity (searcher.rest start) = some tail) :
    searcher.Leaves start (searcher.ways unsignedPattern start) tail := by
  rw [unsignedPattern, ways_either]
  exact (leaves_word (Text.dropFront?_eq_some_iff.mp h)).append _

theorem leaves_decimal (hword : Text.dropFront? textInfinity (searcher.rest start) = none)
    (h : spanLiteral (searcher.rest start) = some (l, tail)) :
    searcher.Leaves start (searcher.ways unsignedPattern start) tail := by
  have hnone : searcher.sequenceWays (textInfinity.map characterPattern) start = [] := by
    refine List.eq_nil_iff_forall_not_mem.mpr fun stop hstop => ?_
    rw [Text.dropFront?_eq_some_iff.mpr (between_word hstop).rest_eq] at hword
    cases hword
  rw [unsignedPattern, ways_either, hnone, List.nil_append]
  rw [spanLiteral_eq] at h
  dsimp only at h
  split at h
  · cases h
  · next hdigit =>
      cases h
      rw [Bool.and_eq_true, not_and_or, List.isEmpty_iff, List.isEmpty_iff] at hdigit
      have hmantissa : searcher.Leaves start (searcher.ways (.scope mantissaPattern) start)
          (fractionPart (spanDigits (searcher.rest start)).2).2.2 := by
        rw [ways]
        exact leaves_mantissa hdigit
      refine leaves_sequence_cons hmantissa fun next hnext => ?_
      rw [← hnext]
      exact leaves_sequence_singleton leaves_exponent

/-- Where the scanner reads a signed literal, the first way leaves what the scanner leaves. -/
theorem leaves_signed (h : spanNumber (searcher.rest start) = some (x, tail)) :
    searcher.Leaves start (searcher.sequenceWays signedParts start) tail := by
  rw [signedParts]
  refine leaves_sequence_cons leaves_sign fun next hnext => leaves_sequence_singleton ?_
  rw [ways]
  rw [spanNumber] at h
  generalize spanSign (searcher.rest start) = signed at *
  obtain ⟨negative, unsigned⟩ := signed
  dsimp only at h hnext
  rw [← hnext] at h
  split at h
  · next hword =>
      cases h
      exact leaves_infinity hword
  · next hword =>
      split at h
      · next hliteral =>
          cases h
          exact leaves_decimal hword hliteral
      · cases h

/-! ## The searches for the patterns -/

/-- A condition on the start of the text fails behind it. -/
theorem ways_eq_nil_of_pos {parts : List Pattern} (hpos : 0 < start)
    (hstart : start ≤ searcher.text.size) :
    searcher.ways (.sequence (.look .startText false :: parts)) start = [] := by
  have hlt : start - 1 < searcher.text.size := by omega
  have hbefore : searcher.before start = some searcher.text[start - 1] := by
    rw [before, if_neg (Nat.ne_of_gt hpos), Array.getElem?_eq_getElem hlt]
  rw [ways, sequenceWays, ways, holds, hbefore]
  rfl

theorem ways_startText {parts : List Pattern} :
    searcher.ways (.sequence (.look .startText false :: parts)) 0 =
      searcher.sequenceWays parts 0 := by
  have hholds : searcher.holds .startText false 0 = true := rfl
  rw [ways, sequenceWays, ways, if_pos hholds, List.flatMap_singleton]

/-- A pattern with a condition on the start of the text is searched for at the start only. -/
theorem leftmost?_startText {parts : List Pattern} {pattern : Pattern}
    (h : pattern = .sequence (.look .startText false :: parts)) (s : List Char) :
    pattern.leftmost? s =
      ((Searcher.mk pattern.program s.toArray).sequenceWays parts 0).head?.map (Prod.mk 0) := by
  have hnone : (List.range' 1 s.length).findSome?
      ((Searcher.mk pattern.program s.toArray).firstFrom? pattern) = none := by
    refine List.findSome?_eq_none_iff.mpr fun start hstart => ?_
    rw [List.mem_range'_1] at hstart
    rw [firstFrom?, h, ways_eq_nil_of_pos (by omega) (by simp; omega)]
    rfl
  rw [leftmost?, List.range_eq_range', List.range'_succ, List.findSome?_cons, hnone, firstFrom?]
  nth_rewrite 2 [h]
  rw [ways_startText]
  cases ((Searcher.mk pattern.program s.toArray).sequenceWays parts 0).head? <;> rfl

theorem frontPattern_eq : frontPattern = .sequence (.look .startText false :: signedParts) := rfl

theorem wholePattern_eq :
    wholePattern = .sequence (.look .startText false :: (signedParts ++ [.look .endText false])) :=
  rfl

set_option maxRecDepth 4000 in
/-- The patterns are written so in the source notation. -/
example :
    Pattern.parse
        "^[+-]?(?:Infinity|(?:[0-9]+\\.?[0-9]*|\\.[0-9]+)(?:[eE][+-]?[0-9]+)?)".toList =
      some frontPattern ∧
    Pattern.parse
        "^[+-]?(?:Infinity|(?:[0-9]+\\.?[0-9]*|\\.[0-9]+)(?:[eE][+-]?[0-9]+)?)$".toList =
      some wholePattern := by
  constructor
  · cbv
  · cbv

/-- The rest of is the text. -/
theorem rest_zero (program : Array Instruction) (s : List Char) :
    (Searcher.mk program s.toArray).rest 0 = s := rfl

/-- The literal that is found at the start of a text is the one that the scanner reads. -/
theorem span?_frontPattern (s : List Char) :
    frontPattern.span? s = (spanNumber s).map fun read => (0, s.length - read.2.length) := by
  rw [span?_eq rfl, leftmost?_startText frontPattern_eq]
  cases hread : spanNumber s with
  | some read =>
      obtain ⟨x, after⟩ := read
      obtain ⟨w, hw, hhead⟩ := @leaves_signed ⟨frontPattern.program, s.toArray⟩ 0 after x hread
      rw [rest_zero] at hw
      have hlength : s.length - after.length = 0 + w.length := by
        rw [hw, List.length_append]
        omega
      rw [hhead, Option.map_some, Option.map_some, hlength]
  | none =>
      have hnone :
          (Searcher.mk frontPattern.program s.toArray).sequenceWays signedParts 0 = [] := by
        refine List.eq_nil_iff_forall_not_mem.mpr fun stop hstop => ?_
        obtain ⟨w, x, htext, hbetween⟩ := exists_between_signed hstop
        have hrest := hbetween.rest_eq
        rw [rest_zero] at hrest
        obtain ⟨y, after, hsome, -⟩ := spanNumber_greedy htext (Searcher.rest _ stop)
        rw [← hrest, hread] at hsome
        cases hsome
      rw [hnone]
      rfl

theorem mem_ways_endText :
    stop ∈ searcher.ways (.look .endText false) start ↔
      searcher.rest start = [] ∧ stop = start := by
  have hholds : searcher.holds .endText false start = (searcher.rest start).isEmpty := by
    change (searcher.after start).isNone = _
    rw [after_eq]
    cases searcher.rest start <;> rfl
  rw [ways, hholds]
  split
  · next hnil => simp [List.isEmpty_iff.mp hnil]
  · next hnil => simp [List.isEmpty_iff.not.mp hnil]

theorem mem_sequenceWays_append {parts others : List Pattern} :
    stop ∈ searcher.sequenceWays (parts ++ others) start ↔
      ∃ middle ∈ searcher.sequenceWays parts start, stop ∈ searcher.sequenceWays others middle := by
  induction parts generalizing start with
  | nil => simp [mem_sequenceWays_nil]
  | cons part parts ih =>
      simp only [List.cons_append, mem_sequenceWays_cons, ih]
      constructor
      · rintro ⟨middle, hmiddle, last, hlast, hstop⟩
        exact ⟨last, ⟨middle, hmiddle, hlast⟩, hstop⟩
      · rintro ⟨last, ⟨middle, hmiddle, hlast⟩, hstop⟩
        exact ⟨middle, hmiddle, last, hlast, hstop⟩

/-- A text is matched as a whole exactly if the scanner reads it to its end. -/
theorem isMatch_wholePattern (s : List Char) :
    wholePattern.isMatch s = true ↔ ∃ x, spanNumber s = some (x, []) := by
  rw [isMatch_eq rfl, leftmost?_startText wholePattern_eq, Option.isSome_map, List.isSome_head?,
    ← List.isEmpty_eq_false_iff, List.isEmpty_eq_false_iff_exists_mem]
  simp only [mem_sequenceWays_append, mem_sequenceWays_cons, mem_sequenceWays_nil,
    mem_ways_endText]
  constructor
  · rintro ⟨stop, middle, hsigned, -, ⟨hnil, -⟩, -⟩
    obtain ⟨w, x, htext, hbetween⟩ := exists_between_signed hsigned
    have hrest := hbetween.rest_eq
    rw [rest_zero, hnil, List.append_nil] at hrest
    exact ⟨x, hrest ▸ spanNumber_signedText htext⟩
  · rintro ⟨x, hread⟩
    obtain ⟨w, hw, hhead⟩ := @leaves_signed ⟨wholePattern.program, s.toArray⟩ 0 [] x hread
    exact ⟨_, _, List.mem_of_mem_head? hhead, _, ⟨rest_add hw, rfl⟩, rfl⟩

/-! ## The conversions -/

/-- The conversion of the front of a text gives what the scanner reads. -/
theorem ofFront_eq (s : List Char) :
    ofFront s =
      match spanNumber (Text.trimStartBy isPadding s) with
      | some (x, _) => x
      | none => nan := by
  rw [ofFront, span?_frontPattern]
  generalize Text.trimStartBy isPadding s = trimmed
  cases hread : spanNumber trimmed with
  | none => rfl
  | some read =>
      obtain ⟨x, after⟩ := read
      obtain ⟨w, rfl, htext⟩ := exists_signedText_of_spanNumber hread
      have hpart : partOf (w ++ after) (0, (w ++ after).length - after.length) = w := by
        rw [partOf, List.length_append, Nat.add_sub_cancel, List.take_left, List.drop_zero]
      rw [Option.map_some]
      dsimp only
      rw [hpart, ofLiteral_signedText htext]

/-- A literal that the pattern matches as a whole is converted to what the scanner reads. -/
theorem ofLiteral_eq (s : List Char) :
    (if wholePattern.isMatch s then ofLiteral s else nan) =
      match spanNumber s with
      | some (x, []) => x
      | _ => nan := by
  split
  · next hmatch =>
      obtain ⟨x, hread⟩ := (isMatch_wholePattern s).mp hmatch
      obtain ⟨w, hw, htext⟩ := exists_signedText_of_spanNumber hread
      rw [List.append_nil] at hw
      rw [hread, hw, ofLiteral_signedText htext]
  · next hmatch =>
      rw [isMatch_wholePattern] at hmatch
      split
      · next x hread => exact absurd ⟨x, hread⟩ hmatch
      · rfl

/-- The conversion of a text gives what the scanner reads, if it reads the text to its end. -/
theorem ofText_eq (s : List Char) :
    ofText s =
      let trimmed := Text.trimBy isPadding s
      let decimal :=
        match spanNumber trimmed with
        | some (x, []) => x
        | _ => nan
      match trimmed with
      | [] => zero
      | '0' :: mark :: digits =>
        match radixMark? mark with
        | some radix => if digits.isEmpty then nan else (ofDigits? radix digits).getD nan
        | none => decimal
      | _ => decimal := by
  unfold ofText
  dsimp only
  rewrite [ofLiteral_eq]
  rfl

end Number
end Guest
