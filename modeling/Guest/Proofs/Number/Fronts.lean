import Guest.Proofs.Number.Conversion
import Guest.Proofs.Text.Occurrences

/-!
# The longest literal at the front of a text

The literals that a conversion accepts, with an optional sign and `Infinity` among them, are a
regular language.  The conversion of the front of a text reads digits, a point and an exponent as
far as they go and gives back an exponent without digits.  So it reads the longest prefix in the
language, whatever follows, and as the number for which the conversion of a whole text takes it.
-/

namespace Guest

namespace Number

open Lexeme (Starts starts_nil starts_cons starts_append NoDigit fractionPart IsLongest)
open Numeral (AllDigits)

variable {s t w tail after whole fraction digits point scale : List Char} {negative : Bool}
  {l : Literal} {x : Number}

/-! ## Literals with signs -/

/-- `Infinity` -/
def infinity : RegularExpression Char := textInfinity.foldr (fun c p => .char c * p) 1

/-- `[+-]?(Infinity|([0-9]+([.][0-9]*)?|[.][0-9]+)([eE][+-]?[0-9]+)?)` -/
def signed : RegularExpression Char := optional (oneOf ['+', '-']) * (infinity + decimal)

theorem mem_infinity : w ∈ infinity.matches' ↔ w = textInfinity := by
  have hword (cs : List Char) : ∀ {w : List Char},
      w ∈ (cs.foldr (fun c p => .char c * p) 1 : RegularExpression Char).matches' ↔ w = cs := by
    induction cs with
    | nil => exact Iff.rfl
    | cons c cs ih =>
        intro w
        rw [List.foldr_cons, mem_char_mul]
        simp only [ih, exists_eq_right]
  exact hword textInfinity

/-- The texts of signed literals are those of the regular expression. -/
theorem mem_signed : w ∈ signed.matches' ↔ ∃ x, SignedText w x := by
  rw [signed, RegularExpression.matches'_mul, Language.mem_mul]
  constructor
  · rintro ⟨sign, hsign, v, hv, rfl⟩
    obtain ⟨negative, hsign⟩ := mem_sign.1 hsign
    rcases hv with hv | hv
    · rw [mem_infinity.1 hv]
      exact ⟨_, .infinity hsign⟩
    · obtain ⟨l, hl⟩ := mem_decimal.1 hv
      exact ⟨_, .decimal hsign hl⟩
  · rintro ⟨x, ⟨hsign, htext⟩ | hsign⟩
    · exact ⟨_, mem_sign.2 ⟨_, hsign⟩, _, .inr (mem_decimal.2 ⟨_, htext⟩), rfl⟩
    · exact ⟨_, mem_sign.2 ⟨_, hsign⟩, _, .inl (mem_infinity.2 rfl), rfl⟩

/-! ## Conversions of signed literals -/

theorem neg_ne_nan (h : x ≠ nan) : x.neg ≠ nan := by
  cases x with
  | nan => exact absurd rfl h
  | infinite negative => exact fun hneg => Number.noConfusion hneg
  | finite negative units hunits => exact fun hneg => Number.noConfusion hneg

theorem Literal.value_ne_nan (l : Literal) : l.value ≠ nan := by
  intro hnan
  have hnearest := nearest_ofDecimal l.decimal
  rw [← l.value_eq_ofDecimal, hnan] at hnearest
  cases hnearest

theorem SignedText.ne_nan (h : SignedText w x) : x ≠ nan := by
  cases h with
  | infinity => exact fun hnan => Number.noConfusion hnan
  | @decimal sign w negative l =>
      split
      · exact neg_ne_nan l.value_ne_nan
      · exact l.value_ne_nan

theorem forall_mem_signedText {p : Char → Prop}
    (hdigit : ∀ c, Numeral.isDecimalDigit c = true → p c)
    (hother : ∀ c ∈ ['.', 'e', 'E', '+', '-'] ++ textInfinity, p c) (h : SignedText w x) :
    ∀ c ∈ w, p c := by
  obtain ⟨hmarks, hletters⟩ := List.forall_mem_append.mp hother
  have hsign {sign : List Char} {negative : Bool} (h : SignText sign negative) :
      ∀ c ∈ sign, p c := by
    cases h with
    | none => exact List.forall_mem_nil _
    | plus => exact List.forall_mem_singleton.mpr (hmarks '+' (by decide))
    | minus => exact List.forall_mem_singleton.mpr (hmarks '-' (by decide))
  cases h with
  | decimal h htext =>
      exact List.forall_mem_append.mpr ⟨hsign h, forall_mem_decimalText hdigit hmarks htext⟩
  | infinity h => exact List.forall_mem_append.mpr ⟨hsign h, hletters⟩

/-- The conversion of a text that is not blank, has no padding and does not start with the mark of a
radix. -/
theorem ofText_eq_spanNumber (htrim : Text.trimBy isPadding w = w) (hne : w ≠ [])
    (hmark : ∀ mark rest, w = '0' :: mark :: rest → radixMark? mark = none) :
    ofText w = match spanNumber w with
      | some (x, []) => x
      | _ => nan := by
  rw [ofText_eq, htrim]
  dsimp only
  split
  · exact absurd rfl hne
  · next mark rest =>
      rewrite [hmark mark rest rfl]
      rfl
  · rfl

theorem ofText_signedText (h : SignedText w x) : ofText w = x := by
  have hpadding : ∀ c ∈ w, isPadding c = false := by
    have hother : ∀ c ∈ ['.', 'e', 'E', '+', '-'] ++ textInfinity, (!isPadding c) = true :=
      List.all_eq_true.mp rfl
    exact forall_mem_signedText (fun c hc => not_isPadding_of_isNumeric (.inl hc))
      (fun c hc => Bool.eq_false_of_not_eq_true' (hother c hc)) h
  have hmark : ∀ c ∈ w, radixMark? c = none := by
    have hother : ∀ c ∈ ['.', 'e', 'E', '+', '-'] ++ textInfinity,
        (radixMark? c).isNone = true := List.all_eq_true.mp rfl
    exact forall_mem_signedText (fun c hc => radixMark?_of_isNumeric (.inl hc))
      (fun c hc => Option.isNone_iff_eq_none.mp (hother c hc)) h
  exact ofText_of_spanNumber (Text.trimBy_eq_self hpadding) hmark (spanNumber_signedText h)

/-- The signed literals are the texts that are converted to a number, apart from blank texts, from
padding and from the marks of a radix. -/
theorem ofText_ne_nan_iff (htrim : Text.trimBy isPadding w = w) (hne : w ≠ [])
    (hmark : ∀ mark rest, w = '0' :: mark :: rest → radixMark? mark = none) :
    ofText w ≠ nan ↔ w ∈ signed.matches' := by
  constructor
  · intro h
    rw [ofText_eq_spanNumber htrim hne hmark] at h
    split at h
    · next x hread =>
        obtain ⟨v, hv, htext⟩ := exists_signedText_of_spanNumber hread
        rw [List.append_nil] at hv
        exact mem_signed.2 ⟨x, hv ▸ htext⟩
    · exact absurd rfl h
  · intro h
    obtain ⟨x, hx⟩ := mem_signed.1 h
    rw [ofText_signedText hx]
    exact hx.ne_nan

/-! ## The front of a text -/

theorem ofFront_of_isLongest (hw : IsLongest signed.matches' (Text.trimStartBy isPadding t) w) :
    ∃ x, SignedText w x ∧ ofFront t = x := by
  rw [ofFront_eq]
  generalize Text.trimStartBy isPadding t = s at *
  obtain ⟨x, hx⟩ := mem_signed.1 hw.mem
  obtain ⟨y, after, hread, hafter⟩ := spanNumber_greedy hx (s.drop w.length)
  rw [← hw.split] at hread
  obtain ⟨v, hv, hy⟩ := exists_signedText_of_spanNumber hread
  -- The literal that is read is as long as the longest one: no longer by its choice, and no shorter
  -- since the rest behind it is not longer.
  have hle : v.length ≤ w.length := hw.longest v (mem_signed.2 ⟨y, hy⟩) ⟨after, hv.symm⟩
  have hlength : v.length + after.length = w.length + (s.drop w.length).length := by
    rw [← List.length_append, ← List.length_append, ← hv, ← hw.split]
  have hrest := hafter.length_le
  have hsame : v = w := by
    refine (List.prefix_of_prefix_length_le ⟨after, hv.symm⟩ hw.starts hle).eq_of_length ?_
    omega
  rw [hread]
  exact ⟨y, hsame ▸ hy, rfl⟩

theorem ofFront_of_forall_not_prefix
    (h : ∀ v ∈ signed.matches', ¬v <+: Text.trimStartBy isPadding t) : ofFront t = nan := by
  rw [ofFront_eq]
  split
  · next x after hread =>
      obtain ⟨v, hv, htext⟩ := exists_signedText_of_spanNumber hread
      exact absurd ⟨after, hv.symm⟩ (h v (mem_signed.2 ⟨x, htext⟩))
  · rfl

/-- The conversion of the front of a text reads the longest signed literal behind the padding, and
as the number to which this literal is converted by itself.  Where no prefix is a literal, the
result is not a number.  Apart from blank texts, padding and the marks of a radix, the literals are
the texts that are converted to a number. -/
theorem ofFront_reads_longest (t : List Char) :
    ((∃ v ∈ signed.matches', v <+: Text.trimStartBy isPadding t) →
      ∃ w, IsLongest signed.matches' (Text.trimStartBy isPadding t) w) ∧
    (∀ w, IsLongest signed.matches' (Text.trimStartBy isPadding t) w →
      ofFront t = ofText w ∧ SignedText w (ofText w) ∧ ofText w ≠ nan) ∧
    ((∀ v ∈ signed.matches', ¬v <+: Text.trimStartBy isPadding t) → ofFront t = nan) ∧
    ∀ w, Text.trimBy isPadding w = w → w ≠ [] →
      (∀ mark rest, w = '0' :: mark :: rest → radixMark? mark = none) →
      (ofText w ≠ nan ↔ w ∈ signed.matches') := by
  refine ⟨?_, ?_, ofFront_of_forall_not_prefix, fun w => ofText_ne_nan_iff⟩
  · rintro ⟨v, hv, hstarts⟩
    exact Lexeme.exists_isLongest hv hstarts
  · intro w hw
    obtain ⟨x, hx, hfront⟩ := ofFront_of_isLongest hw
    rw [ofText_signedText hx]
    exact ⟨hfront, hx, hx.ne_nan⟩

/-- An exponent without digits is left behind, and a sign alone is no literal. -/
theorem ofFront_reads_incomplete_exponent :
    IsLongest signed.matches' (Text.trimStartBy isPadding "\uFEFF -1.5e+x".toList) "-1.5".toList ∧
      ofFront "\uFEFF -1.5e+x".toList = ofText "-1.5".toList ∧
      (∀ v ∈ signed.matches', ¬v <+: Text.trimStartBy isPadding "- 1".toList) ∧
      ofFront "- 1".toList = nan := by
  have hlongest : IsLongest signed.matches' "-1.5e+x".toList "-1.5".toList := by
    refine ⟨by decide, by decide, fun v hv hstarts => ?_⟩
    have hall : ∀ v ∈ "-1.5e+x".toList.inits, v ∈ signed.matches' → v.length ≤ 4 := by decide
    exact hall v ((List.mem_inits _ _).mpr hstarts) hv
  have hnone : ∀ v ∈ signed.matches', ¬v <+: "- 1".toList := by
    intro v hv hstarts
    have hall : ∀ v ∈ "- 1".toList.inits, v ∉ signed.matches' := by decide
    exact hall v ((List.mem_inits _ _).mpr hstarts) hv
  exact ⟨hlongest, ((ofFront_reads_longest "\uFEFF -1.5e+x".toList).2.1 _ hlongest).1, hnone,
    (ofFront_reads_longest "- 1".toList).2.2.1 hnone⟩

end Number
end Guest
