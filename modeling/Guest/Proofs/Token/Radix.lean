import Guest.Proofs.Number.Rounding
import Guest.Proofs.Token.Literals

/-!
# Numbers in a radix

The digits of a radix are added one by one, each step rounded.  As the radix is a power of two, the
steps round nothing until the number has its 53 significant bits, and from then on every digit is
lost.  So a literal is read as the number nearest to what its first digits denote, the others being
zeros.  That is the number nearest to the literal, except where the first digits lie at the midpoint
between two numbers and the others tell on which side of it the literal lies.
-/

namespace Guest

/-! ## The digits that count -/

namespace Numeral

/-- Appends a digit, which is read as a zero where the leading bits are complete. -/
def keep (radix n digit : Nat) : Nat :=
  if n < 2 ^ 53 then n * radix + digit else n * radix

/-- The number that a list of digits denotes behind the digits of `start` when those that come after
the leading bits are read as zeros. -/
def keptFrom (radix start : Nat) (digits : List Char) : Nat :=
  digits.foldl (fun n c => keep radix n ((digitValue? radix c).getD 0)) start

/-- The number that a list of digits denotes when those that come after the leading bits are read as
zeros. -/
def kept (radix : Nat) (digits : List Char) : Nat := keptFrom radix 0 digits

end Numeral

namespace Number

open Numeral (keep keptFrom kept digitValue?)

variable {m n k e digit radix step cut : Nat} {digits : List Char}

/-! ## One digit -/

/-- Appending a digit shifts the number that was read and rounds the sum. -/
theorem appendDigit_ofNat (hk : k ≤ 53) (hdigit : digit ≤ 2 ^ 53) :
    appendDigit (2 ^ k) (ofNat n) digit = ofNat (nearestWhole n * 2 ^ k + digit) := by
  have hexact : nearestWhole (nearestWhole n * 2 ^ k) = nearestWhole n * 2 ^ k := by
    rw [nearestWhole_mul_two_pow, nearestWhole_nearestWhole]
  rw [appendDigit, ofNat_mul_two_pow hk, ofNat_add_ofNat hexact hdigit]

theorem two_le_spacing (hn : 2 ^ 53 ≤ n) : 2 ≤ spacing n := by
  have hne : n ≠ 0 := Nat.ne_of_gt (Nat.lt_of_lt_of_le (by decide) hn)
  have hlog : 53 ≤ n.log2 := (Nat.le_log2 hne).mpr hn
  exact Nat.pow_le_pow_right (by decide : 0 < 2) (by omega : 1 ≤ n.log2 - 52)

/-- A digit behind the leading bits is lost. -/
theorem nearestWhole_keep (hdigit : digit < 2 ^ k) :
    nearestWhole (nearestWhole n * 2 ^ k + digit) = nearestWhole (keep (2 ^ k) n digit) := by
  rw [keep]
  split
  · next hlt => rw [nearestWhole_of_le (Nat.le_of_lt hlt)]
  · next hge =>
      have hn : 2 ^ 53 ≤ nearestWhole n := two_pow_le_nearestWhole (Nat.not_lt.mp hge)
      have hdvd : spacing (nearestWhole n * 2 ^ k) ∣ nearestWhole n * 2 ^ k := by
        rw [← nearestWhole_mul_two_pow]
        exact spacing_dvd_nearestWhole _
      have hhalf : 2 * digit < spacing (nearestWhole n * 2 ^ k) := by
        rw [spacing_mul_two_pow (Nat.le_trans (by decide) hn)]
        calc 2 * digit
            < 2 * 2 ^ k := Nat.mul_lt_mul_of_pos_left hdigit (by decide)
          _ ≤ spacing (nearestWhole n) * 2 ^ k := Nat.mul_le_mul_right _ (two_le_spacing hn)
      rw [nearestWhole_add hdvd hhalf, nearestWhole_mul_two_pow]

theorem appendDigit_keep (hk : k ≤ 53) (hdigit : digit < 2 ^ k) :
    appendDigit (2 ^ k) (ofNat n) digit = ofNat (keep (2 ^ k) n digit) := by
  have hmost : digit ≤ 2 ^ 53 :=
    Nat.le_trans (Nat.le_of_lt hdigit) (Nat.pow_le_pow_right (by decide) hk)
  rw [appendDigit_ofNat hk hmost]
  exact ofNat_eq_ofNat_iff.mpr (.inl (nearestWhole_keep hdigit))

/-! ## All digits -/

theorem foldlM_appendDigit (hk : k ≤ 53) (hdigits : AllDigitsOf (2 ^ k) digits) (n : Nat) :
    digits.foldlM (fun x c => (digitValue? (2 ^ k) c).map (appendDigit (2 ^ k) x)) (ofNat n) =
      some (ofNat (keptFrom (2 ^ k) n digits)) := by
  induction digits generalizing n with
  | nil => rfl
  | cons c digits ih =>
      obtain ⟨hc, hmore⟩ := List.forall_mem_cons.mp hdigits
      obtain ⟨digit, hdigit⟩ := Option.isSome_iff_exists.mp hc
      rw [List.foldlM_cons, keptFrom, List.foldl_cons, hdigit, Option.map_some,
        appendDigit_keep hk (Numeral.digitValue?_lt hdigit)]
      exact ih hmore _

/-- The number that is read for the digits of a radix. -/
theorem ofDigits?_eq (hk : k ≤ 53) (hdigits : AllDigitsOf (2 ^ k) digits) :
    ofDigits? (2 ^ k) digits = some (ofNat (kept (2 ^ k) digits)) := by
  rw [ofDigits?, ← ofNat_zero]
  exact foldlM_appendDigit hk hdigits 0

/-! ## What is cut off -/

theorem keptFrom_of_le (hn : 2 ^ 53 ≤ n) (digits : List Char) :
    keptFrom (2 ^ k) n digits = n * 2 ^ (k * digits.length) := by
  induction digits generalizing n with
  | nil => simp [keptFrom]
  | cons c digits ih =>
      have hnext : 2 ^ 53 ≤ n * 2 ^ k :=
        Nat.le_trans hn (Nat.le_mul_of_pos_right n (Nat.two_pow_pos k))
      rw [keptFrom, List.foldl_cons, keep, if_neg (Nat.not_lt.mpr hn), ← keptFrom, ih hnext,
        List.length_cons, Nat.mul_succ, Nat.add_comm, Nat.pow_add, Nat.mul_assoc]

/-- A number is what is left of it and what is cut off; if anything is cut off, the leading bits are
complete. -/
theorem exists_foldl_eq_add (digits : List Char) (n : Nat) :
    ∃ places e,
      digits.foldl (fun n c => n * 2 ^ k + (digitValue? (2 ^ k) c).getD 0) n =
          keptFrom (2 ^ k) n digits + e ∧
        e < 2 ^ places ∧ 2 ^ places ∣ keptFrom (2 ^ k) n digits ∧
        (e = 0 ∨ 2 ^ (53 + places) ≤ keptFrom (2 ^ k) n digits) := by
  induction digits generalizing n with
  | nil => exact ⟨0, 0, rfl, by decide, Nat.one_dvd _, .inl rfl⟩
  | cons c digits ih =>
      rcases Nat.lt_or_ge n (2 ^ 53) with hlt | hge
      · have hkeep : keep (2 ^ k) n ((digitValue? (2 ^ k) c).getD 0) =
            n * 2 ^ k + (digitValue? (2 ^ k) c).getD 0 := if_pos hlt
        rw [List.foldl_cons, keptFrom, List.foldl_cons, hkeep]
        exact ih _
      · have hvalue : Numeral.value (2 ^ k) (c :: digits) < 2 ^ (k * (c :: digits).length) := by
          rw [Nat.pow_mul]
          exact Numeral.value_lt (Nat.two_pow_pos k)
        refine ⟨k * (c :: digits).length, Numeral.value (2 ^ k) (c :: digits), ?_, hvalue, ?_⟩
        · rw [Numeral.foldl_eq_add, keptFrom_of_le hge, Nat.pow_mul]
        · rw [keptFrom_of_le hge, Nat.pow_add]
          exact ⟨Nat.dvd_mul_left _ _, .inr (Nat.mul_le_mul_right _ hge)⟩

/-! ## Ties -/

/-- A number that is rounded to the multiples of `step`, and what is left of it when it is cut off,
are rounded alike unless what is left is the midpoint above an even multiple. -/
theorem nearest_eq_nearest_add_iff (hstep : 2 * cut ∣ step) (hm : cut ∣ m) (he : e < cut)
    (hpos : 0 < step) :
    nearest m step = nearest (m + e) step ↔
      ¬(0 < e ∧ 2 * (m % step) = step ∧ m / step % 2 = 0) := by
  obtain ⟨halves, rfl⟩ := hstep
  have hrest : cut ∣ m % (2 * cut * halves) :=
    (Nat.dvd_mod_iff ⟨2 * halves, by ring⟩).mpr hm
  obtain ⟨parts, hparts⟩ := hrest
  have hdouble : 2 * cut * halves = 2 * (cut * halves) := Nat.mul_assoc _ _ _
  -- Two multiples of `cut` that differ are so far apart that `e` does not bridge them.
  have hapart {a b : Nat} (h : a < b) : cut * a + cut ≤ cut * b :=
    Nat.mul_le_mul_left cut h
  have hbound : parts < 2 * halves := by
    have hless := Nat.mod_lt m hpos
    rw [hparts, Nat.mul_comm 2 cut, Nat.mul_assoc] at hless
    exact Nat.lt_of_mul_lt_mul_left hless
  have hroom : cut * parts + e < 2 * cut * halves := by
    have hle := hapart hbound
    rw [Nat.mul_left_comm] at hle
    omega
  have hsplit : m + e = 2 * cut * halves * (m / (2 * cut * halves)) + (cut * parts + e) := by
    rw [← hparts, ← Nat.add_assoc, Nat.div_add_mod]
  have hmod : (m + e) % (2 * cut * halves) = cut * parts + e := by
    rw [hsplit, Nat.mul_add_mod, Nat.mod_eq_of_lt hroom]
  have hdiv : (m + e) / (2 * cut * halves) = m / (2 * cut * halves) := by
    conv =>
      lhs
      rw [hsplit]
    rw [Nat.mul_add_div hpos, Nat.div_eq_of_lt hroom, Nat.add_zero]
  unfold nearest
  rw [hmod, hdiv, hparts]
  rcases Nat.lt_trichotomy parts halves with hless | rfl | hmore
  · have hle := hapart hless
    split_ifs <;> omega
  · split_ifs <;> omega
  · have hle := hapart hmore
    split_ifs <;> omega

/-- What is cut off tells on which side of a midpoint the number lies: `m`, which is left of `n`, is
the midpoint between two neighbouring numbers, of which the lower one is even.  Beyond the range
there are no neighbours. -/
def LosesTie (m n : Nat) : Prop :=
  m < n ∧ n < 2 ^ 1024 ∧ 2 * (m % spacing m) = spacing m ∧ m / spacing m % 2 = 0

instance : Decidable (LosesTie m n) := inferInstanceAs (Decidable (_ ∧ _))

theorem ofNat_eq_ofNat_add_iff (hdvd : 2 ^ k ∣ m) (hm : 2 ^ (53 + k) ≤ m) (he : e < 2 ^ k) :
    ofNat m = ofNat (m + e) ↔ ¬LosesTie m (m + e) := by
  have hpow : 2 ^ k ≤ m := Nat.le_trans (Nat.pow_le_pow_right (by decide) (by omega)) hm
  have hne : m ≠ 0 := Nat.ne_of_gt (Nat.lt_of_lt_of_le (Nat.two_pow_pos k) hpow)
  have hlog : 53 + k ≤ m.log2 := (Nat.le_log2 hne).mpr hm
  have hstep : 2 * 2 ^ k ∣ spacing m := by
    rw [← Nat.pow_succ', spacing]
    exact Nat.pow_dvd_pow 2 (by omega)
  have hspacing : spacing (m + e) = spacing m := spacing_add hdvd hpow he
  have hrounded : nearestWhole m = nearestWhole (m + e) ↔
      ¬(0 < e ∧ 2 * (m % spacing m) = spacing m ∧ m / spacing m % 2 = 0) := by
    rw [nearestWhole_eq, nearestWhole_eq, hspacing, Nat.mul_left_inj (Nat.ne_of_gt spacing_pos),
      nearest_eq_nearest_add_iff hstep hdvd he spacing_pos]
  rw [ofNat_eq_ofNat_iff, hrounded]
  constructor
  · rintro (hkeeps | ⟨hlarge, -⟩) ⟨hless, hrange, htie, heven⟩
    · exact hkeeps ⟨by omega, htie, heven⟩
    · have hdown : nearestWhole m ≤ m := by
        have hfloor : nearest m (spacing m) = m / spacing m := by simp [nearest, htie, heven]
        rw [nearestWhole_eq, hfloor]
        exact Nat.div_mul_le_self m (spacing m)
      omega
  · intro hkeeps
    rcases Nat.lt_or_ge (m + e) (2 ^ 1024) with hrange | hlarge
    · left
      rintro ⟨hpos, htie, heven⟩
      exact hkeeps ⟨by omega, hrange, htie, heven⟩
    · have hleft : 2 ^ 1024 ≤ m := by
        have hbits : 1024 ≤ (m + e).log2 := (Nat.le_log2 (by omega)).mpr hlarge
        rw [log2_add hdvd hpow he] at hbits
        exact (Nat.le_log2 hne).mp hbits
      exact .inr ⟨two_pow_le_nearestWhole hleft, two_pow_le_nearestWhole hlarge⟩

/-- The number that is read for the digits of a radix is the nearest one unless a tie is lost. -/
theorem ofNat_kept_eq_iff (digits : List Char) :
    ofNat (kept (2 ^ k) digits) = ofNat (Numeral.value (2 ^ k) digits) ↔
      ¬LosesTie (kept (2 ^ k) digits) (Numeral.value (2 ^ k) digits) := by
  obtain ⟨places, e, hvalue, he, hdvd, hcut⟩ := exists_foldl_eq_add digits 0
  rw [Numeral.value, hvalue]
  rcases hcut with rfl | hlarge
  · exact iff_of_true rfl fun h => Nat.lt_irrefl _ h.1
  · exact ofNat_eq_ofNat_add_iff hdvd hlarge he

end Number

/-! ## Literals -/

namespace Lexeme

open Number (AllDigitsOf RadixMark LosesTie)
open Numeral (kept)

variable {d : Dialect} {mark : Char} {radix n : Nat} {digits tail : List Char}

theorem exists_radix_eq (h : RadixMark d mark radix) : ∃ k ≤ 53, radix = 2 ^ k := by
  cases h with
  | hexadecimal => exact ⟨4, by decide, rfl⟩
  | binary => exact ⟨1, by decide, rfl⟩

/-- The decimal numeral of a whole number is read as the number nearest to it. -/
theorem scan_decimal (n : Nat) (htail : Closes tail) :
    scan d (Numeral.decimal n ++ tail) =
      ⟨(Numeral.decimal n).length, .ok (.number (.ofNat n))⟩ := by
  have hvalue : (Number.Literal.mk (Numeral.decimal n) [] false []).value = .ofNat n := by
    have hread := @Number.ofDecimal_natCast false n 0
    rw [Nat.pow_zero, Nat.mul_one] at hread
    rw [Number.Literal.value, List.append_nil, Numeral.value_decimal]
    exact hread
  have htext : Number.DecimalText (Numeral.decimal n) ⟨Numeral.decimal n, [], false, []⟩ := by
    have hparts := Number.DecimalText.parts (Numeral.allDigits_decimal (n := n)) .none
      (.inl Numeral.decimal_ne_nil) .none
    simpa using hparts
  rw [← hvalue]
  exact scan_numberText (.decimal htext) htail

/-- A literal in a radix is read as the number that its leading digits give, the others being zeros.
This is the nearest number, which is read for the decimal numeral, exactly if no tie is lost. -/
theorem scan_radix (hmark : RadixMark d mark radix) (hdigits : AllDigitsOf radix digits)
    (hnonempty : digits ≠ []) (htail : Closes tail) :
    let left := kept radix digits
    let whole := Numeral.value radix digits
    scan d ('0' :: mark :: digits ++ tail) =
        ⟨('0' :: mark :: digits).length, .ok (.number (.ofNat left))⟩ ∧
      scan d (Numeral.decimal whole ++ tail) =
        ⟨(Numeral.decimal whole).length, .ok (.number (.ofNat whole))⟩ ∧
      (Number.ofNat left = .ofNat whole ↔ ¬LosesTie left whole) := by
  intro left whole
  obtain ⟨k, hk, rfl⟩ := exists_radix_eq hmark
  have hscan := scan_numberText (.radix hmark hdigits hnonempty) htail
  rw [Number.ofDigits?_eq hk hdigits, Option.getD_some] at hscan
  exact ⟨hscan, scan_decimal whole htail, Number.ofNat_kept_eq_iff digits⟩

/-- The last digit is cut off, but `2 ^ 57` is the nearest number. -/
theorem scan_radix_cut :
    let digits := "200000000000003".toList
    RadixMark .basic 'x' 16 ∧ AllDigitsOf 16 digits ∧ digits ≠ [] ∧ Closes [] ∧
      kept 16 digits = 2 ^ 57 ∧
      scan .basic ('0' :: 'x' :: digits ++ []) = ⟨17, .ok (.number (.ofNat (2 ^ 57 + 3)))⟩ := by
  intro digits
  have hmark : RadixMark .basic 'x' 16 := .hexadecimal (.inl rfl)
  have hdigits : AllDigitsOf 16 digits := by decide
  have hnonempty : digits ≠ [] := by decide
  have hkept : kept 16 digits = 2 ^ 57 := by decide
  have hvalue : Numeral.value 16 digits = 2 ^ 57 + 3 := by decide
  obtain ⟨hscan, -, hnearest⟩ := scan_radix hmark hdigits hnonempty closes_nil
  have hkeeps : ¬LosesTie (kept 16 digits) (Numeral.value 16 digits) := by decide +kernel
  rw [hnearest.mpr hkeeps, hvalue] at hscan
  exact ⟨hmark, hdigits, hnonempty, closes_nil, hkept, hscan⟩

/-- The digits denote `2 ^ 57 + 17`, which is nearer to `2 ^ 57 + 32` than to `2 ^ 57`. -/
theorem scan_radix_loses_tie :
    let digits := "200000000000011".toList
    Numeral.value 16 digits = 2 ^ 57 + 17 ∧
      ∃ x, scan .basic ('0' :: 'x' :: digits) = ⟨17, .ok (.number x)⟩ ∧
        x = .ofNat (2 ^ 57) ∧ Number.ofNat (2 ^ 57 + 17) = .ofNat (2 ^ 57 + 32) ∧
        x ≠ .ofNat (2 ^ 57 + 17) := by
  have hdigits : AllDigitsOf 16 "200000000000011".toList := by decide
  have hread : (Number.ofDigits? 16 "200000000000011".toList).getD .nan = .ofNat (2 ^ 57) := by
    decide +kernel
  have hscan := scan_numberText (d := .basic)
    (.radix (.hexadecimal (.inl rfl)) hdigits (by decide)) closes_nil
  rw [hread, List.append_nil] at hscan
  exact ⟨by decide, .ofNat (2 ^ 57), hscan, rfl, by decide +kernel, by decide +kernel⟩

end Lexeme

end Guest
