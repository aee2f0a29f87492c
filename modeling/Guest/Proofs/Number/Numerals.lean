import Guest.Number.Text
import Mathlib.Tactic.Ring

/-!
# Decimal numerals

The numeral of a natural number consists of decimal digits and denotes the number.  Zeros before a
numeral do not change its value; each zero behind it multiplies the value by ten.
-/

namespace Guest
namespace Numeral

variable {n fuel radix : Nat} {digits more : List Char} {c : Char}

/-- A list of decimal digits. -/
def AllDigits (digits : List Char) : Prop := ∀ c ∈ digits, isDecimalDigit c = true

theorem allDigits_append (h : AllDigits digits) (hmore : AllDigits more) :
    AllDigits (digits ++ more) := by
  intro c hc
  rcases List.mem_append.mp hc with hc | hc
  · exact h c hc
  · exact hmore c hc

theorem allDigits_nil : AllDigits [] := fun _ h => nomatch h

theorem allDigits_take (h : AllDigits digits) (n : Nat) : AllDigits (digits.take n) :=
  fun c hc => h c (List.mem_of_mem_take hc)

theorem allDigits_drop (h : AllDigits digits) (n : Nat) : AllDigits (digits.drop n) :=
  fun c hc => h c (List.mem_of_mem_drop hc)

theorem isDecimalDigit_digit (hn : n < 10) : isDecimalDigit (digit n) = true := by
  have hall : ∀ k < 10, isDecimalDigit (digit k) = true := by decide
  exact hall n hn

theorem digitValue?_digit (hn : n < radix) (hradix : radix ≤ 36) :
    digitValue? radix (digit n) = some n := by
  have hall : ∀ radix ≤ 36, ∀ n < radix, digitValue? radix (digit n) = some n := by decide +kernel
  exact hall radix hradix n hn

theorem digitValue?_of_isDecimalDigit (h : isDecimalDigit c = true) :
    digitValue? 10 c = some (c.toNat - '0'.toNat) := by
  simp only [isDecimalDigit, Bool.and_eq_true, decide_eq_true_eq] at h
  have hlow : 48 ≤ c.toNat := h.1
  have hhigh : c.toNat ≤ 57 := h.2
  have hten : c.toNat - 48 < 10 := by omega
  simp [digitValue?, h, hten]

/-! ## Values -/

theorem foldl_eq_add (start : Nat) :
    digits.foldl (fun n c => n * radix + (digitValue? radix c).getD 0) start =
      start * radix ^ digits.length + value radix digits := by
  unfold value
  induction digits generalizing start with
  | nil => simp
  | cons c digits ih =>
      rw [List.foldl_cons, List.foldl_cons, ih, ih (0 * radix + _), List.length_cons,
        Nat.pow_succ]
      ring

theorem value_append :
    value radix (digits ++ more) = value radix digits * radix ^ more.length + value radix more := by
  rw [value, List.foldl_append, foldl_eq_add]
  rfl

theorem value_cons :
    value radix (c :: digits) =
      (digitValue? radix c).getD 0 * radix ^ digits.length + value radix digits := by
  rw [value, List.foldl_cons, foldl_eq_add]
  simp

theorem value_zeros (count : Nat) : value 10 (Number.zeros count) = 0 := by
  have hzero : digitValue? 10 '0' = some 0 := by decide
  induction count with
  | zero => rfl
  | succ count ih =>
      rw [Number.zeros] at ih ⊢
      rw [List.replicate_succ, value_cons, hzero, ih]
      simp

theorem value_zeros_append {count : Nat} :
    value 10 (Number.zeros count ++ digits) = value 10 digits := by
  rw [value_append, value_zeros]
  simp

theorem value_append_zeros {count : Nat} :
    value 10 (digits ++ Number.zeros count) = value 10 digits * 10 ^ count := by
  rw [value_append, value_zeros, Number.zeros, List.length_replicate, Nat.add_zero]

theorem allDigits_zeros (count : Nat) : AllDigits (Number.zeros count) := by
  intro c hc
  rw [List.eq_of_mem_replicate hc]
  decide

/-! ## The numeral of a number -/

theorem forall_mem_digitsOnto {p : Char → Prop} (hpos : 0 < radix)
    (hdigit : ∀ k < radix, p (digit k)) (hmore : ∀ c ∈ more, p c) :
    ∀ c ∈ digitsOnto radix fuel n more, p c := by
  induction fuel generalizing n more with
  | zero => exact hmore
  | succ fuel ih =>
      rw [digitsOnto]
      split
      · next hlt => exact List.forall_mem_cons.mpr ⟨hdigit n hlt, hmore⟩
      · exact ih (List.forall_mem_cons.mpr ⟨hdigit _ (Nat.mod_lt n hpos), hmore⟩)

theorem allDigits_digitsOnto (hmore : AllDigits more) :
    AllDigits (digitsOnto 10 fuel n more) :=
  forall_mem_digitsOnto (by decide) (fun _ => isDecimalDigit_digit) hmore

theorem value_digitsOnto (hradix : radix ≤ 36) (hn : n < radix ^ fuel) :
    value radix (digitsOnto radix fuel n more) = n * radix ^ more.length + value radix more := by
  induction fuel generalizing n more with
  | zero =>
      have hzero : n = 0 := Nat.lt_one_iff.mp hn
      rw [digitsOnto, hzero]
      simp
  | succ fuel ih =>
      rw [digitsOnto]
      split
      · next hlt =>
          rw [value_cons, digitValue?_digit hlt hradix]
          rfl
      · have hpos : 0 < radix := Nat.pos_of_ne_zero fun hzero => by simp [hzero] at hn
        have hless : n / radix < radix ^ fuel := by
          rw [Nat.pow_succ] at hn
          exact Nat.div_lt_of_lt_mul (by rwa [Nat.mul_comm])
        have hsplit : n = n / radix * radix + n % radix := (Nat.div_add_mod' n radix).symm
        rw [ih hless, value_cons, digitValue?_digit (Nat.mod_lt n hpos) hradix, List.length_cons,
          Nat.pow_succ]
        conv =>
          rhs
          rw [hsplit]
        simp only [Option.getD_some]
        ring

theorem lt_ten_pow : n < 10 ^ (n.log2 + 1) :=
  Nat.lt_of_lt_of_le Nat.lt_log2_self (Nat.pow_le_pow_left (by decide) _)

theorem value_decimal : value 10 (decimal n) = n := by
  rw [decimal, ofNat, value_digitsOnto (by decide) lt_ten_pow]
  simp [value]

theorem allDigits_decimal : AllDigits (decimal n) :=
  allDigits_digitsOnto allDigits_nil

theorem digitsOnto_ne_nil (hmore : more ≠ []) : digitsOnto radix fuel n more ≠ [] := by
  induction fuel generalizing n more with
  | zero => exact hmore
  | succ fuel ih =>
      rw [digitsOnto]
      split
      · exact List.cons_ne_nil _ _
      · exact ih (List.cons_ne_nil _ _)

theorem decimal_ne_nil : decimal n ≠ [] := by
  rw [decimal, ofNat, digitsOnto]
  split
  · exact List.cons_ne_nil _ _
  · exact digitsOnto_ne_nil (List.cons_ne_nil _ _)

theorem head?_digitsOnto (hradix : radix ≤ 36) (hpos : 0 < n) (hn : n < radix ^ fuel) :
    (digitsOnto radix fuel n more).head? ≠ some '0' := by
  induction fuel generalizing n more with
  | zero => exact absurd (Nat.lt_one_iff.mp hn) (Nat.ne_of_gt hpos)
  | succ fuel ih =>
      rw [digitsOnto]
      split
      · next hlt =>
          have hall : ∀ k < 36, 0 < k → digit k ≠ '0' := by decide
          intro hhead
          exact hall n (Nat.lt_of_lt_of_le hlt hradix) hpos (Option.some.inj hhead)
      · next hge =>
          have hless : n / radix < radix ^ fuel := by
            rw [Nat.pow_succ] at hn
            exact Nat.div_lt_of_lt_mul (by rwa [Nat.mul_comm])
          have hradix' : 0 < radix := Nat.pos_of_ne_zero fun hzero => by simp [hzero] at hn
          exact ih (Nat.div_pos (Nat.not_lt.mp hge) hradix') hless

/-- Only the numeral of zero starts with a zero. -/
theorem head?_decimal (hpos : 0 < n) : (decimal n).head? ≠ some '0' :=
  head?_digitsOnto (by decide) hpos lt_ten_pow

/-! ## The length of a numeral -/

theorem digitValue?_lt {value : Nat} (h : digitValue? radix c = some value) : value < radix := by
  unfold digitValue? at h
  extract_lets v at h
  split at h
  · next hlt =>
      rw [← Option.some.inj h]
      exact hlt
  · cases h

theorem value_lt (hradix : 0 < radix) : value radix digits < radix ^ digits.length := by
  induction digits with
  | nil => exact Nat.one_pos
  | cons c digits ih =>
      have hdigit : (digitValue? radix c).getD 0 + 1 ≤ radix := by
        cases hc : digitValue? radix c with
        | none => exact hradix
        | some value => exact digitValue?_lt hc
      calc value radix (c :: digits)
          < (digitValue? radix c).getD 0 * radix ^ digits.length + radix ^ digits.length := by
            rw [value_cons]
            exact Nat.add_lt_add_left ih _
        _ = ((digitValue? radix c).getD 0 + 1) * radix ^ digits.length := by ring
        _ ≤ radix * radix ^ digits.length := Nat.mul_le_mul_right _ hdigit
        _ = radix ^ (c :: digits).length := by rw [List.length_cons, Nat.pow_succ']

theorem lt_pow_length_decimal : n < 10 ^ (decimal n).length := by
  conv =>
    lhs
    rw [← value_decimal (n := n)]
  exact value_lt (by decide)

theorem pow_length_decimal_le (hpos : 0 < n) : 10 ^ ((decimal n).length - 1) ≤ n := by
  have hhead := head?_decimal hpos
  have hdigits : AllDigits (decimal n) := allDigits_decimal
  have hvalue : value 10 (decimal n) = n := value_decimal
  cases hcons : decimal n with
  | nil => exact absurd hcons decimal_ne_nil
  | cons c digits =>
      rw [hcons] at hhead hdigits hvalue
      have hdigit : 1 ≤ (digitValue? 10 c).getD 0 := by
        have hc : isDecimalDigit c = true := hdigits c List.mem_cons_self
        have hne : c.toNat ≠ '0'.toNat := fun heq =>
          hhead (congrArg some (Char.toNat_inj.mp heq))
        have hlow : '0'.toNat ≤ c.toNat := by
          rw [isDecimalDigit, Bool.and_eq_true] at hc
          exact of_decide_eq_true hc.1
        rw [digitValue?_of_isDecimalDigit hc, Option.getD_some]
        omega
      calc 10 ^ ((c :: digits).length - 1)
          = 1 * 10 ^ digits.length := by rw [List.length_cons, Nat.add_sub_cancel, Nat.one_mul]
        _ ≤ (digitValue? 10 c).getD 0 * 10 ^ digits.length := Nat.mul_le_mul_right _ hdigit
        _ ≤ value 10 (c :: digits) := by
            rw [value_cons]
            exact Nat.le_add_right _ _
        _ = n := hvalue

end Numeral
end Guest
