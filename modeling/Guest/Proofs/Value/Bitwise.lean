import Guest.Proofs.Number.Words
import Guest.Value.Operation

/-!
# Bitwise operators

The bitwise operators work on the residues of their operands modulo `2 ^ 32`, in two's complement,
and the count of a shift is taken modulo `32`.  Whole numbers with the same residue are one operand.
-/

namespace Guest

namespace Value

variable {v w : Value}

/-- The residue of a value modulo `2 ^ 32`, with what its number holds after the point cut off. -/
def residue (v : Value) : BitVec 32 := BitVec.ofInt 32 v.toNumber.truncated

theorem word_eq_residue (v : Value) : v.word = v.residue := Number.toWord_eq _

theorem unsignedWord_eq_residue (v : Value) : v.unsignedWord = v.residue :=
  Number.ofNat_toUnsigned _

theorem shiftCount_eq (v : Value) : v.shiftCount = v.residue.toNat % 32 := by
  rw [shiftCount, Number.toUnsigned_eq, residue, BitVec.toNat_ofInt]

theorem residue_congr (h : v.toNumber.truncated ≡ w.toNumber.truncated [ZMOD 2 ^ 32]) :
    v.residue = w.residue :=
  Number.ofInt_truncated_congr h

end Value

namespace BinaryOp

/-- What a bitwise operator does to two words, as the whole number that it gives.  It has a sign,
but for the shift that fills with zeros.  A shift multiplies by a power of two or divides by one,
rounding down. -/
def wordOperation? : BinaryOp → Option (BitVec 32 → BitVec 32 → Int)
  | bitAnd => some fun a b => (a &&& b).toInt
  | bitOr => some fun a b => (a ||| b).toInt
  | bitXor => some fun a b => (a ^^^ b).toInt
  | shiftLeft => some fun a b => (a.toInt * 2 ^ (b.toNat % 32)).bmod (2 ^ 32)
  | shiftRight => some fun a b => a.toInt / 2 ^ (b.toNat % 32)
  | shiftRightZero => some fun a b => a.toNat / 2 ^ (b.toNat % 32)
  | _ => none

variable {op : BinaryOp} {operation : BitVec 32 → BitVec 32 → Int} {v v' w w' : Value}

theorem toInt_shiftLeft_eq (a : BitVec 32) (k : Nat) :
    (a <<< k).toInt = (a.toInt * 2 ^ k).bmod (2 ^ 32) := by
  rw [BitVec.toInt_shiftLeft, Nat.shiftLeft_eq, BitVec.toInt_eq_toNat_bmod, Int.bmod_mul_bmod,
    Int.natCast_mul, Int.natCast_pow]
  rfl

theorem toInt_sshiftRight_eq (a : BitVec 32) (k : Nat) :
    (a.sshiftRight k).toInt = a.toInt / 2 ^ k := by
  rw [BitVec.toInt_sshiftRight, Int.shiftRight_eq_div_pow, Int.natCast_pow]
  rfl

theorem toNat_ushiftRight_eq (a : BitVec 32) (k : Nat) :
    ((a >>> k).toNat : Int) = a.toNat / 2 ^ k := by
  rw [BitVec.toNat_ushiftRight, Nat.shiftRight_eq_div_pow, Int.natCast_ediv, Int.natCast_pow]
  rfl

/-- A bitwise operator works on the residues of its operands. -/
theorem apply_wordOperation (h : op.wordOperation? = some operation) (v w : Value) :
    op.apply v w = .number (.ofInt (operation v.residue w.residue)) := by
  cases op <;> cases h <;> rw [BinaryOp.apply]
  case bitAnd => rw [v.word_eq_residue, w.word_eq_residue, Number.ofSigned]
  case bitOr => rw [v.word_eq_residue, w.word_eq_residue, Number.ofSigned]
  case bitXor => rw [v.word_eq_residue, w.word_eq_residue, Number.ofSigned]
  case shiftLeft =>
    rw [v.word_eq_residue, w.shiftCount_eq, Number.ofSigned, toInt_shiftLeft_eq]
  case shiftRight =>
    rw [v.word_eq_residue, w.shiftCount_eq, Number.ofSigned, toInt_sshiftRight_eq]
  case shiftRightZero =>
    rw [v.unsignedWord_eq_residue, w.shiftCount_eq, Number.ofUnsigned, ← Number.ofInt_natCast,
      toNat_ushiftRight_eq]

theorem wordOperation_range (h : op.wordOperation? = some operation) (a b : BitVec 32) :
    -2 ^ 31 ≤ operation a b ∧ operation a b < 2 ^ 32 := by
  have hsigned : ∀ word : BitVec 32, -2 ^ 31 ≤ word.toInt ∧ word.toInt < 2 ^ 32 := fun word =>
    ⟨word.le_toInt, Int.lt_trans word.toInt_lt (by decide)⟩
  have hunsigned : ∀ word : BitVec 32, -2 ^ 31 ≤ (word.toNat : Int) ∧ (word.toNat : Int) < 2 ^ 32 :=
    fun word => ⟨by omega, by omega⟩
  cases op <;> cases h
  case bitAnd => exact hsigned _
  case bitOr => exact hsigned _
  case bitXor => exact hsigned _
  case shiftLeft =>
    have hrange := hsigned (a <<< (b.toNat % 32))
    rwa [toInt_shiftLeft_eq] at hrange
  case shiftRight =>
    have hrange := hsigned (a.sshiftRight (b.toNat % 32))
    rwa [toInt_sshiftRight_eq] at hrange
  case shiftRightZero =>
    have hrange := hunsigned (a >>> (b.toNat % 32))
    rwa [toNat_ushiftRight_eq] at hrange

/-- The number of the result is the whole number itself. -/
theorem isExactly_wordOperation (h : op.wordOperation? = some operation) (a b : BitVec 32) :
    (Number.ofInt (operation a b)).IsExactly (operation a b) := by
  have hrange := wordOperation_range h a b
  exact Number.isExactly_ofInt (by omega)

/-- Operands with the same residue are one operand of a bitwise operator. -/
theorem apply_eq_of_residue_eq (h : op.wordOperation?.isSome) (hv : v.residue = v'.residue)
    (hw : w.residue = w'.residue) : op.apply v w = op.apply v' w' := by
  obtain ⟨operation, hoperation⟩ := Option.isSome_iff_exists.mp h
  rw [apply_wordOperation hoperation, apply_wordOperation hoperation, hv, hw]

end BinaryOp

namespace UnaryOp

theorem apply_complement (v : Value) :
    complement.apply v = .number (.ofInt (~~~v.residue).toInt) := by
  rw [apply, Number.toWord_eq, Number.ofSigned, Value.residue]

theorem isExactly_complement (word : BitVec 32) :
    (Number.ofInt (~~~word).toInt).IsExactly (~~~word).toInt := by
  have hleast := (~~~word).le_toInt
  have hmost := (~~~word).toInt_lt
  exact Number.isExactly_ofInt (by omega)

end UnaryOp

namespace Value

/-- Numbers are wrapped to words by their residue modulo `2 ^ 32`: the words with and without a sign
are in their range, congruent to the number's part toward zero, and `0` for what is not finite.  The
bitwise operators give the whole number of the operation on the residues of their operands, which
is exactly representable.  So a finite operand may be replaced by any that is congruent to it. -/
theorem bitwise_operators_work_on_residues :
    (∀ x : Number,
      (-2 ^ 31 ≤ x.toSigned ∧ x.toSigned < 2 ^ 31) ∧ x.toUnsigned < 2 ^ 32 ∧
      (x.isFinite = true → x.toSigned ≡ x.truncated [ZMOD 2 ^ 32] ∧
        x.toUnsigned ≡ x.truncated [ZMOD 2 ^ 32]) ∧
      (x.isFinite = false → x.toSigned = 0 ∧ x.toUnsigned = 0)) ∧
    (∀ v : Value, ∃ x : Number, UnaryOp.complement.apply v = number x ∧
      x = .ofInt (~~~v.residue).toInt ∧ x.IsExactly (~~~v.residue).toInt) ∧
    (∀ (op : BinaryOp) operation, op.wordOperation? = some operation →
      ∀ v w : Value, ∃ x : Number, op.apply v w = number x ∧
        x = .ofInt (operation v.residue w.residue) ∧
        x.IsExactly (operation v.residue w.residue)) ∧
    (∀ x y : Number, x.isFinite = true → y.isFinite = true →
      x.truncated ≡ y.truncated [ZMOD 2 ^ 32] →
      UnaryOp.complement.apply (number x) = UnaryOp.complement.apply (number y) ∧
      ∀ op : BinaryOp, op.wordOperation?.isSome → ∀ v,
        op.apply (number x) v = op.apply (number y) v ∧
        op.apply v (number x) = op.apply v (number y)) := by
  refine ⟨fun x => ?wrapped, fun v => ?complement, fun op operation hop v w => ?binary,
    fun x y _ _ hcongr => ?replaced⟩
  case wrapped =>
    refine ⟨x.toSigned_range, x.toUnsigned_lt, fun _ => ?_, fun hfinite => ?_⟩
    · exact ⟨x.toSigned_modEq, x.toUnsigned_modEq⟩
    · rw [x.toSigned_eq, x.toUnsigned_eq, Number.truncated_of_not_isFinite hfinite]
      exact ⟨rfl, rfl⟩
  case complement =>
    exact ⟨_, UnaryOp.apply_complement v, rfl, UnaryOp.isExactly_complement _⟩
  case binary =>
    exact ⟨_, BinaryOp.apply_wordOperation hop v w, rfl, BinaryOp.isExactly_wordOperation hop _ _⟩
  case replaced =>
    have hresidue : (number x).residue = (number y).residue := residue_congr hcongr
    refine ⟨?_, fun op hop v => ⟨?_, ?_⟩⟩
    · rw [UnaryOp.apply_complement, UnaryOp.apply_complement, hresidue]
    · exact BinaryOp.apply_eq_of_residue_eq hop hresidue rfl
    · exact BinaryOp.apply_eq_of_residue_eq hop rfl hresidue

/-- `2 ^ 32 + 1` in place of `1` changes nothing, what is not a number counts as zero, and a shift
by `32` as a shift by none. -/
theorem bitwise_operands_are_wrapped :
    (Number.nan.toSigned = 0 ∧ Number.nan.toUnsigned = 0) ∧
    Number.one.toSigned ≡ Number.one.truncated [ZMOD 2 ^ 32] ∧
    (∃ x, BinaryOp.shiftRightZero.apply (number (.ofInt (-1))) (number (.ofNat 32)) = number x ∧
      x.IsExactly 4294967295) ∧
    BinaryOp.bitXor.apply (number (.ofNat (2 ^ 32 + 1))) null =
      BinaryOp.bitXor.apply (number (.ofNat 1)) null := by
  obtain ⟨hwrapped, -, hbinary, hreplaced⟩ := bitwise_operators_work_on_residues
  have hgreat : (Number.ofNat (2 ^ 32 + 1)).IsExactly (2 ^ 32 + 1 : Nat) :=
    Number.isExactly_ofNat (by decide)
  have hone : (Number.ofNat 1).IsExactly (1 : Nat) := Number.isExactly_ofNat (by decide)
  have hminus : (Number.ofInt (-1)).IsExactly (-1) := Number.isExactly_ofInt (by decide)
  have hcount : (Number.ofNat 32).IsExactly (32 : Nat) := Number.isExactly_ofNat (by decide)
  refine ⟨(hwrapped .nan).2.2.2 rfl, ((hwrapped .one).2.2.1 hone.isFinite).1, ?_, ?_⟩
  · obtain ⟨x, hresult, -, hexact⟩ := hbinary .shiftRightZero _ rfl (number (.ofInt (-1)))
      (number (.ofNat 32))
    have hfirst : (number (.ofInt (-1))).residue = BitVec.ofInt 32 (-1) :=
      congrArg (BitVec.ofInt 32) hminus.truncated_eq
    have hsecond : (number (.ofNat 32)).residue = BitVec.ofInt 32 (32 : Nat) :=
      congrArg (BitVec.ofInt 32) hcount.truncated_eq
    rw [hfirst, hsecond] at hexact
    exact ⟨x, hresult, hexact⟩
  · have hcongr : (Number.ofNat (2 ^ 32 + 1)).truncated ≡ (Number.ofNat 1).truncated
        [ZMOD 2 ^ 32] := by
      rw [hgreat.truncated_eq, hone.truncated_eq]
      decide
    exact ((hreplaced _ _ hgreat.isFinite hone.isFinite hcongr).2 .bitXor rfl null).1

end Value

end Guest
