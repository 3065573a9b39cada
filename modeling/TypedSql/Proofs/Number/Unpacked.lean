import Mathlib
import TypedSql.Number.FloatText
import TypedSql.Proofs.Number.Rounding

namespace TypedSql.Number

open Float.Model (UnpackedFloat)

/-- The number that a float stands for, zero where it stands for none. -/
def exact (x : Float) : ℚ :=
  match x.toModel.unpack with
  | .finite sign significand exponent _ => sign.apply significand * 2 ^ exponent
  | _ => 0

/-- A number in decimal or other notation becomes the float when it is rounded to the nearest
one. The last bit of the word is that of the significand. -/
def RoundsTo (r : ℚ) (x : Float) : Prop :=
  x.isFinite ∧ Nearest r (exact x) (x.toBits.toNat % 2 = 0)

section Word
variable (b : BitVec 64)

theorem toNat_unpackExponent :
    (@UnpackedFloat.unpackExponent .binary64 b).toNat = b.toNat % signUnit / fractionUnit := by
  have parts := Nat.mod_mul_right_div_self b.toNat (2 ^ 52) (2 ^ 11)
  simp only [UnpackedFloat.unpackExponent, BitVec.toNat_cast, BitVec.extractLsb_toNat,
    Nat.shiftRight_eq_div_pow]
  exact parts.symm

theorem toNat_unpackMantissa :
    (@UnpackedFloat.unpackMantissa .binary64 b).toNat = b.toNat % fractionUnit := by
  simp only [UnpackedFloat.unpackMantissa, BitVec.toNat_cast, BitVec.extractLsb_toNat,
    Nat.shiftRight_zero]
  rfl

theorem unpackSign_eq :
    UnpackedFloat.Sign.ofBitVec (@UnpackedFloat.unpackSign .binary64 b) =
      if signUnit ≤ b.toNat then .negative else .positive := by
  have bound := b.isLt
  have bit : (@UnpackedFloat.unpackSign .binary64 b).toNat = b.toNat / signUnit := by
    simp only [UnpackedFloat.unpackSign, BitVec.toNat_cast, BitVec.extractLsb_toNat,
      Nat.shiftRight_eq_div_pow]
    exact Nat.mod_eq_of_lt (by omega)
  have clear : @UnpackedFloat.unpackSign .binary64 b = 0#1 ↔ b.toNat < signUnit := by
    rw [← BitVec.toNat_inj, bit]
    exact Nat.div_eq_zero_iff_lt (by decide)
  unfold UnpackedFloat.Sign.ofBitVec
  by_cases negative : signUnit ≤ b.toNat
  · rw [if_pos negative, if_neg (clear.not.2 (not_lt.2 negative))]
  · rw [if_neg negative, if_pos (clear.2 (not_le.1 negative))]

end Word

theorem toNat_leading (fraction : BitVec 52) :
    (1#1 ++ fraction).toNat = fractionUnit + fraction.toNat := by
  rw [BitVec.toNat_append, ← Nat.shiftLeft_add_eq_or_of_lt fraction.isLt]
  rfl

/-- The size of a number that is finite and not zero. -/
def size? : UnpackedFloat → Option BinaryNumber
  | .finite _ significand exponent _ =>
    some ⟨significand, exponent, significand = fractionUnit ∧ -1074 < exponent⟩
  | _ => none

theorem positive?_eq (x : Float) : positive? x = size? x.toModel.unpack := by
  let word := x.toModel.toBits.toBitVec
  have field : (@UnpackedFloat.unpackExponent .binary64 word).toNat =
      x.toBits.toNat % signUnit / fractionUnit := toNat_unpackExponent _
  have fraction : (@UnpackedFloat.unpackMantissa .binary64 word).toNat =
      x.toBits.toNat % fractionUnit := toNat_unpackMantissa _
  have small : x.toBits.toNat % fractionUnit < fractionUnit := Nat.mod_lt _ (by decide)
  have lastField (e : BitVec 11) : e = -1#11 ↔ e.toNat = lastExponent := BitVec.toNat_inj.symm
  have firstField (e : BitVec 11) : e = 0#11 ↔ e.toNat = 0 := BitVec.toNat_inj.symm
  have noFraction (f : BitVec 52) : f = 0#52 ↔ f.toNat = 0 := BitVec.toNat_inj.symm
  simp only [positive?, Float.Model.unpack]
  fun_cases UnpackedFloat.unpack .binary64 word with
  | case1 significand exponent _ _ last _ | case2 significand exponent last _ =>
    rw [lastField, field] at last
    exact if_pos last
  | case3 significand exponent _ _ last least zero =>
    rw [lastField, field] at last
    rw [firstField, field] at least
    rw [noFraction, fraction] at zero
    rw [if_neg last, if_pos least, if_pos zero]
    rfl
  | case4 significand exponent power _ _ last least zero =>
    have shifted : power + 1 = (x.toBits.toNat % signUnit / fractionUnit : ℕ) - 1074 := by
      have bias : power = exponent.toNat - 1075 := rfl
      rw [bias, field]
      ring
    rw [lastField, field] at last
    rw [firstField, field] at least
    rw [noFraction, fraction] at zero
    rw [if_neg last, if_pos least, if_neg zero, size?, shifted, least, fraction]
    simp [small.ne]
  | case5 significand exponent power _ _ last least =>
    have shifted : power = (x.toBits.toNat % signUnit / fractionUnit : ℕ) - 1075 := by
      rw [← field]
      rfl
    rw [lastField, field] at last
    rw [firstField, field] at least
    have wide (f : ℕ) : 1 < f ↔ -1074 < (f : ℤ) - 1075 := by omega
    rw [if_neg last, if_neg least, size?, shifted, toNat_leading, fraction]
    congr 3
    rw [Nat.add_eq_left, wide]

theorem isNegative_of_unpack {x : Float} {sign : UnpackedFloat.Sign} {significand : ℕ}
    {exponent : ℤ} {positive : 0 < significand}
    (unpacked : x.toModel.unpack = .finite sign significand exponent positive) :
    sign = if isNegative x then .negative else .positive := by
  have bit : UnpackedFloat.Sign.ofBitVec
    (@UnpackedFloat.unpackSign .binary64 x.toModel.toBits.toBitVec) =
      if isNegative x then .negative else .positive := by
    rw [unpackSign_eq]
    simp only [isNegative, decide_eq_true_eq]
    rfl
  simp only [Float.Model.unpack] at unpacked
  revert unpacked
  fun_cases UnpackedFloat.unpack .binary64 x.toModel.toBits.toBitVec with
  | case1 | case2 | case3 =>
    intro unpacked
    contradiction
  | case4 | case5 =>
    intro unpacked
    injection unpacked with same
    exact same.symm.trans bit

theorem exact_of_positive? {x : Float} {n : BinaryNumber} (sized : positive? x = some n) :
    x.isFinite = true ∧ exact x = if isNegative x then -n.value else n.value := by
  rw [positive?_eq] at sized
  simp only [Float.isFinite, Float.Model.isFinite, exact]
  cases unpacked : x.toModel.unpack with
  | infinity | notANumber | zero =>
    rw [unpacked] at sized
    contradiction
  | finite sign significand exponent positive =>
    rw [unpacked] at sized
    cases sized
    refine ⟨rfl, ?_⟩
    rw [isNegative_of_unpack unpacked]
    cases isNegative x <;> simp [UnpackedFloat.Sign.apply, BinaryNumber.value]

theorem exact_eq_zero {x : Float} (unsized : positive? x = none) : exact x = 0 := by
  rw [positive?_eq] at unsized
  simp only [exact]
  cases unpacked : x.toModel.unpack with
  | infinity | notANumber | zero => rfl
  | finite sign significand exponent positive =>
    rw [unpacked] at unsized
    contradiction

theorem abs_exact {x : Float} {n : BinaryNumber} (sized : positive? x = some n) :
    |exact x| = n.value := by
  have size : 0 ≤ n.value := mul_nonneg (Nat.cast_nonneg _) n.unit_pos.le
  rw [(exact_of_positive? sized).2]
  split
  · rw [abs_neg, abs_of_nonneg size]
  · rw [abs_of_nonneg size]

theorem exact_eq_signed (x : Float) : exact x = if isNegative x then -|exact x| else |exact x| := by
  cases sized : positive? x with
  | none => simp [exact_eq_zero sized]
  | some n => rw [abs_exact sized, (exact_of_positive? sized).2]

theorem isFinite_iff {x : Float} : x.isFinite = true ↔ x.isNaN = false ∧ x.isInf = false := by
  simp only [Float.isFinite, Float.Model.isFinite, Float.isNaN, Float.Model.isNaN, Float.isInf,
    Float.Model.isInf]
  cases x.toModel.unpack <;> simp [UnpackedFloat.isFinite, UnpackedFloat.isNaN, UnpackedFloat.isInf]

theorem isBinary64_subnormal {fraction : ℕ} (positive : 0 < fraction)
    (small : fraction < fractionUnit) :
    BinaryNumber.IsBinary64 ⟨fraction, -1074, false⟩ where
  positive := positive
  bounded := small.trans (by decide)
  least := le_rfl
  normal := .inr rfl
  narrow_iff := by simp

theorem isBinary64_normal {field fraction : ℕ} (positive : 0 < field)
    (small : fraction < fractionUnit) :
    BinaryNumber.IsBinary64 ⟨fractionUnit + fraction, field - 1075, fraction = 0 ∧ 1 < field⟩ where
  positive := Nat.add_pos_left (by decide) fraction
  bounded := Nat.add_lt_add_left small fractionUnit
  least := by
    dsimp only
    omega
  normal := .inl (Nat.le_add_right fractionUnit fraction)
  narrow_iff := by
    have whole : fractionUnit + fraction = 2 ^ 52 ↔ fraction = 0 := Nat.add_eq_left
    have wide : -1074 < (field : ℤ) - 1075 ↔ 1 < field := by omega
    rw [decide_eq_true_eq, whole, wide]

theorem isBinary64_of_positive? {x : Float} {n : BinaryNumber} (sized : positive? x = some n) :
    n.IsBinary64 ∧ n.significand % 2 = x.toBits.toNat % 2 := by
  have small : x.toBits.toNat % fractionUnit < fractionUnit := Nat.mod_lt _ (by decide)
  have parity : x.toBits.toNat % fractionUnit % 2 = x.toBits.toNat % 2 :=
    Nat.mod_mod_of_dvd _ (by decide)
  have even : fractionUnit % 2 = 0 := by decide
  simp only [positive?] at sized
  split at sized
  · contradiction
  split at sized
  · split at sized
    · contradiction
    · rename_i nonzero
      cases sized
      exact ⟨isBinary64_subnormal (Nat.pos_of_ne_zero nonzero) small, parity⟩
  · rename_i normal
    cases sized
    refine ⟨isBinary64_normal (Nat.pos_of_ne_zero normal) small, ?_⟩
    rw [Nat.add_mod, even, Nat.zero_add, Nat.mod_mod, parity]

end TypedSql.Number
