import LowRank.Cell
import Mathlib

/-!
# One times a double

A product of doubles is formed exactly from the mantissas and exponents of its factors and rounded
to a mantissa of fifty-three binary digits. One has the mantissa `2 ^ 52` and the exponent `-52`, so
the product with it has fifty-two trailing zeros to be dropped, and what is left is the other factor
as it is stored. The factors that are no finite numbers do not change either.
-/

namespace LowRank.Double

open Float.Model (Format UnpackedFloat totalExponent)
open Float.Model.UnpackedFloat

/-- The exponent of a finite number is the one that rounding would give it. -/
def Normalised : UnpackedFloat → Prop
  | .finite _ mantissa exponent _ =>
      Format.binary64.targetExponent (totalExponent mantissa exponent) = exponent
  | .notANumber | .infinity _ | .zero _ => True

theorem log2_two_pow_mul (count mantissa : Nat) (positive : 0 < mantissa) :
    (2 ^ count * mantissa).log2 = count + mantissa.log2 := by
  induction count with
  | zero => simp
  | succ count ih =>
      have nonzero : 2 ^ count * mantissa ≠ 0 := by positivity
      rw [Nat.pow_succ', Nat.mul_assoc, Nat.log2_two_mul nonzero, ih]
      omega

/-- Shifting trailing zeros out of a mantissa loses nothing. -/
theorem shift_two_pow_mul (count mantissa : Nat) :
    ExtendedMantissa.ofMantissaAndAccuracy (2 ^ count * mantissa) .exact >>> count =
      ExtendedMantissa.ofMantissaAndAccuracy mantissa .exact := by
  change Nat.repeat ExtendedMantissa.shiftRightOne count _ = _
  induction count generalizing mantissa with
  | zero =>
      rw [Nat.pow_zero, Nat.one_mul]
      rfl
  | succ count ih =>
      rw [Nat.pow_succ, Nat.mul_assoc, Nat.repeat, ih]
      simp [ExtendedMantissa.ofMantissaAndAccuracy, ExtendedMantissa.shiftRightOne]

/-- A mantissa of at most fifty-three digits with the least exponent is stored as it is. -/
theorem targetExponent_of_least (mantissa : Nat) (positive : 0 < mantissa)
    (short : mantissa < 2 ^ 53) :
    Format.binary64.targetExponent (totalExponent mantissa (-1074)) = -1074 := by
  have digits : mantissa.log2 < 53 := (Nat.log2_lt positive.ne').mpr short
  change max ((mantissa.log2 : Int) + 1 + -1074 - 53) (-1074) = -1074
  omega

/-- A mantissa of exactly fifty-three digits keeps its exponent from the least one on. -/
theorem targetExponent_of_full (mantissa : Nat) (exponent : Int) (long : 2 ^ 52 ≤ mantissa)
    (short : mantissa < 2 ^ 53) (least : -1074 ≤ exponent) :
    Format.binary64.targetExponent (totalExponent mantissa exponent) = exponent := by
  have digits : mantissa.log2 = 52 := (Nat.log2_eq_iff (by omega)).mpr ⟨long, short⟩
  change max ((mantissa.log2 : Int) + 1 + exponent - 53) (-1074) = exponent
  omega

theorem normalised_unpack (bits : BitVec Format.binary64.numBits) :
    Normalised (UnpackedFloat.unpack Format.binary64 bits) := by
  have stored : (unpackMantissa bits).toNat < 2 ^ 52 := (unpackMantissa bits).isLt
  fun_cases UnpackedFloat.unpack Format.binary64 bits with
  | case1 => exact trivial
  | case2 => exact trivial
  | case3 => exact trivial
  | case4 mantissa field exponent signBit sign special least nonzero =>
      -- A subnormal number.
      have exponent_eq : exponent + 1 = -1074 := by
        simp only [exponent, least]
        rfl
      simp only [exponent_eq]
      apply targetExponent_of_least
      · exact Nat.pos_of_ne_zero fun zero => nonzero (BitVec.eq_of_toNat_eq zero)
      · change (unpackMantissa bits).toNat < 2 ^ 53
        omega
  | case5 mantissa field exponent signBit sign special least =>
      -- A normal number, whose leading digit is not stored.
      have leading : (1#1 ++ mantissa).toNat = 2 ^ 52 + mantissa.toNat := by
        rw [BitVec.toNat_append, ← Nat.shiftLeft_add_eq_or_of_lt mantissa.isLt]
        rfl
      have positive : 0 < field.toNat :=
        Nat.pos_of_ne_zero fun zero => least (BitVec.eq_of_toNat_eq zero)
      change mantissa.toNat < 2 ^ 52 at stored
      apply targetExponent_of_full
      · omega
      · omega
      · change (-1074 : Int) ≤ field.toNat - 1075
        omega

theorem shiftToTargetExponent_one_mul (mantissa : Nat) (exponent : Int) (positive : 0 < mantissa)
    (normalised :
      Format.binary64.targetExponent (totalExponent mantissa exponent) = exponent) :
    shiftToTargetExponent Format.binary64 (2 ^ 52 * mantissa) (-52 + exponent) .exact =
      (.ofMantissaAndAccuracy mantissa .exact, exponent) := by
  have sameTotal : totalExponent (2 ^ 52 * mantissa) (-52 + exponent) =
      totalExponent mantissa exponent := by
    simp only [totalExponent, log2_two_pow_mul 52 mantissa positive]
    omega
  have trailing : (exponent - (-52 + exponent)).toNat = 52 := by omega
  simp only [shiftToTargetExponent, shiftToExponent, sameTotal, normalised, trailing,
    shift_two_pow_mul]
  congr 1
  omega

theorem shiftToTargetExponent_of_normalised (mantissa : Nat) (exponent : Int)
    (normalised :
      Format.binary64.targetExponent (totalExponent mantissa exponent) = exponent) :
    shiftToTargetExponent Format.binary64 mantissa exponent .exact =
      (.ofMantissaAndAccuracy mantissa .exact, exponent) := by
  simp only [shiftToTargetExponent, shiftToExponent, normalised, sub_self, Int.toNat_zero,
    Int.ofNat_zero, add_zero]
  rfl

/-- The product of one and a number in normal form is that number. -/
theorem one_mul_normalised (value : UnpackedFloat) (normalised : Normalised value) :
    UnpackedFloat.mul Format.binary64 (.finite .positive (2 ^ 52) (-52) (by decide)) value =
      value := by
  cases value with
  | notANumber => rfl
  | infinity sign => cases sign <;> rfl
  | zero sign => cases sign <;> rfl
  | finite sign mantissa exponent positive =>
      have sameSign : Sign.positive * sign = sign := by
        cases sign <;> rfl
      change roundWithAccuracy Format.binary64 (.positive * sign) (2 ^ 52 * mantissa)
        (-52 + exponent) .exact = _
      simp only [roundWithAccuracy, sameSign,
        shiftToTargetExponent_one_mul mantissa exponent positive normalised]
      have rounded : (ExtendedMantissa.ofMantissaAndAccuracy mantissa .exact).roundedMantissa =
          mantissa := rfl
      simp only [rounded, shiftToTargetExponent_of_normalised mantissa exponent normalised]
      exact dif_neg positive.ne'

/-- One is a left unit of the multiplication of doubles. -/
theorem one_mul (value : Float) : 1.0 * value = value := by
  have oneParts : (1.0 : Float).toModel.unpack =
      .finite .positive (2 ^ 52) (-52) (by decide) := by rfl
  have parts := one_mul_normalised value.toModel.unpack (normalised_unpack _)
  have products : (1.0 : Float).toModel.mul value.toModel = value.toModel := by
    rw [Float.Model.mul, oneParts, parts, Float.Model.pack, Float.Model.mk.injEq]
    exact congrArg UInt64.ofBitVec (pack_unpack_of_valid value.toModel.valid)
  exact congrArg Float.ofModel products

end LowRank.Double
