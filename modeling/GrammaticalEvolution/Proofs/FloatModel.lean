import Mathlib.Algebra.Ring.Nat

/-!
# Packing and rounding of binary64 numbers

What unpacking and rounding can give is said once for each: a finite number has
a mantissa of at most 53 bits and an exponent not below the least one, and its
sign is the one it was given.  Rounding loses no number whose exponent is large
enough already, and packing loses none that fits.
-/

namespace GrammaticalEvolution.FloatModel

open Float.Model Float.Model.UnpackedFloat

def IsZero : UnpackedFloat → Prop
  | .zero _ => True
  | _ => False

/-- The mantissa has at most 53 bits, and the exponent is not below the least
one. -/
def Fits : UnpackedFloat → Prop
  | .finite _ mantissa exponent _ => mantissa < 2 ^ 53 ∧ -1074 ≤ exponent
  | _ => True

theorem finite_congr {sign : Sign} {mantissa other : Nat} {exponent next : Int}
    {positive : 0 < mantissa} {otherPositive : 0 < other}
    (mantissas : mantissa = other) (exponents : exponent = next) :
    finite sign mantissa exponent positive =
      finite sign other next otherPositive := by
  subst mantissas exponents
  rfl

/-! ### Unpacking -/

/-- What 64 bits can be unpacked as. -/
inductive Unpacks (bits : BitVec Format.binary64.numBits) :
    UnpackedFloat → Prop where
  | notANumber : Unpacks bits .notANumber
  | infinity : Unpacks bits (.infinity (Sign.ofBitVec (unpackSign bits)))
  | zero (exponentZero : unpackExponent bits = 0#_)
      (mantissaZero : unpackMantissa bits = 0#_) :
      Unpacks bits (.zero (Sign.ofBitVec (unpackSign bits)))
  | finite {mantissa : Nat} {exponent : Int} {positive : 0 < mantissa}
      (few : mantissa < 2 ^ 53) (least : -1074 ≤ exponent) :
      Unpacks bits (.finite (Sign.ofBitVec (unpackSign bits)) mantissa
        exponent positive)

theorem unpacks (bits : BitVec Format.binary64.numBits) :
    Unpacks bits (UnpackedFloat.unpack .binary64 bits) := by
  have bias : Format.binary64.exponentBias = 1023 := rfl
  unfold UnpackedFloat.unpack
  dsimp only
  by_cases full : unpackExponent bits = -1#_
  · rw [if_pos full]
    by_cases empty : unpackMantissa bits = 0#_
    · rw [if_pos empty]
      exact .infinity
    · rw [if_neg empty]
      exact .notANumber
  · rw [if_neg full]
    by_cases small : unpackExponent bits = 0#_
    · rw [if_pos small]
      by_cases empty : unpackMantissa bits = 0#_
      · rw [dif_pos empty]
        exact .zero small empty
      · rw [dif_neg empty]
        have few := (unpackMantissa bits).isLt
        exact .finite (Nat.lt_trans few (by decide)) (by omega)
    · rw [if_neg small]
      have positive : (unpackExponent bits).toNat ≠ 0 := by
        intro none
        exact small (BitVec.eq_of_toNat_eq none)
      exact .finite (1#1 ++ unpackMantissa bits).isLt (by omega)

theorem unpack_fits (bits : BitVec Format.binary64.numBits) :
    Fits (UnpackedFloat.unpack .binary64 bits) := by
  have found := unpacks bits
  generalize UnpackedFloat.unpack .binary64 bits = number at found
  cases found with
  | finite few least => exact ⟨few, least⟩
  | _ => trivial

/-! ### Packing -/

theorem unpackSign_packComponents {spec : Format} {sign : Sign}
    {exponent : BitVec spec.exponentBits}
    {mantissa : BitVec spec.mantissaBitsWithoutImplicit} :
    unpackSign (packComponents spec sign exponent mantissa) =
      sign.toBitVec := by
  ext position inside
  obtain rfl : position = 0 := by omega
  delta unpackSign packComponents
  simp [BitVec.getLsbD_append, BitVec.getElem_append]

/-- A finite number keeps its sign when it is packed, and a field of it is not
zero if it fits. -/
theorem pack_finite (sign : Sign) (mantissa : Nat) (exponent : Int)
    (positive : 0 < mantissa) :
    ∃ high low,
      UnpackedFloat.pack .binary64 (.finite sign mantissa exponent positive) =
        packComponents .binary64 sign high low ∧
      (mantissa < 2 ^ 53 → -1074 ≤ exponent → high ≠ 0#_ ∨ low ≠ 0#_) := by
  have bias : Format.binary64.exponentBias = 1023 := rfl
  unfold UnpackedFloat.pack
  dsimp only
  generalize written : (exponent + (Format.binary64.exponentBias : Int) +
    (52 : Nat)).toNat = biased
  by_cases large : 2 ^ 11 ≤ biased + 1
  · rw [if_pos large]
    exact ⟨-1#11, 0#52, rfl, fun _ _ => .inl (by decide)⟩
  rw [if_neg large]
  by_cases normal : mantissa.log2 + 1 = Format.binary64.mantissaBits
  · rw [if_pos normal]
    refine ⟨_, _, rfl, fun _ least => .inl fun none => ?_⟩
    have same := congrArg BitVec.toNat none
    rw [BitVec.toNat_ofNat, BitVec.toNat_zero] at same
    omega
  · rw [if_neg normal]
    refine ⟨_, _, rfl, fun few _ => .inr fun none => ?_⟩
    have same := congrArg BitVec.toNat none
    rw [BitVec.toNat_ofNat, BitVec.toNat_zero] at same
    have bits : Format.binary64.mantissaBits = 53 := rfl
    have short : mantissa.log2 < 53 :=
      (Nat.log2_lt (Nat.ne_of_gt positive)).mpr few
    have shorter : mantissa < 2 ^ 52 :=
      (Nat.log2_lt (Nat.ne_of_gt positive)).mp (by omega)
    omega

/-- What fits is unpacked as a zero only if it was packed as one. -/
theorem isZero_of_unpack_pack {number : UnpackedFloat} (fits : Fits number)
    (zero : IsZero (Float.Model.pack number).unpack) : IsZero number := by
  change IsZero (UnpackedFloat.unpack .binary64
    (UnpackedFloat.pack .binary64 number)) at zero
  have found := unpacks (UnpackedFloat.pack .binary64 number)
  generalize UnpackedFloat.unpack .binary64
    (UnpackedFloat.pack .binary64 number) = unpacked at zero found
  cases found with
  | zero exponentZero mantissaZero =>
      have full : (-1#11 : BitVec 11) ≠ 0#11 := by decide
      cases number with
      | notANumber | infinity =>
          exact absurd (unpackExponent_packComponents.symm.trans exponentZero)
            full
      | zero => trivial
      | finite sign mantissa exponent positive =>
          obtain ⟨high, low, packed, filled⟩ :=
            pack_finite sign mantissa exponent positive
          rw [packed, unpackExponent_packComponents] at exponentZero
          rw [packed, unpackMantissa_packComponents] at mantissaZero
          rcases filled fits.1 fits.2 with highFilled | lowFilled
          · exact absurd exponentZero highFilled
          · exact absurd mantissaZero lowFilled
  | _ => exact zero.elim

/-! ### Shifts -/

/-- The places that a mantissa is shifted to reach its target exponent. -/
def places (mantissa : Nat) (exponent : Int) : Nat :=
  (max ((mantissa.log2 : Int) + 1 + exponent - 53) (-1074) - exponent).toNat

section Shift

variable {mantissa : Nat} {exponent : Int} {accuracy : Accuracy}

theorem mantissa_shiftRight (start : ExtendedMantissa) (count : Nat) :
    (start >>> count).mantissa = start.mantissa / 2 ^ count := by
  change (count.repeat ExtendedMantissa.shiftRightOne start).mantissa = _
  induction count with
  | zero => exact (Nat.div_one _).symm
  | succ count induction =>
      rw [Nat.pow_succ, ← Nat.div_div_eq_div_mul, ← induction]
      rfl

theorem mantissa_shiftToTargetExponent :
    (shiftToTargetExponent .binary64 mantissa exponent accuracy).1.mantissa =
      mantissa / 2 ^ places mantissa exponent := by
  have unshifted : (ExtendedMantissa.ofMantissaAndAccuracy mantissa
      accuracy).mantissa = mantissa := by
    rcases accuracy with _ | (_ | _ | _) <;> rfl
  have shifted := mantissa_shiftRight (ExtendedMantissa.ofMantissaAndAccuracy
    mantissa accuracy) (places mantissa exponent)
  rw [unshifted] at shifted
  exact shifted

theorem shifted_lt : mantissa / 2 ^ places mantissa exponent < 2 ^ 53 := by
  have enough : mantissa.log2 + 1 ≤ places mantissa exponent + 53 := by
    unfold places
    omega
  apply Nat.div_lt_of_lt_mul
  rw [← Nat.pow_add]
  exact Nat.lt_of_lt_of_le Nat.lt_log2_self
    (Nat.pow_le_pow_right (by decide) enough)

theorem shifted_pos (positive : mantissa ≠ 0) (least : -1074 ≤ exponent) :
    0 < mantissa / 2 ^ places mantissa exponent := by
  have few : places mantissa exponent ≤ mantissa.log2 := by
    unfold places
    omega
  refine Nat.div_pos ?_ (Nat.two_pow_pos _)
  exact Nat.le_trans (Nat.pow_le_pow_right (by decide) few)
    (Nat.log2_self_le positive)

theorem least_shifted : -1074 ≤ exponent + places mantissa exponent := by
  unfold places
  omega

theorem le_roundedMantissa (extended : ExtendedMantissa) :
    extended.mantissa ≤ extended.roundedMantissa := by
  unfold ExtendedMantissa.roundedMantissa
  rcases extended.accuracy with _ | (_ | _ | _) <;>
    simp only [Accuracy.roundToNearestEven] <;> omega

end Shift

/-! ### Rounding -/

/-- What a number can be rounded to: a zero, or a finite number that fits. -/
inductive Rounds (sign : Sign) (mantissa : Nat) (exponent : Int) :
    UnpackedFloat → Prop where
  | zero (lost : mantissa = 0 ∨ exponent < -1074) :
      Rounds sign mantissa exponent (.zero sign)
  | finite {rounded : Nat} {scale : Int} {positive : 0 < rounded}
      (few : rounded < 2 ^ 53) (least : -1074 ≤ scale) :
      Rounds sign mantissa exponent (.finite sign rounded scale positive)

theorem rounds (sign : Sign) (mantissa : Nat) (exponent : Int)
    (accuracy : Accuracy) :
    Rounds sign mantissa exponent
      (roundWithAccuracy .binary64 sign mantissa exponent accuracy) := by
  let first := shiftToTargetExponent .binary64 mantissa exponent accuracy
  let rounded := first.1.roundedMantissa
  let last := shiftToTargetExponent .binary64 rounded first.2 .exact
  have firstMantissa : first.1.mantissa =
      mantissa / 2 ^ places mantissa exponent := mantissa_shiftToTargetExponent
  have lastMantissa : last.1.mantissa = rounded / 2 ^ places rounded first.2 :=
    mantissa_shiftToTargetExponent
  change Rounds sign mantissa exponent
    (if zero : last.1.mantissa = 0 then .zero sign
      else .finite sign last.1.mantissa last.2 (Nat.pos_of_ne_zero zero))
  by_cases zero : last.1.mantissa = 0
  · rw [dif_pos zero]
    refine .zero ?_
    by_contra kept
    obtain ⟨positive, least⟩ := not_or.mp kept
    have firstPositive : 0 < first.1.mantissa := by
      rw [firstMantissa]
      exact shifted_pos positive (Int.not_lt.mp least)
    have roundedPositive : 0 < rounded :=
      Nat.lt_of_lt_of_le firstPositive (le_roundedMantissa first.1)
    have lastPositive : 0 < last.1.mantissa := by
      rw [lastMantissa]
      exact shifted_pos (Nat.ne_of_gt roundedPositive) least_shifted
    exact Nat.ne_of_gt lastPositive zero
  · rw [dif_neg zero]
    refine .finite ?_ least_shifted
    rw [lastMantissa]
    exact shifted_lt

end GrammaticalEvolution.FloatModel
