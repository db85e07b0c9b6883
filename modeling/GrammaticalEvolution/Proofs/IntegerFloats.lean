import GrammaticalEvolution.Expression
import GrammaticalEvolution.Proofs.FloatSigns

/-!
# Integers as binary64 numbers

Rounding an integer loses nothing but places of its mantissa, and a change of
sign nothing at all.  So an integer is converted to a zero only if it is zero.
-/

namespace GrammaticalEvolution.FloatModel

open Float.Model Float.Model.UnpackedFloat

theorem round_fits_ne_zero {sign : Sign} {mantissa : Nat} {exponent : Int}
    {accuracy : Accuracy} (positive : mantissa ≠ 0) (least : -1074 ≤ exponent) :
    Fits (roundWithAccuracy .binary64 sign mantissa exponent accuracy) ∧
      ¬ IsZero
        (roundWithAccuracy .binary64 sign mantissa exponent accuracy) := by
  have found := rounds sign mantissa exponent accuracy
  generalize roundWithAccuracy .binary64 sign mantissa exponent accuracy =
    number at found
  cases found with
  | zero lost => omega
  | finite few leastScale => exact ⟨⟨few, leastScale⟩, id⟩

theorem ofNat_fits_ne_zero {number : Nat} (positive : number ≠ 0) :
    Fits (UnpackedFloat.ofNat .binary64 number) ∧
      ¬ IsZero (UnpackedFloat.ofNat .binary64 number) := by
  unfold UnpackedFloat.ofNat UnpackedFloat.ofInt UnpackedFloat.normalize
  have order : compare (number : Int) 0 = .gt := by
    rw [Int.compare_eq_gt]
    omega
  rw [order]
  apply round_fits_ne_zero
  · rw [Nat.shiftLeft_eq]
    exact Nat.mul_ne_zero positive (Nat.ne_of_gt (Nat.two_pow_pos _))
  · have least : -1074 ≤
        Format.binary64.targetExponent (totalExponent number 0) :=
      Int.le_max_right _ _
    change -1074 ≤ 0 - ((0 - Format.binary64.targetExponent
      (totalExponent number 0)).toNat : Int)
    omega

theorem isZero_toFloat_iff {word : UInt64} :
    IsZero word.toFloat.toModel.unpack ↔ word = 0 := by
  constructor
  · intro zero
    by_contra positive
    have nonzero : word.toNat ≠ 0 := fun none =>
      positive (UInt64.toNat_inj.mp none)
    obtain ⟨fits, notZero⟩ := ofNat_fits_ne_zero nonzero
    exact notZero (isZero_of_unpack_pack fits zero)
  · rintro rfl
    exact beq_zero_iff.mp (by decide)

theorem isZero_neg_iff {number : Float} :
    IsZero (-number).toModel.unpack ↔ IsZero number.toModel.unpack := by
  change IsZero (Float.Model.pack number.toModel.unpack.neg).unpack ↔ _
  have fits : Fits number.toModel.unpack := unpack_fits _
  generalize number.toModel.unpack = unpacked at fits
  constructor
  · intro zero
    have negated : IsZero unpacked.neg := by
      refine isZero_of_unpack_pack ?_ zero
      cases unpacked <;> exact fits
    cases unpacked <;> exact negated
  · intro zero
    cases unpacked with
    | zero sign => cases sign <;> exact beq_zero_iff.mp (by decide)
    | _ => exact zero.elim

end GrammaticalEvolution.FloatModel

namespace GrammaticalEvolution

open FloatModel

/-- An integer is converted to a zero only if it is zero. -/
theorem Int64.nearestFloat_beq_zero_iff {number : Int64} :
    (Int64.nearestFloat number == 0.0) = true ↔ number = 0 := by
  have word : number.toInt.natAbs.toUInt64 = 0 ↔ number = 0 := by
    have lower := number.le_toInt
    have upper := number.toInt_lt
    have small : number.toInt.natAbs < 2 ^ 64 := by omega
    rw [← UInt64.toNat_inj, Nat.toUInt64_eq, UInt64.toNat_ofNat_of_lt' small,
      ← Int64.toInt_inj]
    exact Int.natAbs_eq_zero
  rw [beq_zero_iff, ← word, ← isZero_toFloat_iff]
  unfold Int64.nearestFloat
  dsimp only
  split
  · exact isZero_neg_iff
  · exact Iff.rfl

end GrammaticalEvolution
