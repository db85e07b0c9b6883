import GrammaticalEvolution.Proofs.Draws
import GrammaticalEvolution.Proofs.FloatModel

/-!
# Signs of binary64 numbers

Conversion from a natural number and multiplication of what has no negative
sign do not bring one in, and neither does packing a result into 64 bits.  So
no number drawn from the unit interval lies below either zero, and the product
of anything with a zero has no whole part.
-/

namespace GrammaticalEvolution.FloatModel

open Float.Model Float.Model.UnpackedFloat

/-- The sign is positive, unless there is none. -/
def NotNegative : UnpackedFloat → Prop
  | .notANumber => True
  | .infinity sign | .zero sign | .finite sign .. => sign = .positive

/-- No number, or a zero. -/
def Vanishes : UnpackedFloat → Prop
  | .notANumber | .zero _ => True
  | _ => False

/-! ### Packing -/

theorem notNegative_unpack {bits : BitVec Format.binary64.numBits}
    (sign : unpackSign bits = 0#1) :
    NotNegative (UnpackedFloat.unpack .binary64 bits) := by
  have positive : Sign.ofBitVec (unpackSign bits) = .positive := by
    rw [sign]
    rfl
  have found := unpacks bits
  generalize UnpackedFloat.unpack .binary64 bits = number at found
  cases found with
  | notANumber => trivial
  | infinity | zero | finite => exact positive

/-- What is packed without a negative sign is unpacked without one. -/
theorem notNegative_unpack_pack {number : UnpackedFloat}
    (positive : NotNegative number) :
    NotNegative (Float.Model.pack number).unpack := by
  apply notNegative_unpack
  change unpackSign (UnpackedFloat.pack .binary64 number) = 0#1
  cases number with
  | notANumber => exact unpackSign_packComponents
  | infinity sign | zero sign =>
      obtain rfl : sign = .positive := positive
      exact unpackSign_packComponents
  | finite sign mantissa exponent filled =>
      obtain rfl : sign = .positive := positive
      obtain ⟨high, low, packed, _⟩ :=
        pack_finite .positive mantissa exponent filled
      rw [packed]
      exact unpackSign_packComponents

/-! ### Operations -/

theorem notNegative_round {mantissa : Nat} {exponent : Int}
    {accuracy : Accuracy} :
    NotNegative
      (roundWithAccuracy .binary64 .positive mantissa exponent accuracy) := by
  have found := rounds .positive mantissa exponent accuracy
  generalize roundWithAccuracy .binary64 .positive mantissa exponent accuracy =
    number at found
  cases found with
  | zero | finite => rfl

theorem notNegative_ofNat (number : Nat) :
    NotNegative (UnpackedFloat.ofNat .binary64 number) := by
  unfold UnpackedFloat.ofNat UnpackedFloat.ofInt UnpackedFloat.normalize
  split
  · next below =>
      rw [Int.compare_eq_lt] at below
      exact absurd below (Int.not_lt.mpr (Int.natCast_nonneg number))
  · rfl
  · exact notNegative_round

theorem notNegative_mul {left right : UnpackedFloat}
    (leftPositive : NotNegative left) (rightPositive : NotNegative right) :
    NotNegative (UnpackedFloat.mul .binary64 left right) := by
  cases left with
  | notANumber => trivial
  | infinity sign | zero sign | finite sign =>
      obtain rfl : sign = .positive := leftPositive
      cases right with
      | notANumber => trivial
      | infinity sign | zero sign | finite sign =>
          obtain rfl : sign = .positive := rightPositive
          first | trivial | exact notNegative_round

theorem vanishes_mul {left right : UnpackedFloat} (zero : IsZero right) :
    Vanishes (UnpackedFloat.mul .binary64 left right) := by
  cases right with
  | zero sign => cases left <;> trivial
  | _ => exact zero.elim

theorem toUInt64_pack {number : UnpackedFloat} (vanishes : Vanishes number) :
    (Float.Model.pack number).unpack.toUInt64 = 0 := by
  cases number with
  | notANumber => decide
  | zero sign => cases sign <;> decide
  | _ => exact vanishes.elim

section Float

variable {number rate : Float}

theorem notNegative_toFloat (word : UInt64) :
    NotNegative word.toFloat.toModel.unpack :=
  notNegative_unpack_pack (notNegative_ofNat word.toNat)

theorem notNegative_product {factor : Float}
    (positive : NotNegative number.toModel.unpack)
    (factorPositive : NotNegative factor.toModel.unpack) :
    NotNegative (number * factor).toModel.unpack :=
  notNegative_unpack_pack (notNegative_mul positive factorPositive)

theorem beq_zero_iff :
    (rate == 0.0) = true ↔ IsZero rate.toModel.unpack := by
  change (rate.toModel.unpack.compare (.zero .positive) == some .eq) = true ↔ _
  cases rate.toModel.unpack with
  | zero => exact iff_of_true rfl trivial
  | notANumber => exact iff_of_false nofun id
  | infinity sign | finite sign => cases sign <;> exact iff_of_false nofun id

theorem not_lt_of_isZero (positive : NotNegative number.toModel.unpack)
    (zero : IsZero rate.toModel.unpack) : ¬ number < rate := by
  change ¬ decide
    ((number.toModel.unpack.compare rate.toModel.unpack == some .lt) = true) =
      true
  generalize number.toModel.unpack = left at positive
  generalize rate.toModel.unpack = right at zero
  cases right with
  | zero =>
      cases left with
      | notANumber | zero => exact nofun
      | infinity sign | finite sign =>
          obtain rfl : sign = .positive := positive
          exact nofun
  | _ => exact zero.elim

theorem toUInt64_mul_of_isZero (zero : IsZero rate.toModel.unpack) :
    (number * rate).toUInt64 = 0 := by
  change (Float.Model.pack (UnpackedFloat.mul .binary64 number.toModel.unpack
    rate.toModel.unpack)).unpack.toUInt64 = 0
  generalize number.toModel.unpack = left
  generalize rate.toModel.unpack = right at zero
  exact toUInt64_pack (vanishes_mul zero)

end Float

theorem always_drawUnit {ρ : Type} [WordSource ρ] :
    Always (Random.drawUnit : StateM ρ Float) fun chance =>
      NotNegative chance.toModel.unpack := by
  have scale : NotNegative
      (1.1102230246251565e-16 : Float).toModel.unpack := rfl
  refine .then_ fun word => .pure ?_
  exact notNegative_product (notNegative_toFloat _) scale

end GrammaticalEvolution.FloatModel
