import GrammaticalEvolution.Decimal.Scaled
import GrammaticalEvolution.Proofs.FloatModel
import Mathlib.Tactic.Ring

/-!
# Binary64 numbers and their 64 bits

The three fields of 64 bits are those of the number they are unpacked as.  A
finite number comes out with a mantissa that is full, unless its exponent is
the least one, and what has this form is the same after packing and unpacking.
So is every binary64 number that is unpacked and packed.
-/

namespace GrammaticalEvolution.FloatModel

open Float.Model Float.Model.UnpackedFloat
open Decimal (Scaled)

/-- A mantissa and an exponent as a binary64 number has them: 53 bits, or the
least exponent. -/
structure Canonical (mantissa : Nat) (exponent : Int) : Prop where
  positive : 0 < mantissa
  few : mantissa < 2 ^ 53
  least : -1074 ≤ exponent
  most : exponent ≤ 971
  full : 2 ^ 52 ≤ mantissa ∨ exponent = -1074

/-! ### Fields -/

section Fields

variable (bits : BitVec Format.binary64.numBits)

theorem toNat_unpackMantissa :
    (unpackMantissa bits).toNat = bits.toNat % 2 ^ 52 := by
  simp [unpackMantissa]

theorem toNat_unpackExponent :
    (unpackExponent bits).toNat = bits.toNat / 2 ^ 52 % 2 ^ 11 := by
  simp [unpackExponent, Nat.shiftRight_eq_div_pow]

theorem toNat_unpackSign :
    (unpackSign bits).toNat = bits.toNat / 2 ^ 63 := by
  have bound : bits.toNat < 2 ^ 64 := bits.isLt
  delta unpackSign
  simp [Nat.shiftRight_eq_div_pow]
  omega

theorem toNat_packComponents (sign : Sign) (exponent : BitVec 11)
    (mantissa : BitVec 52) :
    (packComponents .binary64 sign exponent mantissa).toNat =
      sign.toBitVec.toNat * 2 ^ 63 + exponent.toNat * 2 ^ 52 +
        mantissa.toNat := by
  unfold packComponents
  rw [BitVec.toNat_append, ← Nat.shiftLeft_add_eq_or_of_lt mantissa.isLt,
    BitVec.toNat_append, ← Nat.shiftLeft_add_eq_or_of_lt exponent.isLt,
    Nat.shiftLeft_eq, Nat.shiftLeft_eq]
  ring

theorem toNat_implicit (mantissa : BitVec 52) :
    (1#1 ++ mantissa).toNat = 2 ^ 52 + mantissa.toNat := by
  rw [BitVec.toNat_append, ← Nat.shiftLeft_add_eq_or_of_lt mantissa.isLt]
  rfl

theorem toBitVec_ofBitVec (bit : BitVec 1) :
    (Sign.ofBitVec bit).toBitVec = bit := by
  revert bit
  decide

theorem ofBitVec_toBitVec (sign : Sign) :
    Sign.ofBitVec sign.toBitVec = sign := by
  cases sign <;> rfl

theorem packComponents_unpack :
    packComponents .binary64 (Sign.ofBitVec (unpackSign bits))
      (unpackExponent bits) (unpackMantissa bits) = bits := by
  apply BitVec.eq_of_toNat_eq
  rw [toNat_packComponents, toBitVec_ofBitVec, toNat_unpackMantissa,
    toNat_unpackExponent, toNat_unpackSign]
  omega

end Fields

/-! ### Unpacking -/

/-- What 64 bits are unpacked as, field by field. -/
inductive Reads (bits : BitVec Format.binary64.numBits) :
    UnpackedFloat → Prop where
  | notANumber (exponent : unpackExponent bits = -1#11)
      (mantissa : unpackMantissa bits ≠ 0#52) : Reads bits .notANumber
  | infinity (exponent : unpackExponent bits = -1#11)
      (mantissa : unpackMantissa bits = 0#52) :
      Reads bits (.infinity (Sign.ofBitVec (unpackSign bits)))
  | zero (exponent : unpackExponent bits = 0#11)
      (mantissa : unpackMantissa bits = 0#52) :
      Reads bits (.zero (Sign.ofBitVec (unpackSign bits)))
  | subnormal (exponent : unpackExponent bits = 0#11)
      {positive : 0 < (unpackMantissa bits).toNat} :
      Reads bits (.finite (Sign.ofBitVec (unpackSign bits))
        (unpackMantissa bits).toNat (-1074) positive)
  | normal (notFull : (unpackExponent bits).toNat ≠ 2047)
      (notZero : (unpackExponent bits).toNat ≠ 0)
      {positive : 0 < 2 ^ 52 + (unpackMantissa bits).toNat} :
      Reads bits (.finite (Sign.ofBitVec (unpackSign bits))
        (2 ^ 52 + (unpackMantissa bits).toNat)
        ((unpackExponent bits).toNat - 1075) positive)

theorem reads (bits : BitVec Format.binary64.numBits) :
    Reads bits (UnpackedFloat.unpack .binary64 bits) := by
  unfold UnpackedFloat.unpack
  dsimp only
  by_cases full : unpackExponent bits = -1#11
  · rw [if_pos full]
    by_cases empty : unpackMantissa bits = 0#52
    · rw [if_pos empty]
      exact .infinity full empty
    · rw [if_neg empty]
      exact .notANumber full empty
  · rw [if_neg full]
    by_cases small : unpackExponent bits = 0#11
    · rw [if_pos small]
      by_cases empty : unpackMantissa bits = 0#52
      · rw [dif_pos empty]
        exact .zero small empty
      · rw [dif_neg empty]
        rw [small]
        exact .subnormal small
    · rw [if_neg small]
      have filled : 0 < 2 ^ 52 + (unpackMantissa bits).toNat :=
        Nat.add_pos_left (by decide) _
      have implicit (sign : Sign) (exponent : Int)
          (positive : 0 < (1#1 ++ unpackMantissa bits).toNat) :
          finite sign _ exponent positive = finite sign _ exponent filled :=
        finite_congr (toNat_implicit _) rfl
      rw [implicit]
      refine .normal (fun same => full ?_) (fun same => small ?_)
      · exact BitVec.eq_of_toNat_eq same
      · exact BitVec.eq_of_toNat_eq same

/-- What is unpacked as a finite number has the canonical form. -/
theorem canonical_of_unpack {bits : BitVec Format.binary64.numBits}
    {sign : Sign} {mantissa : Nat} {exponent : Int} {positive : 0 < mantissa}
    (unpacked : UnpackedFloat.unpack .binary64 bits =
      .finite sign mantissa exponent positive) :
    Canonical mantissa exponent := by
  have found := reads bits
  have short : (unpackMantissa bits).toNat < 2 ^ 52 :=
    (unpackMantissa bits).isLt
  have low : (unpackExponent bits).toNat < 2 ^ 11 := (unpackExponent bits).isLt
  rw [unpacked] at found
  cases found with
  | subnormal small =>
      exact ⟨positive, by omega, by omega, by omega, .inr rfl⟩
  | normal notFull notZero =>
      exact ⟨positive, by omega, by omega, by omega, .inl (by omega)⟩

/-! ### Packing -/

section Packing

variable {sign : Sign} {mantissa : Nat} {exponent : Int}

theorem pack_subnormal (positive : 0 < mantissa) (short : mantissa < 2 ^ 52) :
    UnpackedFloat.pack .binary64 (.finite sign mantissa (-1074) positive) =
      packComponents .binary64 sign 0#11 (BitVec.ofNat 52 mantissa) := by
  have bits : mantissa.log2 < 52 := (Nat.log2_lt positive.ne').mpr short
  have biased : (-1074 + (Format.binary64.exponentBias : Int) +
    (Format.binary64.mantissaBitsWithoutImplicit : Int)).toNat = 1 := rfl
  have whole : Format.binary64.mantissaBits = 53 := rfl
  unfold UnpackedFloat.pack
  dsimp only
  rw [biased, if_neg (by decide), if_neg (by omega)]

theorem pack_normal (positive : 0 < mantissa) (long : 2 ^ 52 ≤ mantissa)
    (few : mantissa < 2 ^ 53) {biased : Nat} (bias : exponent + 1075 = biased)
    (most : biased < 2047) :
    UnpackedFloat.pack .binary64 (.finite sign mantissa exponent positive) =
      packComponents .binary64 sign (BitVec.ofNat 11 biased)
        (BitVec.ofNat 52 mantissa) := by
  have bits : mantissa.log2 + 1 = Format.binary64.mantissaBits :=
    congrArg (· + 1) ((Nat.log2_eq_iff positive.ne').mpr ⟨long, few⟩)
  have field : (exponent + (Format.binary64.exponentBias : Int) +
      (Format.binary64.mantissaBitsWithoutImplicit : Int)).toNat = biased := by
    change (exponent + 1023 + 52).toNat = biased
    omega
  unfold UnpackedFloat.pack
  dsimp only
  rw [field, if_neg (by change ¬ 2048 ≤ biased + 1; omega), if_pos bits]

end Packing

/-- Packing undoes unpacking, as there is just one pattern that is no
number. -/
theorem pack_unpack_bits {bits : BitVec Format.binary64.numBits}
    (valid : Format.binary64.Valid bits) :
    UnpackedFloat.pack .binary64 (UnpackedFloat.unpack .binary64 bits) =
      bits := by
  have found := reads bits
  have fields := packComponents_unpack bits
  have short : (unpackMantissa bits).toNat < 2 ^ 52 :=
    (unpackMantissa bits).isLt
  have low : (unpackExponent bits).toNat < 2 ^ 11 := (unpackExponent bits).isLt
  generalize UnpackedFloat.unpack .binary64 bits = number at found
  cases found with
  | notANumber exponent mantissa =>
      exact (valid.eq_packedNaN exponent mantissa).symm
  | infinity exponent mantissa | zero exponent mantissa =>
      rw [exponent, mantissa] at fields
      exact fields
  | subnormal exponent =>
      rw [exponent] at fields
      rw [pack_subnormal _ short, BitVec.ofNat_toNat, BitVec.setWidth_eq]
      exact fields
  | normal notFull notZero =>
      have implicit : BitVec.ofNat 52 (2 ^ 52 + (unpackMantissa bits).toNat) =
          unpackMantissa bits := by
        apply BitVec.eq_of_toNat_eq
        rw [BitVec.toNat_ofNat, Nat.add_mod_left, Nat.mod_eq_of_lt short]
      rw [pack_normal _ (by omega) (by omega) (Int.sub_add_cancel _ _)
        (by omega), implicit, BitVec.ofNat_toNat, BitVec.setWidth_eq]
      exact fields

theorem pack_unpack (model : Float.Model) :
    Float.Model.pack model.unpack = model := by
  obtain ⟨word, valid⟩ := model
  exact (Float.Model.mk.injEq ..).mpr
    (congrArg UInt64.ofBitVec (pack_unpack_bits valid))

theorem unpack_subnormal {sign : Sign} {mantissa : Nat}
    (positive : 0 < mantissa) (short : mantissa < 2 ^ 52) :
    UnpackedFloat.unpack .binary64
        (packComponents .binary64 sign 0#11 (BitVec.ofNat 52 mantissa)) =
      .finite sign mantissa (-1074) positive := by
  have same : (BitVec.ofNat 52 mantissa).toNat = mantissa := by
    rw [BitVec.toNat_ofNat, Nat.mod_eq_of_lt short]
  have found := reads (packComponents .binary64 sign 0#11
    (BitVec.ofNat 52 mantissa))
  generalize UnpackedFloat.unpack .binary64 _ = number at found
  cases found with
  | notANumber exponent | infinity exponent =>
      rw [unpackExponent_packComponents] at exponent
      exact absurd exponent (by decide)
  | zero _ empty =>
      rw [unpackMantissa_packComponents] at empty
      rw [empty] at same
      exact absurd same (Nat.ne_of_lt positive)
  | subnormal =>
      rw [unpackSign_packComponents, ofBitVec_toBitVec]
      exact finite_congr (by rw [unpackMantissa_packComponents, same]) rfl
  | normal _ notZero =>
      rw [unpackExponent_packComponents] at notZero
      exact absurd rfl notZero

theorem unpack_normal {sign : Sign} {mantissa biased : Nat}
    (positive : 0 < mantissa) (long : 2 ^ 52 ≤ mantissa)
    (few : mantissa < 2 ^ 53) (least : 0 < biased) (most : biased < 2047) :
    UnpackedFloat.unpack .binary64
        (packComponents .binary64 sign (BitVec.ofNat 11 biased)
          (BitVec.ofNat 52 mantissa)) =
      .finite sign mantissa (biased - 1075) positive := by
  have field : (BitVec.ofNat 11 biased).toNat = biased := by
    rw [BitVec.toNat_ofNat, Nat.mod_eq_of_lt (by omega)]
  have implicit : 2 ^ 52 + (BitVec.ofNat 52 mantissa).toNat = mantissa := by
    rw [BitVec.toNat_ofNat]
    omega
  have found := reads (packComponents .binary64 sign (BitVec.ofNat 11 biased)
    (BitVec.ofNat 52 mantissa))
  generalize UnpackedFloat.unpack .binary64 _ = number at found
  cases found with
  | notANumber exponent | infinity exponent =>
      rw [unpackExponent_packComponents] at exponent
      rw [exponent] at field
      exact absurd field (Nat.ne_of_gt most)
  | zero exponent | subnormal exponent =>
      rw [unpackExponent_packComponents] at exponent
      rw [exponent] at field
      exact absurd field (Nat.ne_of_lt least)
  | normal =>
      rw [unpackSign_packComponents, unpackExponent_packComponents,
        ofBitVec_toBitVec, field]
      exact finite_congr (by rw [unpackMantissa_packComponents, implicit]) rfl

theorem eq_of_unpack {first second : Float}
    (same : first.toModel.unpack = second.toModel.unpack) : first = second := by
  have models : first.toModel = second.toModel := by
    rw [← pack_unpack first.toModel, same, pack_unpack]
  cases first
  cases second
  exact congrArg Float.ofModel models

/-- Unpacking undoes packing for what has the canonical form. -/
theorem unpack_pack {sign : Sign} {mantissa : Nat} {exponent : Int}
    (canonical : Canonical mantissa exponent) :
    (Float.Model.pack (.finite sign mantissa exponent
      canonical.positive)).unpack =
        .finite sign mantissa exponent canonical.positive := by
  obtain ⟨positive, few, least, most, full⟩ := canonical
  change UnpackedFloat.unpack .binary64 (UnpackedFloat.pack .binary64 _) = _
  by_cases short : mantissa < 2 ^ 52
  · obtain rfl : exponent = -1074 := full.resolve_left (by omega)
    rw [pack_subnormal positive short, unpack_subnormal positive short]
  · obtain ⟨biased, bias⟩ := Int.eq_ofNat_of_zero_le
      (show 0 ≤ exponent + 1075 by omega)
    obtain rfl : exponent = biased - 1075 := by omega
    rw [pack_normal positive (by omega) few bias (by omega),
      unpack_normal positive (by omega) few (by omega) (by omega)]

/-- A change of sign is exact. -/
theorem unpack_neg (number : Float) :
    (-number).toModel.unpack = number.toModel.unpack.neg := by
  change (Float.Model.pack number.toModel.unpack.neg).unpack = _
  cases unpacked : number.toModel.unpack with
  | notANumber => rfl
  | infinity sign | zero sign => cases sign <;> rfl
  | finite sign mantissa exponent positive =>
      exact unpack_pack (canonical_of_unpack unpacked)

/-! ### Scaled integers -/

/-- An unpacked number as a scaled integer. -/
def scaled : UnpackedFloat → Scaled
  | .notANumber => .nan
  | .infinity sign => .infinite (sign == .negative)
  | .zero sign => .finite (sign == .negative) 0 (-1074)
  | .finite sign mantissa exponent _ =>
      .finite (sign == .negative) mantissa exponent

theorem negative_iff (bits : BitVec Format.binary64.numBits) :
    (Sign.ofBitVec (unpackSign bits) == .negative) =
      decide (2 ^ 63 ≤ bits.toNat) := by
  have field := toNat_unpackSign bits
  generalize unpackSign bits = bit at field
  rcases bit.eq_zero_or_eq_one with rfl | rfl
  · rw [decide_eq_false (by simp at field; omega)]
    rfl
  · rw [decide_eq_true (by simp at field; omega)]
    rfl

/-- The scaled integer of a number is the one it is unpacked as. -/
theorem ofFloat_eq (number : Float) :
    Scaled.ofFloat number = scaled number.toModel.unpack := by
  let bits : BitVec Format.binary64.numBits := number.toModel.toBits.toBitVec
  have fields : Scaled.ofFloat number =
      Scaled.ofFields (Sign.ofBitVec (unpackSign bits) == .negative)
        (unpackExponent bits).toNat (unpackMantissa bits).toNat := by
    rw [negative_iff, toNat_unpackExponent, toNat_unpackMantissa]
    rfl
  have found : Reads bits number.toModel.unpack := reads bits
  rw [fields]
  generalize number.toModel.unpack = unpacked at found
  unfold Scaled.ofFields
  cases found with
  | notANumber exponent mantissa =>
      have filled : (unpackMantissa bits).toNat ≠ 0 := fun none =>
        mantissa (BitVec.eq_of_toNat_eq none)
      have whole : (unpackExponent bits).toNat = 2047 :=
        congrArg BitVec.toNat exponent
      rw [if_pos whole, if_neg filled]
      rfl
  | infinity exponent mantissa =>
      rw [exponent, mantissa]
      rfl
  | zero exponent mantissa =>
      rw [exponent, mantissa]
      rfl
  | subnormal exponent =>
      rw [exponent]
      rfl
  | normal notFull notZero =>
      rw [if_neg notFull, if_neg notZero]
      rfl

end GrammaticalEvolution.FloatModel
