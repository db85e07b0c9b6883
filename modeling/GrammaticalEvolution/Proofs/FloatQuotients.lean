import GrammaticalEvolution.Expression
import GrammaticalEvolution.Proofs.FloatPacking
import GrammaticalEvolution.Proofs.FloatRounding
import Mathlib.Algebra.Order.Archimedean.Basic

/-!
# Quotients of binary64 numbers

A rounded number has the canonical form again, as long as its exponent does
not grow too large.  Integers of 64 bits and their quotients are far from that,
so that no quotient of two of them is an infinity.
-/

namespace GrammaticalEvolution.FloatModel

open Float.Model Float.Model.UnpackedFloat

/-- A zero, or a finite number of the canonical form. -/
inductive Packs (sign : Sign) : UnpackedFloat → Prop where
  | zero : Packs sign (.zero sign)
  | finite {mantissa : Nat} {exponent : Int}
      (canonical : Canonical mantissa exponent) :
      Packs sign (.finite sign mantissa exponent canonical.positive)

theorem Packs.unpack_pack {sign : Sign} {number : UnpackedFloat}
    (packs : Packs sign number) :
    (Float.Model.pack number).unpack = number := by
  cases packs with
  | zero => cases sign <;> rfl
  | finite canonical => exact FloatModel.unpack_pack canonical

section Settle

variable {exact : Rat} {scale : Int} {rounded : Nat}

theorem packs_settle (rounds : RoundsAt exact scale)
    (near : IsNearest (exact / 2 ^ scale) rounded) (most : scale ≤ 970)
    (sign : Sign) : Packs sign (settle sign rounded scale) := by
  have few := rounds.rounded_le near
  have least := rounds.least
  by_cases zero : rounded = 0
  · rw [zero, settle_zero]
    exact .zero
  by_cases full : rounded = 2 ^ 53
  · have canonical : Canonical (2 ^ 52) (scale + 1) :=
      ⟨by decide, by decide, by omega, by omega, .inl le_rfl⟩
    rw [full, settle_carry]
    exact .finite canonical
  · have filled := rounds.full near
    have canonical : Canonical rounded scale :=
      ⟨by omega, by omega, by omega, by omega, filled⟩
    rw [settle_short canonical.positive full]
    exact .finite canonical

/-- Every positive number is rounded at some scale, which is small if the
number is. -/
theorem exists_roundsAt (positive : 0 < exact) {bound : Int}
    (below : exact < 2 ^ (bound + 53)) (least : -1074 ≤ bound) :
    ∃ scale ≤ bound, RoundsAt exact scale := by
  obtain ⟨power, lower, upper⟩ := exists_mem_Ico_zpow positive one_lt_two
  have less := lt_of_two_zpow_lt (lower.trans_lt below)
  refine ⟨max (power - 52) (-1074), by omega, Int.le_max_right _ _, ?_, ?_⟩
  · rcases Int.le_total (-1074) (power - 52) with normal | small
    · rw [Int.max_eq_left normal, Int.sub_add_cancel]
      exact .inl lower
    · exact .inr (Int.max_eq_right small)
  · refine upper.trans_le (zpow_le_zpow_right₀ one_le_two ?_)
    omega

end Settle

/-! ### Integers -/

section Word

variable {word : UInt64} (positive : word.toNat ≠ 0)

include positive

theorem roundsAt_word : RoundsAt word.toNat (word.toNat.log2 - 52) where
  least := by omega
  above := by
    rw [Int.sub_add_cancel, zpow_natCast]
    exact .inl (by exact_mod_cast Nat.log2_self_le positive)
  below := by
    have next : (word.toNat.log2 : Int) - 52 + 53 =
      (word.toNat.log2 + 1 : Nat) := by omega
    rw [next, zpow_natCast]
    exact_mod_cast Nat.lt_log2_self

theorem unpack_toFloat :
    ∃ rounded,
      IsNearest (word.toNat / 2 ^ ((word.toNat.log2 : Int) - 52)) rounded ∧
      word.toFloat.toModel.unpack =
        settle .positive rounded (word.toNat.log2 - 52) := by
  have rounds := roundsAt_word positive
  have bits : word.toNat.log2 < 64 := (Nat.log2_lt positive).mpr word.toNat_lt
  obtain ⟨rounded, near, converted⟩ :=
    ofNat_nearest (Nat.pos_of_ne_zero positive) rounds
  refine ⟨rounded, near, ?_⟩
  rw [← (packs_settle rounds near (by omega) .positive).unpack_pack,
    ← converted]
  rfl

/-- A natural number of 64 bits is converted to a number with 53 bits. -/
theorem unpack_toFloat_bounds :
    ∃ mantissa exponent, ∃ filled : 0 < mantissa,
      word.toFloat.toModel.unpack =
        .finite .positive mantissa exponent filled ∧
      2 ^ 52 ≤ mantissa ∧ mantissa < 2 ^ 53 ∧
      -52 ≤ exponent ∧ exponent ≤ 12 := by
  have rounds := roundsAt_word positive
  have bits : word.toNat.log2 < 64 := (Nat.log2_lt positive).mpr word.toNat_lt
  obtain ⟨rounded, near, converted⟩ := unpack_toFloat positive
  have long := (rounds.full near).resolve_right (by omega)
  have few := rounds.rounded_le near
  by_cases full : rounded = 2 ^ 53
  · rw [converted, full, settle_carry]
    exact ⟨_, _, Nat.two_pow_pos 52, rfl, le_rfl, by decide, by omega,
      by omega⟩
  · have filled : 0 < rounded := Nat.lt_of_lt_of_le (by decide) long
    rw [converted, settle_short filled full]
    exact ⟨_, _, filled, rfl, long, by omega, by omega, by omega⟩

/-- A natural number of 53 bits is converted without loss. -/
theorem unpack_toFloat_exact (few : word.toNat < 2 ^ 53) :
    ∃ mantissa exponent, ∃ filled : 0 < mantissa,
      word.toFloat.toModel.unpack =
        .finite .positive mantissa exponent filled ∧
      (mantissa * 2 ^ exponent : Rat) = word.toNat := by
  have bits : word.toNat.log2 < 53 := (Nat.log2_lt positive).mpr few
  obtain ⟨rounded, near, converted⟩ := unpack_toFloat positive
  have whole : (word.toNat / 2 ^ ((word.toNat.log2 : Int) - 52) : Rat) =
      (word.toNat * 2 ^ (52 - word.toNat.log2) : Nat) := by
    have scale : (word.toNat.log2 : Int) - 52 =
      -(52 - word.toNat.log2 : Nat) := by omega
    rw [scale, zpow_neg, zpow_natCast, div_inv_eq_mul]
    push_cast
    rfl
  rw [whole] at near
  obtain rfl := near.unique (isNearest_natCast _)
  have filled : 0 < word.toNat * 2 ^ (52 - word.toNat.log2) :=
    Nat.mul_pos (Nat.pos_of_ne_zero positive) (Nat.two_pow_pos _)
  have short : word.toNat * 2 ^ (52 - word.toNat.log2) < 2 ^ 53 := by
    calc word.toNat * 2 ^ (52 - word.toNat.log2)
        < 2 ^ (word.toNat.log2 + 1) * 2 ^ (52 - word.toNat.log2) :=
          Nat.mul_lt_mul_of_pos_right Nat.lt_log2_self (Nat.two_pow_pos _)
      _ = 2 ^ (word.toNat.log2 + 1 + (52 - word.toNat.log2)) :=
          (Nat.pow_add ..).symm
      _ = 2 ^ 53 := congrArg (2 ^ ·) (by omega)
  rw [converted, settle_short filled short.ne]
  refine ⟨_, _, _, rfl, ?_⟩
  rw [← whole, div_mul_cancel₀ _ (by positivity)]

end Word

section Integer

variable {number left right : Int64}

/-- An integer of 64 bits is converted to a number with 53 bits, unless it is
zero. -/
theorem unpack_nearestFloat (nonzero : number ≠ 0) :
    ∃ sign mantissa exponent, ∃ filled : 0 < mantissa,
      (Int64.nearestFloat number).toModel.unpack =
        .finite sign mantissa exponent filled ∧
      2 ^ 52 ≤ mantissa ∧ mantissa < 2 ^ 53 ∧
      -52 ≤ exponent ∧ exponent ≤ 12 := by
  have lower := number.le_toInt
  have upper := number.toInt_lt
  have integer : number.toInt ≠ 0 := fun none =>
    nonzero (Int64.toInt_inj.mp none)
  have small : number.toInt.natAbs < 2 ^ 64 := by omega
  have word : number.toInt.natAbs.toUInt64.toNat ≠ 0 := by
    rw [Nat.toUInt64_eq, UInt64.toNat_ofNat_of_lt' small]
    omega
  obtain ⟨mantissa, exponent, filled, converted, bounds⟩ :=
    unpack_toFloat_bounds word
  unfold Int64.nearestFloat
  dsimp only
  by_cases negative : number.toInt < 0
  · rw [if_pos negative, unpack_neg, converted]
    exact ⟨_, mantissa, exponent, filled, rfl, bounds⟩
  · rw [if_neg negative]
    exact ⟨_, mantissa, exponent, filled, converted, bounds⟩

/-- The quotient of two integers that are not zero is finite. -/
theorem isFinite_quotient (leftNonzero : left ≠ 0) (rightNonzero : right ≠ 0) :
    (Int64.nearestFloat left / Int64.nearestFloat right).isFinite = true := by
  obtain ⟨leftSign, dividend, upper, leftFilled, leftConverted, -, few, -,
    most⟩ := unpack_nearestFloat leftNonzero
  obtain ⟨rightSign, divisor, lower, rightFilled, rightConverted, long, -,
    least, -⟩ := unpack_nearestFloat rightNonzero
  have dividendBound : (dividend * 2 ^ upper : Rat) < 2 ^ 65 := by
    have cast : (dividend : Rat) < 2 ^ 53 := by exact_mod_cast few
    have power : (2 : Rat) ^ upper ≤ 2 ^ 12 := by
      rw [← zpow_natCast]
      exact zpow_le_zpow_right₀ one_le_two most
    calc (dividend * 2 ^ upper : Rat) < 2 ^ 53 * 2 ^ upper := by gcongr
      _ ≤ 2 ^ 53 * 2 ^ 12 := by gcongr
      _ = 2 ^ 65 := by norm_num
  have divisorBound : (1 : Rat) ≤ divisor * 2 ^ lower := by
    have cast : (2 ^ 52 : Rat) ≤ divisor := by exact_mod_cast long
    have power : (2 : Rat) ^ (-52 : Int) ≤ 2 ^ lower :=
      zpow_le_zpow_right₀ one_le_two least
    calc (1 : Rat) = 2 ^ 52 * 2 ^ (-52 : Int) := by norm_num
      _ ≤ divisor * 2 ^ lower := by gcongr
  have positive : (0 : Rat) < dividend * 2 ^ upper / (divisor * 2 ^ lower) := by
    positivity
  have small : (dividend * 2 ^ upper / (divisor * 2 ^ lower) : Rat) <
      2 ^ ((12 : Int) + 53) :=
    (div_le_self (by positivity) divisorBound).trans_lt
      (by exact_mod_cast dividendBound)
  obtain ⟨scale, low, rounds⟩ := exists_roundsAt positive small (by decide)
  obtain ⟨rounded, near, divided⟩ :=
    div_finite leftFilled rightFilled rounds
  have packs := packs_settle rounds near (by omega) (leftSign / rightSign)
  change (Float.Model.pack (UnpackedFloat.div .binary64
    (Int64.nearestFloat left).toModel.unpack
    (Int64.nearestFloat right).toModel.unpack)).unpack.isFinite = true
  rw [leftConverted, rightConverted, divided, packs.unpack_pack]
  generalize settle _ _ _ = quotient at packs
  cases packs <;> rfl

end Integer

end GrammaticalEvolution.FloatModel
