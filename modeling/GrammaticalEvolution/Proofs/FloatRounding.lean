import GrammaticalEvolution.Proofs.FloatModel
import Mathlib.Algebra.Order.Field.Basic
import Mathlib.Algebra.Order.Field.Power
import Mathlib.Algebra.Order.Field.Rat
import Mathlib.Tactic.FieldSimp
import Mathlib.Tactic.Linarith
import Mathlib.Tactic.NormNum
import Mathlib.Tactic.Ring

/-!
# Rounding to the nearest binary64 number

A mantissa with an accuracy tells where an exact number lies between two
neighbouring integers, and keeps telling it when both are halved.  So rounding
takes the nearest integer in the end, the even one of two, at the scale that
the magnitude of the exact number asks for.
-/

namespace GrammaticalEvolution.FloatModel

open Float.Model Float.Model.UnpackedFloat

/-- An exact number lies where an accuracy says, from a mantissa on. -/
def Locates (mantissa : Nat) (exact : Rat) : Accuracy → Prop
  | .exact => exact = mantissa
  | .inexact .lt => mantissa < exact ∧ exact < mantissa + 1 / 2
  | .inexact .eq => exact = mantissa + 1 / 2
  | .inexact .gt => mantissa + 1 / 2 < exact ∧ exact < mantissa + 1

/-- The nearest integer, and the even one if two are nearest. -/
def IsNearest (exact : Rat) (rounded : Nat) : Prop :=
  |exact - rounded| ≤ 1 / 2 ∧ (|exact - rounded| = 1 / 2 → Even rounded)

/-! ### Shifts -/

section Shift

variable {mantissa : Nat} {exponent : Int} {accuracy : Accuracy} {exact : Rat}
  {extended : ExtendedMantissa}

theorem Locates.floor (located : Locates mantissa exact accuracy) :
    mantissa ≤ exact ∧ exact < mantissa + 1 := by
  rcases accuracy with _ | (_ | _ | _) <;> simp only [Locates] at located <;>
    constructor <;> linarith

theorem locates_shiftRightOne
    (located : Locates extended.mantissa exact extended.accuracy) :
    Locates extended.shiftRightOne.mantissa (exact / 2)
      extended.shiftRightOne.accuracy := by
  obtain ⟨mantissa, roundBit, stickyBit⟩ := extended
  -- The bit that is shifted out becomes the round bit.
  obtain ⟨half, rfl | rfl⟩ := mantissa.even_or_odd'
  · have halved : 2 * half / 2 = half := by omega
    have last : (2 * half % 2 != 0) = false := by simp
    simp only [ExtendedMantissa.shiftRightOne, halved, last]
    cases roundBit <;> cases stickyBit <;>
      simp [Locates, ExtendedMantissa.accuracy] at located ⊢
    case false.false => linarith
    all_goals constructor <;> linarith
  · have halved : (2 * half + 1) / 2 = half := by omega
    have last : ((2 * half + 1) % 2 != 0) = true := by simp
    simp only [ExtendedMantissa.shiftRightOne, halved, last]
    cases roundBit <;> cases stickyBit <;>
      simp [Locates, ExtendedMantissa.accuracy] at located ⊢
    case false.false => linarith
    all_goals constructor <;> linarith

theorem locates_shiftRight
    (located : Locates extended.mantissa exact extended.accuracy)
    (count : Nat) :
    Locates (extended >>> count).mantissa (exact / 2 ^ count)
      (extended >>> count).accuracy := by
  induction count with
  | zero =>
      rw [pow_zero, div_one]
      exact located
  | succ count induction =>
      rw [pow_succ, ← div_div]
      exact locates_shiftRightOne induction

theorem locates_ofMantissaAndAccuracy
    (located : Locates mantissa exact accuracy) :
    Locates (ExtendedMantissa.ofMantissaAndAccuracy mantissa accuracy).mantissa
      exact
      (ExtendedMantissa.ofMantissaAndAccuracy mantissa accuracy).accuracy := by
  rcases accuracy with _ | (_ | _ | _) <;> exact located

theorem isNearest_roundedMantissa
    (located : Locates extended.mantissa exact extended.accuracy) :
    IsNearest exact extended.roundedMantissa := by
  unfold ExtendedMantissa.roundedMantissa
  generalize extended.mantissa = mantissa at located
  generalize extended.accuracy = accuracy at located
  rcases accuracy with _ | (_ | _ | _) <;>
    simp only [Locates, Accuracy.roundToNearestEven] at located ⊢
  case exact =>
    rw [located]
    simp [IsNearest]
  case inexact.lt =>
    obtain ⟨above, below⟩ := located
    rw [IsNearest, abs_of_pos (by linarith)]
    exact ⟨by linarith, fun half => by linarith⟩
  case inexact.eq =>
    subst located
    obtain ⟨half, rfl | rfl⟩ := mantissa.even_or_odd'
    · have same : 2 * half + 2 * half % 2 = 2 * half := by omega
      rw [same, IsNearest]
      norm_num
    · have next : 2 * half + 1 + (2 * half + 1) % 2 = 2 * (half + 1) := by
        omega
      have offset : ((2 * half + 1 : Nat) : Rat) + 1 / 2 -
          (2 * (half + 1) : Nat) = -(1 / 2) := by
        push_cast
        ring
      rw [next, IsNearest, offset]
      norm_num
  case inexact.gt =>
    obtain ⟨above, below⟩ := located
    rw [IsNearest, Nat.cast_add, Nat.cast_one, abs_of_neg (by linarith)]
    exact ⟨by linarith, fun half => by linarith⟩

end Shift

theorem IsNearest.le {exact : Rat} {first second : Nat}
    (one : IsNearest exact first) (other : IsNearest exact second) :
    first ≤ second := by
  by_contra less
  have apart : (second : Rat) + 1 ≤ first := by
    exact_mod_cast Nat.lt_of_not_le less
  obtain ⟨firstNear, firstEven⟩ := one
  obtain ⟨secondNear, secondEven⟩ := other
  have lower := (abs_le.mp firstNear).1
  have upper := (abs_le.mp secondNear).2
  have middle : exact = second + 1 / 2 := by linarith
  have next : (first : Rat) = second + 1 := by linarith
  have evenFirst : Even first := by
    apply firstEven
    rw [middle, next]
    norm_num
  have evenSecond : Even second := by
    apply secondEven
    rw [middle]
    norm_num
  have successor : first = second + 1 := by exact_mod_cast next
  rw [successor, Nat.even_add_one] at evenFirst
  exact evenFirst evenSecond

/-- No two integers are nearest. -/
theorem IsNearest.unique {exact : Rat} {first second : Nat}
    (one : IsNearest exact first) (other : IsNearest exact second) :
    first = second :=
  Nat.le_antisymm (one.le other) (other.le one)

theorem isNearest_natCast (number : Nat) : IsNearest number number := by
  norm_num [IsNearest]

/-- The nearest integer is not beyond an integer that the number is below. -/
theorem IsNearest.le_bound {exact : Rat} {rounded bound : Nat}
    (near : IsNearest exact rounded) (below : exact < bound) :
    rounded ≤ bound := by
  have less : (rounded : Rat) < (bound + 1 : Nat) := by
    push_cast
    linarith only [(abs_le.mp near.1).1, below]
  exact Nat.lt_succ_iff.mp (by exact_mod_cast less)

theorem IsNearest.bound_le {exact : Rat} {rounded bound : Nat}
    (near : IsNearest exact rounded) (above : bound ≤ exact) :
    bound ≤ rounded := by
  have less : (bound : Rat) < (rounded + 1 : Nat) := by
    push_cast
    linarith only [(abs_le.mp near.1).2, above]
  exact Nat.lt_succ_iff.mp (by exact_mod_cast less)

/-! ### Scales -/

/-- A mantissa with an exponent and an accuracy stands for an exact number,
and is fine enough to be rounded. -/
structure Stands (exact : Rat) (mantissa : Nat) (exponent : Int)
    (accuracy : Accuracy) : Prop where
  located : Locates mantissa (exact / 2 ^ exponent) accuracy
  fine : exponent ≤ max ((mantissa.log2 : Int) + 1 + exponent - 53) (-1074)

/-- The exponent that a number of some magnitude is rounded at. -/
structure RoundsAt (exact : Rat) (scale : Int) : Prop where
  least : -1074 ≤ scale
  above : 2 ^ (scale + 52) ≤ exact ∨ scale = -1074
  below : exact < 2 ^ (scale + 53)

section Scale

variable {exact : Rat} {mantissa : Nat} {exponent scale : Int}
  {accuracy : Accuracy}

theorem Stands.bounds (stands : Stands exact mantissa exponent accuracy) :
    mantissa * 2 ^ exponent ≤ exact ∧
      exact < (mantissa + 1) * 2 ^ exponent := by
  have positive : (0 : Rat) < 2 ^ exponent := by positivity
  obtain ⟨lower, upper⟩ := stands.located.floor
  exact ⟨(le_div_iff₀ positive).mp lower, (div_lt_iff₀ positive).mp upper⟩

/-- The exact number lies below the next power of two after the mantissa. -/
theorem Stands.lt_two_zpow (stands : Stands exact mantissa exponent accuracy) :
    exact < 2 ^ ((mantissa.log2 : Int) + 1 + exponent) := by
  have next : mantissa + 1 ≤ 2 ^ (mantissa.log2 + 1) := Nat.lt_log2_self
  have cast : (mantissa : Rat) + 1 ≤ 2 ^ (mantissa.log2 + 1) := by
    exact_mod_cast next
  calc exact < (mantissa + 1) * 2 ^ exponent := stands.bounds.2
    _ ≤ 2 ^ (mantissa.log2 + 1) * 2 ^ exponent := by gcongr
    _ = 2 ^ ((mantissa.log2 : Int) + 1 + exponent) := by
      rw [zpow_add₀ two_ne_zero, ← zpow_natCast]
      rfl

theorem two_zpow_log2_le (positive : mantissa ≠ 0) (exponent : Int) :
    (2 : Rat) ^ ((mantissa.log2 : Int) + exponent) ≤
      mantissa * 2 ^ exponent := by
  have cast : (2 : Rat) ^ mantissa.log2 ≤ mantissa := by
    exact_mod_cast Nat.log2_self_le positive
  rw [zpow_add₀ two_ne_zero, zpow_natCast]
  gcongr

theorem lt_of_two_zpow_lt {first second : Int}
    (less : (2 : Rat) ^ first < 2 ^ second) : first < second :=
  (zpow_lt_zpow_iff_right₀ one_lt_two).mp less

theorem le_scaled_iff (count : Nat) :
    2 ^ count ≤ exact / 2 ^ scale ↔ 2 ^ (scale + count) ≤ exact := by
  rw [le_div_iff₀ (by positivity), ← zpow_natCast, ← zpow_add₀ two_ne_zero,
    add_comm]

theorem scaled_lt_iff (count : Nat) :
    exact / 2 ^ scale < 2 ^ count ↔ exact < 2 ^ (scale + count) := by
  rw [← not_le, ← not_le, le_scaled_iff]

theorem RoundsAt.scaled_lt (rounds : RoundsAt exact scale) :
    exact / 2 ^ scale < 2 ^ 53 :=
  (scaled_lt_iff 53).mpr rounds.below

theorem RoundsAt.rounded_le {rounded : Nat} (rounds : RoundsAt exact scale)
    (near : IsNearest (exact / 2 ^ scale) rounded) : rounded ≤ 2 ^ 53 :=
  near.le_bound (by exact_mod_cast rounds.scaled_lt)

theorem RoundsAt.full {rounded : Nat} (rounds : RoundsAt exact scale)
    (near : IsNearest (exact / 2 ^ scale) rounded) :
    2 ^ 52 ≤ rounded ∨ scale = -1074 :=
  rounds.above.imp_left fun above =>
    near.bound_le (by exact_mod_cast (le_scaled_iff 52).mpr above)

/-- The scale of the first shift is that of the exact number. -/
theorem Stands.scale_eq (stands : Stands exact mantissa exponent accuracy)
    (rounds : RoundsAt exact scale) :
    max ((mantissa.log2 : Int) + 1 + exponent - 53) (-1074) = scale := by
  have fine := stands.fine
  have least := rounds.least
  have upper : (mantissa.log2 : Int) + 1 + exponent - 53 ≤ scale := by
    by_cases zero : mantissa = 0
    · subst zero
      simp only [Nat.log2_zero, Nat.cast_zero] at fine ⊢
      omega
    · have lower := (two_zpow_log2_le zero exponent).trans stands.bounds.1
      have exponents := lt_of_two_zpow_lt (lower.trans_lt rounds.below)
      omega
  rcases rounds.above with above | smallest
  · have exponents := lt_of_two_zpow_lt (above.trans_lt stands.lt_two_zpow)
    omega
  · omega

/-! ### Rounding -/

/-- A rounded mantissa of at most 53 bits and one more at a scale. -/
def settle (sign : Sign) (rounded : Nat) (scale : Int) : UnpackedFloat :=
  if zero : rounded = 0 then .zero sign
  else if rounded = 2 ^ 53 then .finite sign (2 ^ 52) (scale + 1) (by decide)
  else .finite sign rounded scale (Nat.pos_of_ne_zero zero)

theorem settle_zero (sign : Sign) (scale : Int) :
    settle sign 0 scale = .zero sign :=
  dif_pos rfl

theorem settle_carry (sign : Sign) (scale : Int) :
    settle sign (2 ^ 53) scale =
      .finite sign (2 ^ 52) (scale + 1) (by decide) := by
  rw [settle, dif_neg (by decide), if_pos rfl]

theorem settle_short {rounded : Nat} (filled : 0 < rounded)
    (short : rounded ≠ 2 ^ 53) (sign : Sign) (scale : Int) :
    settle sign rounded scale = .finite sign rounded scale filled := by
  rw [settle, dif_neg filled.ne', if_neg short]

theorem shiftToTargetExponent_eq :
    shiftToTargetExponent .binary64 mantissa exponent accuracy =
      (ExtendedMantissa.ofMantissaAndAccuracy mantissa accuracy >>>
        places mantissa exponent, exponent + places mantissa exponent) :=
  rfl

/-- The second shift only has a mantissa of 54 bits to bring back. -/
theorem roundWithAccuracy_eq_settle {sign : Sign} {rounded : Nat}
    (first : (shiftToTargetExponent .binary64 mantissa exponent
      accuracy).1.roundedMantissa = rounded)
    (second : (shiftToTargetExponent .binary64 mantissa exponent
      accuracy).2 = scale)
    (few : rounded ≤ 2 ^ 53) (least : -1074 ≤ scale) :
    roundWithAccuracy .binary64 sign mantissa exponent accuracy =
      settle sign rounded scale := by
  have shifted : (shiftToTargetExponent .binary64 rounded scale
      .exact).1.mantissa = rounded / 2 ^ places rounded scale :=
    mantissa_shiftToTargetExponent
  have unfolded : roundWithAccuracy .binary64 sign mantissa exponent accuracy =
      if zero : rounded / 2 ^ places rounded scale = 0 then .zero sign
      else .finite sign (rounded / 2 ^ places rounded scale)
        (scale + places rounded scale) (Nat.pos_of_ne_zero zero) := by
    unfold roundWithAccuracy
    by_cases small : rounded / 2 ^ places rounded scale = 0
    · rw [dif_pos small]
      subst first second
      exact dif_pos (shifted.trans small)
    · rw [dif_neg small]
      subst first second
      exact (dif_neg (shifted.trans_ne small)).trans (finite_congr shifted rfl)
  rw [unfolded]
  by_cases zero : rounded = 0
  · subst zero
    rw [dif_pos (Nat.zero_div _), settle_zero]
  by_cases full : rounded = 2 ^ 53
  · subst full
    have one : places (2 ^ 53) scale = 1 := by
      rw [places, Nat.log2_two_pow]
      omega
    rw [settle_carry, dif_neg (by rw [one]; decide)]
    exact finite_congr (by rw [one]; decide) (by rw [one]; rfl)
  · have none : places rounded scale = 0 := by
      have short : rounded.log2 < 53 := (Nat.log2_lt zero).mpr (by omega)
      rw [places]
      omega
    have kept : rounded / 2 ^ places rounded scale = rounded := by
      rw [none, Nat.pow_zero, Nat.div_one]
    rw [settle_short (Nat.pos_of_ne_zero zero) full,
      dif_neg (kept.trans_ne zero)]
    exact finite_congr kept (by rw [none]; exact Int.add_zero scale)

/-- Rounding takes the nearest integer at the scale of the exact number. -/
theorem Stands.round (stands : Stands exact mantissa exponent accuracy)
    (rounds : RoundsAt exact scale) (sign : Sign) :
    ∃ rounded, IsNearest (exact / 2 ^ scale) rounded ∧
      roundWithAccuracy .binary64 sign mantissa exponent accuracy =
        settle sign rounded scale := by
  have same := stands.scale_eq rounds
  have fine := stands.fine
  rw [same] at fine
  have count : (places mantissa exponent : Int) = scale - exponent := by
    rw [places, same]
    omega
  have located := locates_shiftRight
    (locates_ofMantissaAndAccuracy stands.located) (places mantissa exponent)
  have scaled : exact / 2 ^ exponent / 2 ^ places mantissa exponent =
      exact / 2 ^ scale := by
    rw [div_div, ← zpow_natCast, ← zpow_add₀ two_ne_zero, count,
      add_sub_cancel]
  rw [scaled] at located
  have nearest := isNearest_roundedMantissa located
  refine ⟨_, nearest, roundWithAccuracy_eq_settle rfl ?_ ?_ rounds.least⟩
  · rw [shiftToTargetExponent_eq]
    dsimp only
    omega
  · exact rounds.rounded_le nearest

end Scale

/-! ### Quotients and integers -/

theorem locates_fraction (numerator : Nat) {denominator : Nat}
    (positive : 0 < denominator) :
    Locates (numerator / denominator) (numerator / denominator : Rat)
      (accuracyOfFraction (numerator % denominator) denominator) := by
  have divisor : (0 : Rat) < denominator := by exact_mod_cast positive
  have small : numerator % denominator < denominator :=
    Nat.mod_lt numerator positive
  have split : (numerator / denominator : Rat) =
      (numerator / denominator : Nat) +
        (numerator % denominator : Nat) / denominator := by
    rw [div_eq_iff divisor.ne', add_mul, div_mul_cancel₀ _ divisor.ne']
    exact_mod_cast (Nat.div_add_mod' numerator denominator).symm
  rw [split]
  generalize numerator / denominator = quotient
  generalize numerator % denominator = remainder at small
  have cast : (remainder : Rat) < denominator := by exact_mod_cast small
  unfold accuracyOfFraction
  split_ifs with zero
  · simp [Locates, zero]
  have filled : (0 : Rat) < remainder := by
    exact_mod_cast Nat.pos_of_ne_zero zero
  have above : (0 : Rat) < remainder / denominator :=
    div_pos filled divisor
  have below : (remainder / denominator : Rat) < 1 :=
    (div_lt_one divisor).mpr cast
  rcases order : compare (2 * remainder) denominator with _ | _ | _ <;>
    simp only [Locates]
  case lt =>
    have twice : (2 * remainder : Rat) < denominator := by
      exact_mod_cast Nat.compare_eq_lt.mp order
    have half : (remainder / denominator : Rat) < 1 / 2 := by
      rw [div_lt_iff₀ divisor]
      linarith
    exact ⟨by linarith, by linarith⟩
  case eq =>
    have twice : (2 * remainder : Rat) = denominator := by
      exact_mod_cast Nat.compare_eq_eq.mp order
    have half : (remainder / denominator : Rat) = 1 / 2 := by
      rw [div_eq_iff divisor.ne']
      linarith
    rw [half]
  case gt =>
    have twice : (denominator : Rat) < 2 * remainder := by
      exact_mod_cast Nat.compare_eq_gt.mp order
    have half : 1 / 2 < (remainder / denominator : Rat) := by
      rw [lt_div_iff₀ divisor]
      linarith
    exact ⟨by linarith, by linarith⟩

section Quotient

variable {sign otherSign : Sign} {dividend divisor : Nat} {scale : Int}

/-- The exponent that the quotient of two numbers is cut off at. -/
def cutoff (dividend : Nat) (upper : Int) (divisor : Nat) (lower : Int) : Int :=
  min (upper - lower) (max ((dividend.log2 : Int) + 1 + upper -
    ((divisor.log2 : Int) + 1 + lower) - 53) (-1074))

theorem divCore_eq (upper lower : Int) (count : Nat)
    (shift : cutoff dividend upper divisor lower + count = upper - lower) :
    divCore .binary64 dividend upper divisor lower =
      (dividend * 2 ^ count / divisor, cutoff dividend upper divisor lower,
        accuracyOfFraction (dividend * 2 ^ count % divisor) divisor) := by
  obtain rfl : (upper - lower - cutoff dividend upper divisor lower).toNat =
      count := by omega
  rw [← Nat.shiftLeft_eq]
  rfl

/-- The quotient has enough bits unless it is cut off at the least exponent. -/
theorem cutoff_fine {upper lower : Int} {count : Nat} (filled : 0 < dividend)
    (positive : 0 < divisor)
    (shift : cutoff dividend upper divisor lower + count = upper - lower) :
    cutoff dividend upper divisor lower ≤
      max (((dividend * 2 ^ count / divisor).log2 : Int) + 1 +
        cutoff dividend upper divisor lower - 53) (-1074) := by
  by_cases small : cutoff dividend upper divisor lower ≤ -1074
  · exact small.trans (Int.le_max_right _ _)
  have enough : 52 + (divisor.log2 + 1) ≤ dividend.log2 + count := by
    unfold cutoff at shift small
    omega
  have wide : 2 ^ 52 ≤ dividend * 2 ^ count / divisor := by
    rw [Nat.le_div_iff_mul_le positive]
    calc 2 ^ 52 * divisor ≤ 2 ^ 52 * 2 ^ (divisor.log2 + 1) :=
          Nat.mul_le_mul_left _ Nat.lt_log2_self.le
      _ = 2 ^ (52 + (divisor.log2 + 1)) := (Nat.pow_add ..).symm
      _ ≤ 2 ^ (dividend.log2 + count) := Nat.pow_le_pow_right two_pos enough
      _ = 2 ^ dividend.log2 * 2 ^ count := Nat.pow_add ..
      _ ≤ dividend * 2 ^ count :=
          Nat.mul_le_mul_right _ (Nat.log2_self_le filled.ne')
  have bits : 52 ≤ (dividend * 2 ^ count / divisor).log2 :=
    (Nat.le_log2 (by omega)).mpr wide
  omega

theorem stands_divCore (upper lower : Int) (filled : 0 < dividend)
    (positive : 0 < divisor) :
    Stands (dividend * 2 ^ upper / (divisor * 2 ^ lower))
      (divCore .binary64 dividend upper divisor lower).1
      (divCore .binary64 dividend upper divisor lower).2.1
      (divCore .binary64 dividend upper divisor lower).2.2 := by
  have most : cutoff dividend upper divisor lower ≤ upper - lower :=
    Int.min_le_left _ _
  obtain ⟨count, shift⟩ := Int.le.dest most
  rw [divCore_eq upper lower count shift]
  refine ⟨?_, cutoff_fine filled positive shift⟩
  have scaled : (dividend * 2 ^ upper / (divisor * 2 ^ lower) : Rat) /
      2 ^ cutoff dividend upper divisor lower =
        (dividend * 2 ^ count : Nat) / divisor := by
    generalize cutoff dividend upper divisor lower = cut at shift
    obtain rfl : upper = cut + count + lower := by omega
    have divides : (divisor : Rat) ≠ 0 := by exact_mod_cast positive.ne'
    rw [zpow_add₀ two_ne_zero, zpow_add₀ two_ne_zero, zpow_natCast]
    push_cast
    field_simp
  dsimp only
  rw [scaled]
  exact locates_fraction _ positive

/-- The quotient of two finite numbers is the nearest number to the exact
quotient. -/
theorem div_finite {upper lower : Int} (filled : 0 < dividend)
    (positive : 0 < divisor)
    (rounds : RoundsAt (dividend * 2 ^ upper / (divisor * 2 ^ lower)) scale) :
    ∃ rounded,
      IsNearest (dividend * 2 ^ upper / (divisor * 2 ^ lower) / 2 ^ scale)
        rounded ∧
      UnpackedFloat.div .binary64 (.finite sign dividend upper filled)
          (.finite otherSign divisor lower positive) =
        settle (sign / otherSign) rounded scale :=
  (stands_divCore upper lower filled positive).round rounds (sign / otherSign)

end Quotient

section Whole

variable {number : Nat} {scale : Int}

/-- A natural number is filled up with zeros to 53 bits. -/
theorem stands_filled (positive : 0 < number) :
    Stands number (number * 2 ^ (52 - number.log2)) (-(52 - number.log2 : Nat))
      .exact where
  located := by
    change (number / 2 ^ (-(52 - number.log2 : Nat) : Int) : Rat) =
      (number * 2 ^ (52 - number.log2) : Nat)
    rw [zpow_neg, zpow_natCast, div_inv_eq_mul]
    push_cast
    rfl
  fine := by
    have bits : number.log2 + (52 - number.log2) ≤
        (number * 2 ^ (52 - number.log2)).log2 := by
      rw [Nat.le_log2 (by positivity), Nat.pow_add]
      exact Nat.mul_le_mul_right _ (Nat.log2_self_le positive.ne')
    omega

theorem ofNat_eq_roundWithAccuracy (positive : 0 < number) :
    UnpackedFloat.ofNat .binary64 number =
      roundWithAccuracy .binary64 .positive
        (number * 2 ^ (52 - number.log2)) (-(52 - number.log2 : Nat))
        .exact := by
  have order : compare (number : Int) 0 = .gt := by
    rw [Int.compare_eq_gt]
    omega
  have target : Format.binary64.targetExponent (totalExponent number 0) =
      number.log2 - 52 := by
    change max ((number.log2 : Int) + 1 + 0 - 53) (-1074) = number.log2 - 52
    omega
  have count : (-((number.log2 : Int) - 52)).toNat = 52 - number.log2 := by
    omega
  unfold UnpackedFloat.ofNat UnpackedFloat.ofInt UnpackedFloat.normalize
    UnpackedFloat.round decreaseExponent
  rw [order]
  simp only [Int.toNat_natCast, target, zero_sub, count, Nat.shiftLeft_eq]

/-- A natural number is converted to the nearest number. -/
theorem ofNat_nearest (positive : 0 < number)
    (rounds : RoundsAt number scale) :
    ∃ rounded, IsNearest (number / 2 ^ scale) rounded ∧
      UnpackedFloat.ofNat .binary64 number =
        settle .positive rounded scale := by
  rw [ofNat_eq_roundWithAccuracy positive]
  exact (stands_filled positive).round rounds .positive

end Whole

end GrammaticalEvolution.FloatModel
