import GrammaticalEvolution.Decimal.Literal
import GrammaticalEvolution.Proofs.FloatQuotients

/-!
# Decimals read as binary64 numbers

Around every binary64 number lies the interval of exact numbers that round to
it.  A decimal literal within the interval is read as that number, whether it is
computed from small integers that are exact themselves or from large ones.
-/

namespace GrammaticalEvolution.FloatModel

open Float.Model Float.Model.UnpackedFloat

/-- How far below a number, in units of its last place, lie the numbers that
round to it.  Below a power of two the next number is twice as close. -/
def reachBelow (mantissa : Nat) (exponent : Int) : Rat :=
  if mantissa = 2 ^ 52 ∧ -1074 < exponent then 1 / 4 else 1 / 2

/-- The exact numbers that round to a number.  The ends of the interval belong
to it exactly for even mantissas. -/
def RoundsTo (mantissa : Nat) (exponent : Int) (exact : Rat) : Prop :=
  let place := exact / 2 ^ exponent
  let low := mantissa - reachBelow mantissa exponent
  if mantissa % 2 = 0 then low ≤ place ∧ place ≤ mantissa + 1 / 2
  else low < place ∧ place < mantissa + 1 / 2

section Rounding

variable {mantissa : Nat} {exponent : Int} {exact : Rat}

theorem reachBelow_le : reachBelow mantissa exponent ≤ 1 / 2 := by
  unfold reachBelow
  split_ifs <;> norm_num

theorem RoundsTo.bounds (inside : RoundsTo mantissa exponent exact) :
    mantissa - reachBelow mantissa exponent ≤ exact / 2 ^ exponent ∧
      exact / 2 ^ exponent ≤ mantissa + 1 / 2 := by
  unfold RoundsTo at inside
  dsimp only at inside
  split_ifs at inside
  · exact inside
  · exact ⟨inside.1.le, inside.2.le⟩

theorem RoundsTo.isNearest (inside : RoundsTo mantissa exponent exact) :
    IsNearest (exact / 2 ^ exponent) mantissa := by
  have reach : reachBelow mantissa exponent ≤ 1 / 2 := reachBelow_le
  obtain ⟨lower, upper⟩ := inside.bounds
  refine ⟨abs_le.mpr ⟨by linarith, by linarith⟩, fun half => ?_⟩
  by_contra odd
  unfold RoundsTo at inside
  dsimp only at inside
  rw [if_neg fun even => odd (Nat.even_iff.mpr even)] at inside
  have less : |exact / 2 ^ exponent - mantissa| < 1 / 2 :=
    abs_lt.mpr ⟨by linarith, by linarith⟩
  exact less.ne half

theorem roundsAt_of_scaled (least : -1074 ≤ exponent)
    (above : 2 ^ 52 ≤ exact / 2 ^ exponent ∨ exponent = -1074)
    (below : exact / 2 ^ exponent < 2 ^ 53) : RoundsAt exact exponent where
  least := least
  above := above.imp_left (le_scaled_iff 52).mp
  below := (scaled_lt_iff 53).mp below

/-- Below a power of two the rounding is one of 54 bits, which carries. -/
theorem round_carry (inside : RoundsTo mantissa exponent exact)
    (canonical : Canonical mantissa exponent) (normal : -1074 < exponent)
    (short : exact / 2 ^ exponent < 2 ^ 52) :
    mantissa = 2 ^ 52 ∧ RoundsAt exact (exponent - 1) ∧
      IsNearest (exact / 2 ^ (exponent - 1)) (2 ^ 53) := by
  have long : 2 ^ 52 ≤ mantissa := canonical.full.resolve_right normal.ne'
  have near : mantissa ≤ 2 ^ 52 :=
    inside.isNearest.le_bound (by exact_mod_cast short)
  obtain rfl : mantissa = 2 ^ 52 := Nat.le_antisymm near long
  have lower := inside.bounds.1
  rw [reachBelow, if_pos ⟨rfl, normal⟩] at lower
  push_cast at lower
  have twice : exact / 2 ^ (exponent - 1) = 2 * (exact / 2 ^ exponent) := by
    rw [zpow_sub_one₀ two_ne_zero]
    field_simp
  refine ⟨rfl, roundsAt_of_scaled (by omega) (.inl ?_) ?_, ?_, fun _ => ?_⟩
  · rw [twice]
    linarith
  · rw [twice]
    linarith
  · rw [twice, abs_le]
    push_cast
    constructor <;> linarith
  · decide

/-- Within the interval every exact number is rounded to the number. -/
theorem RoundsTo.round (inside : RoundsTo mantissa exponent exact)
    (canonical : Canonical mantissa exponent) {first : Nat} {scale : Int}
    {accuracy : Accuracy} (stands : Stands exact first scale accuracy)
    (sign : Sign) :
    roundWithAccuracy .binary64 sign first scale accuracy =
      .finite sign mantissa exponent canonical.positive := by
  by_cases carry : -1074 < exponent ∧ exact / 2 ^ exponent < 2 ^ 52
  · obtain ⟨rfl, rounds, full⟩ := round_carry inside canonical carry.1 carry.2
    obtain ⟨rounded, near, settled⟩ := stands.round rounds sign
    obtain rfl := near.unique full
    rw [settled, settle_carry]
    exact finite_congr rfl (Int.sub_add_cancel exponent 1)
  · obtain ⟨positive, few, least, most, full⟩ := canonical
    have above : 2 ^ 52 ≤ exact / 2 ^ exponent ∨ exponent = -1074 := by
      by_cases smallest : exponent = -1074
      · exact .inr smallest
      · exact .inl (not_lt.mp fun short => carry ⟨by omega, short⟩)
    have cast : (mantissa : Rat) + 1 ≤ 2 ^ 53 := by exact_mod_cast few
    have below : exact / 2 ^ exponent < 2 ^ 53 := by
      linarith [inside.bounds.2]
    obtain ⟨rounded, near, settled⟩ :=
      stands.round (roundsAt_of_scaled least above below) sign
    obtain rfl := near.unique inside.isNearest
    exact settled.trans (settle_short positive few.ne sign exponent)

/-- A quotient within the interval is that number. -/
theorem RoundsTo.div {dividend divisor : Nat} {upper lower : Int}
    (inside : RoundsTo mantissa exponent
      (dividend * 2 ^ upper / (divisor * 2 ^ lower)))
    (canonical : Canonical mantissa exponent) (filled : 0 < dividend)
    (positive : 0 < divisor) (sign otherSign : Sign) :
    UnpackedFloat.div .binary64 (.finite sign dividend upper filled)
        (.finite otherSign divisor lower positive) =
      .finite (sign / otherSign) mantissa exponent canonical.positive :=
  inside.round canonical (stands_divCore upper lower filled positive)
    (sign / otherSign)

end Rounding

/-! ### Literals -/

/-- A power as the quotient of its two natural halves. -/
theorem zpow_eq_div (base : Nat) (positive : 0 < base) (power : Int) :
    (base : Rat) ^ power =
      (base ^ power.toNat : Nat) / (base ^ (-power).toNat : Nat) := by
  have nonzero : (base : Rat) ≠ 0 := by exact_mod_cast positive.ne'
  push_cast
  rw [← zpow_natCast, ← zpow_natCast, ← zpow_sub₀ nonzero]
  congr 1
  omega

/-- A positive finite number is a natural number. -/
def denotes (whole : Nat) : UnpackedFloat → Bool
  | .finite .positive mantissa exponent _ =>
      mantissa * 2 ^ exponent.toNat == whole * 2 ^ (-exponent).toNat
  | _ => false

theorem denotes_powers : ∀ count : Fin 23,
    denotes (10 ^ count.val)
      Float.exactlyRepresentablePowersOfTen[count].toModel.unpack = true := by
  decide +kernel

theorem value_of_denotes {whole : Nat} {number : UnpackedFloat}
    (same : denotes whole number = true) :
    ∃ mantissa exponent, ∃ filled : 0 < mantissa,
      number = .finite .positive mantissa exponent filled ∧
      (mantissa * 2 ^ exponent : Rat) = whole := by
  cases number with
  | notANumber | infinity | zero => exact nomatch same
  | finite sign mantissa exponent filled =>
      cases sign with
      | negative => exact nomatch same
      | positive =>
          refine ⟨mantissa, exponent, filled, rfl, ?_⟩
          have cast : (mantissa * 2 ^ exponent.toNat : Rat) =
              whole * 2 ^ (-exponent).toNat := by
            exact_mod_cast beq_iff_eq.mp same
          have powers := zpow_eq_div 2 (by decide) exponent
          push_cast at powers
          rw [powers, mul_div_assoc', cast,
            mul_div_cancel_right₀ _ (by positivity)]

section Literal

variable {digits count mantissa : Nat} {exponent : Int}

/-- Small digits and powers of ten are exact, and so their quotient is rounded
just once. -/
theorem ofScientific_small (filled : 0 < digits) (few : digits < 2 ^ 53)
    (low : count ≤ 22) (canonical : Canonical mantissa exponent)
    (inside : RoundsTo mantissa exponent (digits / 10 ^ count)) :
    (Float.ofScientific digits true count).toModel.unpack =
      .finite .positive mantissa exponent canonical.positive := by
  have word : digits.toUInt64.toNat = digits := by
    rw [Nat.toUInt64_eq, UInt64.toNat_ofNat_of_lt' (few.trans (by decide))]
  have nonzero : digits.toUInt64.toNat ≠ 0 := by omega
  obtain ⟨dividend, upper, dividendFilled, converted, dividendValue⟩ :=
    unpack_toFloat_exact nonzero (by omega)
  let place : Fin 23 := ⟨count, by omega⟩
  obtain ⟨divisor, lower, divisorFilled, power, divisorValue⟩ :=
    value_of_denotes (denotes_powers place)
  rw [word] at dividendValue
  push_cast at divisorValue
  rw [← dividendValue, ← divisorValue] at inside
  have divided : (Float.ofScientific digits true count).toModel.unpack =
      (Float.Model.pack (UnpackedFloat.div .binary64
        digits.toUInt64.toFloat.toModel.unpack
        Float.exactlyRepresentablePowersOfTen[place].toModel.unpack)).unpack :=
    by
    unfold Float.ofScientific
    rw [dif_pos ⟨few, low⟩]
    rfl
  rw [divided, converted, power, inside.div canonical]
  exact unpack_pack canonical

/-- Large digits or powers of ten are divided exactly. -/
theorem ofScientific_large (filled : 0 < digits) (positive : 0 < count)
    (large : ¬ (digits < 2 ^ 53 ∧ count ≤ 22))
    (near : count ≤ 2048 + digits.log2)
    (canonical : Canonical mantissa exponent)
    (inside : RoundsTo mantissa exponent (digits / 10 ^ count)) :
    (Float.ofScientific digits true count).toModel.unpack =
      .finite .positive mantissa exponent canonical.positive := by
  have power : 0 < 10 ^ count := by positivity
  have divided : (Float.ofScientific digits true count).toModel.unpack =
      (Float.Model.pack (UnpackedFloat.div .binary64
        (.finite .positive digits 0 filled)
        (.finite .positive (10 ^ count) 0 power))).unpack := by
    unfold Float.ofScientific
    rw [dif_neg large]
    change (Float.Model.pack (UnpackedFloat.ofScientific .binary64 digits
      (Int.negOfNat count))).unpack = _
    have negated : Int.negOfNat count = -count := Int.negOfNat_eq
    have bits : (2 : Int) ^ Format.binary64.exponentBits = 2048 := rfl
    have same : (-Int.negOfNat count).toNat = count := by omega
    have divisor (filled : 0 < 10 ^ (-Int.negOfNat count).toNat) :
        finite .positive _ 0 filled = finite .positive _ 0 power :=
      finite_congr (congrArg (10 ^ ·) same) rfl
    unfold UnpackedFloat.ofScientific
    rw [dif_neg filled.ne', if_neg (by omega), if_neg (by omega),
      if_neg (by omega)]
    rw [divisor]
  have whole : (digits / 10 ^ count : Rat) =
      digits * 2 ^ (0 : Int) / ((10 ^ count : Nat) * 2 ^ (0 : Int)) := by
    push_cast
    simp
  rw [whole] at inside
  rw [divided, inside.div canonical]
  exact unpack_pack canonical

/-- The bounds beyond which the power of ten is not computed. -/
theorem tenth_powers : (10 : Rat) ^ (-331 : Int) < 2 ^ (-1075 : Int) ∧
    (2 : Rat) ^ (1024 : Int) < 10 ^ (310 : Int) := by
  have lower : 2 ^ 1075 < 10 ^ 331 := by decide +kernel
  have upper : 2 ^ 1024 < 10 ^ 310 := by decide +kernel
  constructor
  · rw [zpow_neg, zpow_neg, inv_lt_inv₀ (by positivity) (by positivity)]
    exact_mod_cast lower
  · exact_mod_cast upper

/-- What rounds to a finite number is neither tiny nor huge. -/
theorem RoundsTo.magnitude {exact : Rat}
    (inside : RoundsTo mantissa exponent exact)
    (canonical : Canonical mantissa exponent) :
    2 ^ (-1075 : Int) ≤ exact ∧ exact < 2 ^ (1024 : Int) := by
  obtain ⟨positive, few, least, most, -⟩ := canonical
  have reach : reachBelow mantissa exponent ≤ 1 / 2 := reachBelow_le
  have power : (0 : Rat) < 2 ^ exponent := by positivity
  have one : (1 : Rat) ≤ mantissa := by exact_mod_cast positive
  have short : (mantissa : Rat) + 1 ≤ 2 ^ 53 := by exact_mod_cast few
  obtain ⟨lower, upper⟩ := inside.bounds
  rw [le_div_iff₀ power] at lower
  rw [div_le_iff₀ power] at upper
  constructor
  · calc (2 : Rat) ^ (-1075 : Int) = 1 / 2 * 2 ^ (-1074 : Int) := by
          rw [show (-1075 : Int) = -1074 - 1 from rfl,
            zpow_sub_one₀ two_ne_zero]
          ring
      _ ≤ 1 / 2 * 2 ^ exponent := by gcongr; exact one_le_two
      _ ≤ (mantissa - reachBelow mantissa exponent) * 2 ^ exponent := by
        gcongr
        linarith
      _ ≤ exact := lower
  · calc exact ≤ (mantissa + 1 / 2) * 2 ^ exponent := upper
      _ < 2 ^ 53 * 2 ^ exponent := by
        gcongr
        linarith
      _ ≤ 2 ^ 53 * 2 ^ (971 : Int) := by gcongr; exact one_le_two
      _ = 2 ^ (1024 : Int) := by
          rw [← zpow_natCast, ← zpow_add₀ two_ne_zero]
          rfl

theorem toDigits_bounds (filled : 0 < digits) :
    10 ^ ((Nat.toDigits 10 digits).length - 1) ≤ digits ∧
      digits < 10 ^ (Nat.toDigits 10 digits).length := by
  have some : 0 < (Nat.toDigits 10 digits).length := Nat.length_toDigits_pos
  refine ⟨?_, (Nat.length_toDigits_le_iff (by decide) some).mp le_rfl⟩
  by_cases single : (Nat.toDigits 10 digits).length = 1
  · rw [single]
    exact filled
  · by_contra less
    have shorter := (Nat.length_toDigits_le_iff (b := 10) (by decide)
      (Nat.sub_pos_of_lt (by omega))).mpr (not_le.mp less)
    omega

theorem leading_bounds (filled : 0 < digits) (places : Nat) :
    10 ^ (((Nat.toDigits 10 digits).length : Int) - 1 - places) ≤
        (digits / 10 ^ places : Rat) ∧
      (digits / 10 ^ places : Rat) <
        10 ^ (((Nat.toDigits 10 digits).length : Int) - places) := by
  obtain ⟨lower, upper⟩ := toDigits_bounds filled
  have some : 0 < (Nat.toDigits 10 digits).length := Nat.length_toDigits_pos
  generalize (Nat.toDigits 10 digits).length = length at lower upper some
  have before : (length : Int) - 1 = (length - 1 : Nat) := by omega
  rw [before, zpow_sub₀ (by norm_num), zpow_sub₀ (by norm_num), zpow_natCast,
    zpow_natCast, zpow_natCast]
  constructor
  · gcongr
    exact_mod_cast lower
  · gcongr
    exact_mod_cast upper

/-- A decimal within the interval of a number is read as that number. -/
theorem nearest_eq {places : Nat} (filled : 0 < digits) (fraction : 0 < places)
    (canonical : Canonical mantissa exponent)
    (inside : RoundsTo mantissa exponent (digits / 10 ^ places)) :
    (Decimal.nearest digits (-places)).toModel.unpack =
      .finite .positive mantissa exponent canonical.positive := by
  obtain ⟨notTiny, notHuge⟩ := inside.magnitude canonical
  obtain ⟨lower, upper⟩ := leading_bounds filled places
  have small : ¬ ((Nat.toDigits 10 digits).length : Int) + -places < -330 := by
    intro tiny
    have power : (10 : Rat) ^ (((Nat.toDigits 10 digits).length : Int) - places)
        ≤ 10 ^ (-331 : Int) :=
      zpow_le_zpow_right₀ (by norm_num) (by omega)
    exact absurd (notTiny.trans_lt (upper.trans_le power))
      (not_lt.mpr tenth_powers.1.le)
  have large : ¬ 310 < ((Nat.toDigits 10 digits).length : Int) + -places := by
    intro huge
    have power : (10 : Rat) ^ (310 : Int) ≤
        10 ^ (((Nat.toDigits 10 digits).length : Int) - 1 - places) :=
      zpow_le_zpow_right₀ (by norm_num) (by omega)
    exact absurd ((power.trans lower).trans_lt notHuge)
      (not_lt.mpr tenth_powers.2.le)
  unfold Decimal.nearest
  dsimp only
  rw [if_neg (not_or.mpr ⟨filled.ne', small⟩), if_neg large, if_pos (by omega),
    Int.natAbs_neg, Int.natAbs_natCast]
  by_cases exact : digits < 2 ^ 53 ∧ places ≤ 22
  · exact ofScientific_small filled exact.1 exact.2 canonical inside
  · have power : 2 ^ ((Nat.toDigits 10 digits).length - 1) ≤ digits :=
      (Nat.pow_le_pow_left (by decide) _).trans (toDigits_bounds filled).1
    have bits := (Nat.le_log2 filled.ne').mpr power
    exact ofScientific_large filled fraction exact (by omega) canonical inside

end Literal

end GrammaticalEvolution.FloatModel
