import GrammaticalEvolution.Proofs.DecimalRounding
import GrammaticalEvolution.Proofs.DecimalTexts
import Mathlib.Data.List.TakeWhile

/-!
# Shortest digits read back

A grid point is taken for a number only if it lies within the interval that
rounds to the number.  Seventeen significant digits make a grid that is finer
than the interval, so that one of the two neighbours lies within it at last.
-/

namespace GrammaticalEvolution.Decimal

open FloatModel (Canonical RoundsTo reachBelow two_zpow_log2_le zpow_eq_div)

section Interval

variable {mantissa point : Nat} {exponent grid : Int}

/-- Units and denominators measure a grid in last places of a number. -/
theorem intervalOn_ratio (mantissa : Nat) (exponent grid : Int) :
    ∃ unit : Nat, 0 < unit ∧
      0 < (intervalOn mantissa exponent grid).denominator ∧
      (intervalOn mantissa exponent grid).quarters = 4 * mantissa * unit ∧
      (intervalOn mantissa exponent grid).below =
        (if mantissa = 2 ^ 52 ∧ -1074 < exponent then 1 else 2) * unit ∧
      (intervalOn mantissa exponent grid).above = 2 * unit ∧
      (10 ^ grid / 2 ^ exponent : Rat) =
        (intervalOn mantissa exponent grid).denominator / unit := by
  refine ⟨powerOfTwo exponent.toNat * powerOfTen (-grid).toNat,
    Nat.mul_pos (Nat.two_pow_pos _) (Nat.pow_pos (by decide)),
    Nat.mul_pos (Nat.two_pow_pos _) (Nat.pow_pos (by decide)),
    rfl, rfl, rfl, ?_⟩
  have ten := zpow_eq_div 10 (by decide) grid
  have two := zpow_eq_div 2 (by decide) exponent
  push_cast at ten two
  rw [ten, two]
  simp only [intervalOn, powerOfTwo, powerOfTen, Nat.pow_eq]
  push_cast
  field_simp

/-- The interval on a grid holds the points that round to the number. -/
theorem holds_intervalOn (filled : 0 < mantissa) :
    (intervalOn mantissa exponent grid).holds point = true ↔
      RoundsTo mantissa exponent (point * 10 ^ grid) := by
  obtain ⟨unit, unitPositive, positive, quarters, below, above, ratio⟩ :=
    intervalOn_ratio mantissa exponent grid
  generalize reached : (if mantissa = 2 ^ 52 ∧ -1074 < exponent then 1 else 2) =
    quarter at below
  have little : quarter ≤ 2 := by
    rw [← reached]
    split_ifs <;> decide
  have enough : quarter * unit ≤ 4 * mantissa * unit :=
    Nat.mul_le_mul_right _ (by omega)
  have closed : (intervalOn mantissa exponent grid).closed =
    decide (mantissa % 2 = 0) := rfl
  have unitCast : (0 : Rat) < unit := by exact_mod_cast unitPositive
  have wide : (0 : Rat) < 4 * unit := by positivity
  -- Everything is counted in quarters of a unit.
  have low : (mantissa - reachBelow mantissa exponent : Rat) =
      (4 * mantissa * unit - quarter * unit : Nat) / (4 * unit) := by
    have reach : reachBelow mantissa exponent = quarter / 4 := by
      rw [← reached, reachBelow]
      split_ifs <;> norm_num
    rw [reach, Nat.cast_sub enough]
    push_cast
    field_simp
  have high : (mantissa + 1 / 2 : Rat) =
      (4 * mantissa * unit + 2 * unit : Nat) / (4 * unit) := by
    push_cast
    field_simp
    ring
  have place : (point * 10 ^ grid / 2 ^ exponent : Rat) =
      (4 * point * (intervalOn mantissa exponent grid).denominator : Nat) /
        (4 * unit) := by
    rw [mul_div_assoc, ratio]
    push_cast
    field_simp
  unfold Interval.holds RoundsTo
  rw [closed, quarters, below, above, low, high, place]
  simp only [div_le_div_iff_of_pos_right wide, div_lt_div_iff_of_pos_right wide,
    Nat.cast_le, Nat.cast_lt, decide_eq_true_iff]
  split_ifs <;> simp only [Bool.and_eq_true, decide_eq_true_iff]

theorem roundsTo_of_inside {exact : Rat}
    (lower : mantissa - reachBelow mantissa exponent < exact / 2 ^ exponent)
    (upper : exact / 2 ^ exponent < mantissa + 1 / 2) :
    RoundsTo mantissa exponent exact := by
  unfold RoundsTo
  dsimp only
  split_ifs
  · exact ⟨lower.le, upper.le⟩
  · exact ⟨lower, upper⟩

/-- On a grid finer than the interval one of the two neighbours lies in it. -/
theorem neighbour_holds (filled : 0 < mantissa)
    (fine : (10 ^ grid / 2 ^ exponent : Rat) <
      1 / 2 + reachBelow mantissa exponent)
    {floor : Nat}
    (below : (intervalOn mantissa exponent grid).quarters /
      (4 * (intervalOn mantissa exponent grid).denominator) = floor) :
    (intervalOn mantissa exponent grid).holds floor = true ∨
      (intervalOn mantissa exponent grid).holds (floor + 1) = true := by
  obtain ⟨unit, unitPositive, positive, quarters, -, -, ratio⟩ :=
    intervalOn_ratio mantissa exponent grid
  rw [holds_intervalOn filled, holds_intervalOn filled]
  have unitCast : (0 : Rat) < unit := by exact_mod_cast unitPositive
  have step : (0 : Rat) < 10 ^ grid / 2 ^ exponent := by positivity
  -- The number lies between the two neighbours.
  obtain ⟨lower, upper⟩ :
      (floor * (10 ^ grid / 2 ^ exponent) : Rat) ≤ mantissa ∧
        (mantissa : Rat) < (floor + 1) * (10 ^ grid / 2 ^ exponent) := by
    rw [ratio, mul_div_assoc', mul_div_assoc', div_le_iff₀ unitCast,
      lt_div_iff₀ unitCast]
    rw [quarters, Nat.mul_assoc, Nat.mul_div_mul_left _ _ (by decide)] at below
    subst below
    have next := Nat.lt_mul_div_succ (mantissa * unit) positive
    rw [Nat.mul_comm (intervalOn mantissa exponent grid).denominator] at next
    exact ⟨by exact_mod_cast Nat.div_mul_le_self _ _, by exact_mod_cast next⟩
  have reach : (0 : Rat) < reachBelow mantissa exponent := by
    unfold reachBelow
    split_ifs <;> norm_num
  by_cases near : (mantissa - reachBelow mantissa exponent : Rat) <
      floor * (10 ^ grid / 2 ^ exponent)
  · refine .inl (roundsTo_of_inside ?_ ?_) <;> rw [mul_div_assoc] <;> linarith
  · refine .inr (roundsTo_of_inside ?_ ?_) <;> rw [mul_div_assoc] <;>
      push_cast <;> linarith

end Interval

/-! ### The grids -/

section Grids

variable {tie : Tie} {interval : Interval} {point mantissa count : Nat}
  {exponent leading grid : Int}

theorem holds_of_point? (found : interval.point? tie = some point) :
    interval.holds point = true := by
  unfold Interval.point? at found
  dsimp only at found
  generalize interval.quarters / (4 * interval.denominator) = floor at found
  split at found
  · exact nomatch found
  · next holdsFloor _ =>
      cases found
      exact holdsFloor
  · next _ holdsCeiling =>
      cases found
      exact holdsCeiling
  · next holdsFloor holdsCeiling =>
      split_ifs at found
      · cases found
        exact holdsFloor
      · cases found
        exact holdsCeiling
      · cases tie with
        | up =>
            cases found
            exact holdsCeiling
        | even =>
            cases found
            rcases Nat.mod_two_eq_zero_or_one floor with even | odd
            · rwa [even, Nat.add_zero]
            · rwa [odd]

/-- A grid without a point in the interval has neither neighbour in it. -/
theorem not_holds_of_point? (missing : interval.point? tie = none) :
    interval.holds (interval.quarters / (4 * interval.denominator)) = false ∧
      interval.holds (interval.quarters / (4 * interval.denominator) + 1) =
        false := by
  unfold Interval.point? at missing
  dsimp only at missing
  split at missing
  · next holdsFloor holdsCeiling => exact ⟨holdsFloor, holdsCeiling⟩
  · exact nomatch missing
  · exact nomatch missing
  · split_ifs at missing
    cases tie <;> exact nomatch missing

/-- Digits are found on a grid that has a point in the interval. -/
theorem holds_of_shortestFrom {remaining : Nat}
    (found : shortestFrom tie mantissa exponent leading count remaining =
      some (point, grid)) :
    (intervalOn mantissa exponent grid).holds point = true := by
  induction remaining generalizing count with
  | zero => exact nomatch found
  | succ remaining induction =>
      unfold shortestFrom at found
      dsimp only at found
      split at found
      · next inside =>
          cases found
          exact holds_of_point? inside
      · exact induction found

/-- A search that finds nothing has been through every grid. -/
theorem missing_of_shortestFrom {remaining : Nat}
    (missing : shortestFrom tie mantissa exponent leading count remaining =
      none) {later : Nat} (within : later < remaining) :
    (intervalOn mantissa exponent (leading + 1 - (count + later : Nat))).point?
      tie = none := by
  induction remaining generalizing count later with
  | zero => exact absurd within (Nat.not_lt_zero later)
  | succ remaining induction =>
      unfold shortestFrom at missing
      dsimp only at missing
      split at missing
      · exact nomatch missing
      · next none =>
          cases later with
          | zero => exact none
          | succ later =>
              have next := induction missing (Nat.lt_of_succ_lt_succ within)
              rwa [Nat.add_assoc, Nat.add_comm 1 later] at next

end Grids

/-! ### The leading digit -/

section Leading

variable {mantissa : Nat} {exponent power : Int}

theorem tenPowerAtMost_iff {numerator denominator : Nat}
    (positive : 0 < denominator) :
    tenPowerAtMost power numerator denominator = true ↔
      (10 : Rat) ^ power ≤ numerator / denominator := by
  have divisor : (0 : Rat) < denominator := by exact_mod_cast positive
  have scale : (0 : Rat) < (10 ^ (-power).toNat : Nat) := by positivity
  have ten := zpow_eq_div 10 (by decide) power
  push_cast at ten
  rw [ten, tenPowerAtMost, decide_eq_true_iff, powerOfTen, powerOfTen,
    Nat.pow_eq, Nat.pow_eq, div_le_div_iff₀ (by exact_mod_cast scale) divisor]
  exact_mod_cast Iff.rfl

theorem scale_ratio (mantissa : Nat) (exponent : Int) :
    (scaleNumerator mantissa exponent / scaleDenominator exponent : Rat) =
      mantissa * 2 ^ exponent := by
  have two := zpow_eq_div 2 (by decide) exponent
  push_cast at two
  rw [two, scaleNumerator, scaleDenominator, powerOfTwo, powerOfTwo,
    Nat.pow_eq, Nat.pow_eq]
  push_cast
  ring

/-- Powers are compared by powers of their bases, as long as the exponents are
in proportion. -/
theorem pow_le_pow_of_scaled {base other less more left right : Nat}
    (bases : base ^ less ≤ other ^ more) (some : less ≠ 0) (filled : 0 < other)
    (scaled : more * left ≤ less * right) : base ^ left ≤ other ^ right := by
  rw [← Nat.pow_le_pow_iff_left some]
  calc (base ^ left) ^ less = (base ^ less) ^ left := Nat.pow_right_comm ..
    _ ≤ (other ^ more) ^ left := Nat.pow_le_pow_left bases left
    _ = other ^ (more * left) := (Nat.pow_mul ..).symm
    _ ≤ other ^ (less * right) := Nat.pow_le_pow_right filled scaled
    _ = (other ^ right) ^ less := by rw [Nat.mul_comm, Nat.pow_mul]

/-- The estimate by the power of two is at most one too large. -/
theorem ten_zpow_estimate (most : power < 1024) :
    (10 : Rat) ^ (Int.fdiv (power * 30103) 100000 - 1) ≤ 2 ^ power := by
  have above : 10 ^ 30103 ≤ 2 ^ 100001 := by decide +kernel
  have below : 2 ^ 100000 ≤ 10 ^ 30103 := by decide +kernel
  rw [Int.fdiv_eq_ediv_of_nonneg _ (by decide)]
  generalize estimated : power * 30103 / 100000 - 1 = estimate
  rcases Int.lt_or_le estimate 0 with negative | positive
  · obtain ⟨tens, rfl⟩ := Int.exists_eq_neg_ofNat negative.le
    rcases Int.lt_or_le power 0 with small | large
    · obtain ⟨twos, rfl⟩ := Int.exists_eq_neg_ofNat small.le
      have powers : 2 ^ twos ≤ 10 ^ tens :=
        pow_le_pow_of_scaled below (by decide) (by decide) (by omega)
      rw [zpow_neg, zpow_neg, zpow_natCast, zpow_natCast]
      exact inv_anti₀ (by positivity) (by exact_mod_cast powers)
    · calc (10 : Rat) ^ (-(tens : Int)) ≤ 1 :=
            zpow_le_one_of_nonpos₀ (by norm_num) negative.le
        _ ≤ 2 ^ power := one_le_zpow₀ one_le_two large
  · obtain ⟨tens, rfl⟩ := Int.eq_ofNat_of_zero_le positive
    obtain ⟨twos, rfl⟩ := Int.eq_ofNat_of_zero_le
      (show 0 ≤ power by omega)
    have powers : 10 ^ tens ≤ 2 ^ twos :=
      pow_le_pow_of_scaled above (by decide) (by decide) (by omega)
    rw [zpow_natCast, zpow_natCast]
    exact_mod_cast powers

/-- The power of ten of the leading digit is not above the number. -/
theorem leadingPower_le (canonical : Canonical mantissa exponent) :
    (10 : Rat) ^ leadingPower mantissa exponent ≤ mantissa * 2 ^ exponent := by
  obtain ⟨filled, few, least, most, -⟩ := canonical
  have positive : 0 < scaleDenominator exponent := Nat.two_pow_pos _
  unfold leadingPower
  dsimp only
  split_ifs with above same
  · rw [← scale_ratio]
    exact (tenPowerAtMost_iff positive).mp above
  · rw [← scale_ratio]
    exact (tenPowerAtMost_iff positive).mp same
  · have bits : mantissa.log2 < 53 := (Nat.log2_lt filled.ne').mpr few
    exact (ten_zpow_estimate (by omega)).trans
      (two_zpow_log2_le filled.ne' exponent)

/-- Seventeen digits make a grid finer than the interval. -/
theorem fine_grid (canonical : Canonical mantissa exponent) :
    (10 ^ (leadingPower mantissa exponent - 16) / 2 ^ exponent : Rat) <
      1 / 2 + reachBelow mantissa exponent := by
  have power : (0 : Rat) < 2 ^ exponent := by positivity
  have few : (mantissa : Rat) + 1 ≤ 2 ^ 53 := by
    exact_mod_cast canonical.few
  have leading := leadingPower_le canonical
  rw [div_lt_iff₀ power, zpow_sub₀ (by norm_num), div_lt_iff₀ (by norm_num)]
  refine leading.trans_lt ?_
  have digits : (mantissa : Rat) <
      (1 / 2 + reachBelow mantissa exponent) * 10 ^ 16 := by
    unfold reachBelow
    split_ifs with full
    · rw [full.1]
      norm_num
    · linarith
  calc (mantissa * 2 ^ exponent : Rat)
      < (1 / 2 + reachBelow mantissa exponent) * 10 ^ 16 * 2 ^ exponent := by
        gcongr
    _ = (1 / 2 + reachBelow mantissa exponent) * 2 ^ exponent *
        10 ^ (16 : Int) := by ring

/-- The search finds a point that rounds to the number. -/
theorem exists_shortestFrom (tie : Tie)
    (canonical : Canonical mantissa exponent) :
    ∃ point grid,
      shortestFrom tie mantissa exponent (leadingPower mantissa exponent) 1
        mostDigits = some (point, grid) ∧
      RoundsTo mantissa exponent (point * 10 ^ grid) := by
  cases found : shortestFrom tie mantissa exponent
      (leadingPower mantissa exponent) 1 mostDigits with
  | none =>
      exfalso
      have missing := missing_of_shortestFrom found
        (show 16 < mostDigits by decide)
      have last : leadingPower mantissa exponent + 1 - (1 + 16 : Nat) =
        leadingPower mantissa exponent - 16 := by omega
      rw [last] at missing
      obtain ⟨lower, upper⟩ := not_holds_of_point? missing
      rcases neighbour_holds canonical.positive (fine_grid canonical) rfl with
        floor | ceiling
      · exact nomatch floor.symm.trans lower
      · exact nomatch ceiling.symm.trans upper
  | some result =>
      obtain ⟨point, grid⟩ := result
      exact ⟨point, grid, rfl,
        (holds_intervalOn canonical.positive).mp (holds_of_shortestFrom found)⟩

end Leading

/-! ### Digits -/

section Spelling

variable {digits : List Nat} {mantissa : Nat} {exponent : Int}

/-- The number that digits spell. -/
def spelled (digits : List Nat) : Nat :=
  readDigits 0 (digitChars digits)

theorem readDigits_zeros (start count : Nat) :
    readDigits start (List.replicate count '0') = start * 10 ^ count := by
  induction count generalizing start with
  | zero => exact (Nat.mul_one start).symm
  | succ count induction =>
      change readDigits (10 * start + 0) (List.replicate count '0') = _
      rw [induction, Nat.pow_succ]
      ring

theorem spelled_append_zeros (digits : List Nat) (count : Nat) :
    spelled (digits ++ List.replicate count 0) =
      spelled digits * 10 ^ count := by
  have zeros : (List.replicate count 0).map digitChar =
    List.replicate count '0' := List.map_replicate
  unfold spelled digitChars
  rw [List.map_append, readDigits_append, zeros, readDigits_zeros]

/-- Only zeros are trimmed. -/
theorem trimZeros_append (digits : List Nat) :
    ∃ count, digits = trimZeros digits ++ List.replicate count 0 := by
  have zeros : digits.reverse.takeWhile (· == 0) =
      List.replicate (digits.reverse.takeWhile (· == 0)).length 0 := by
    refine List.eq_replicate_iff.mpr ⟨rfl, fun digit member => ?_⟩
    have zero : (digit == 0) = true :=
      List.mem_takeWhile_imp (p := (· == 0)) member
    exact beq_iff_eq.mp zero
  refine ⟨(digits.reverse.takeWhile (· == 0)).length, ?_⟩
  rw [trimZeros, ← List.reverse_replicate, ← zeros, ← List.reverse_append,
    List.takeWhile_append_dropWhile, List.reverse_reverse]

/-- Digits that start with no zero, and the number they spell with the first of
them at a power of ten. -/
structure Spells (number : Digits) (exact : Rat) : Prop where
  filled : number.digits ≠ []
  leading : number.digits.head? ≠ some 0
  value : exact = spelled number.digits *
    10 ^ (number.exponent + 1 - number.digits.length)

theorem spells_trimmed {point : Nat} (positive : point ≠ 0) (grid : Int) :
    Spells ⟨trimZeros (digitsOf point), grid + (digitsOf point).length - 1⟩
      (point * 10 ^ grid) := by
  obtain ⟨count, whole⟩ := trimZeros_append (digitsOf point)
  have leading := head?_digitsOf point
  have nonempty := digitsOf_ne_nil positive
  have spelledWhole : spelled (digitsOf point) = point :=
    readDigits_digitsOf point
  generalize digitsOf point = digits at whole leading nonempty spelledWhole
  generalize trimZeros digits = trimmed at whole
  subst whole
  have filled : trimmed ≠ [] := by
    rintro rfl
    cases count with
    | zero => exact nonempty rfl
    | succ count => exact leading rfl
  refine ⟨filled, ?_, ?_⟩
  · rwa [List.head?_append_of_ne_nil _ filled] at leading
  · rw [spelled_append_zeros] at spelledWhole
    have scale : grid + ((trimmed ++ List.replicate count 0).length : Int) - 1 +
        1 - trimmed.length = count + grid := by
      rw [List.length_append, List.length_replicate]
      push_cast
      ring
    dsimp only
    rw [scale, zpow_add₀ (by norm_num), zpow_natCast, ← spelledWhole]
    push_cast
    ring

/-- The shortest digits of a number spell a number that rounds to it. -/
theorem spells_shortest (tie : Tie) (canonical : Canonical mantissa exponent) :
    ∃ exact, Spells (shortest tie mantissa exponent) exact ∧
      RoundsTo mantissa exponent exact := by
  obtain ⟨point, grid, found, inside⟩ := exists_shortestFrom tie canonical
  have positive : point ≠ 0 := by
    rintro rfl
    have one : (1 : Rat) ≤ mantissa := by exact_mod_cast canonical.positive
    have reach : reachBelow mantissa exponent ≤ 1 / 2 :=
      FloatModel.reachBelow_le
    have lower := inside.bounds.1
    rw [Nat.cast_zero, zero_mul, zero_div] at lower
    linarith
  refine ⟨point * 10 ^ grid, ?_, inside⟩
  unfold shortest
  simp only [found]
  exact spells_trimmed positive grid

end Spelling

end GrammaticalEvolution.Decimal
