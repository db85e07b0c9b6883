import Mathlib.Data.Int.Order.Basic

/-!
# The order of binary64 numbers

Comparison of two numbers looks at three integers: the tier of a number, which
tells infinities, signs and zero apart, then its exponent, then its mantissa,
the last two negated below zero.  So the order of what is a number at all is
total, up to numbers that are equal, and a comparison with anything else
fails.
-/

namespace GrammaticalEvolution.FloatOrder

open Float.Model

/-- Position among infinities, finite numbers of either sign, and zero. -/
def tier : UnpackedFloat → Int
  | .infinity .negative => -2
  | .finite .negative .. => -1
  | .finite .positive .. => 1
  | .infinity .positive => 2
  | .zero _ => 0
  | .notANumber => 0

/-- The exponent, growing with the number. -/
def scale : UnpackedFloat → Int
  | .finite .negative _ exponent _ => -exponent
  | .finite .positive _ exponent _ => exponent
  | _ => 0

/-- The mantissa, growing with the number. -/
def weight : UnpackedFloat → Int
  | .finite .negative mantissa _ _ => -mantissa
  | .finite .positive mantissa _ _ => mantissa
  | _ => 0

/-- Comparison by tier, then scale, then weight. -/
def order (left right : UnpackedFloat) : Ordering :=
  (compare (tier left) (tier right)).then
    ((compare (scale left) (scale right)).then
      (compare (weight left) (weight right)))

private theorem compare_neg (left right : Int) :
    compare (-left) (-right) = (compare left right).swap := by
  rw [Int.compare_swap]
  simp only [compare, compareOfLessAndEq, Int.neg_lt_neg_iff, Int.neg_inj,
    eq_comm]

private theorem compare_natCast (left right : Nat) :
    compare (left : Int) (right : Int) = compare left right := by
  simp only [compare, compareOfLessAndEq, Int.ofNat_lt, Int.natCast_inj]

/-- Two numbers always compare. -/
theorem compare_eq_order {left right : UnpackedFloat}
    (leftNumber : left.isNaN = false) (rightNumber : right.isNaN = false) :
    left.compare right = some (order left right) := by
  -- Only two finite numbers of one sign get beyond their tiers.
  rcases left with (_ | _) | _ | _ | ⟨_ | _, leftMantissa, leftExponent, _⟩ <;>
    rcases right with
      (_ | _) | _ | _ | ⟨_ | _, rightMantissa, rightExponent, _⟩ <;>
    first | rfl | contradiction | skip
  case finite.negative.finite.negative =>
    change some ((compare leftExponent rightExponent).then
      (compare leftMantissa rightMantissa)).swap =
        some ((compare (-leftExponent) (-rightExponent)).then
          (compare (-(leftMantissa : Int)) (-(rightMantissa : Int))))
    rw [compare_neg, compare_neg, compare_natCast, Ordering.swap_then]
  case finite.positive.finite.positive =>
    change some ((compare leftExponent rightExponent).then
      (compare leftMantissa rightMantissa)) =
        some ((compare leftExponent rightExponent).then
          (compare (leftMantissa : Int) (rightMantissa : Int)))
    rw [compare_natCast]

/-- What compares is a number. -/
theorem isNaN_eq_false_of_compare {left right : UnpackedFloat}
    {result : Ordering} (compares : left.compare right = some result) :
    left.isNaN = false ∧ right.isNaN = false := by
  constructor
  · cases left with
    | notANumber => exact nomatch compares
    | _ => rfl
  · cases right with
    | notANumber => cases left <;> exact nomatch compares
    | _ => rfl

theorem order_eq_lt_iff {left right : UnpackedFloat} :
    order left right = .lt ↔
      tier left < tier right ∨ tier left = tier right ∧
        (scale left < scale right ∨ scale left = scale right ∧
          weight left < weight right) := by
  simp only [order, Ordering.then_eq_lt, Int.compare_eq_lt, Int.compare_eq_eq]

theorem isLE_order_iff {left right : UnpackedFloat} :
    (order left right).isLE = true ↔
      tier left < tier right ∨ tier left = tier right ∧
        (scale left < scale right ∨ scale left = scale right ∧
          weight left ≤ weight right) := by
  simp only [order, Ordering.isLE_then_iff_or, Int.compare_eq_lt,
    Int.compare_eq_eq, Int.isLE_compare]

section Float

variable {first second third : Float}

theorem lt_iff_order (firstNumber : first.isNaN = false)
    (secondNumber : second.isNaN = false) :
    first < second ↔
      order first.toModel.unpack second.toModel.unpack = .lt := by
  change decide (first.toModel.unpack.lt second.toModel.unpack = true) =
    true ↔ _
  rw [decide_eq_true_iff, UnpackedFloat.lt,
    compare_eq_order firstNumber secondNumber]
  simp

theorem le_iff_order (firstNumber : first.isNaN = false)
    (secondNumber : second.isNaN = false) :
    first ≤ second ↔
      (order first.toModel.unpack second.toModel.unpack).isLE = true := by
  change decide (first.toModel.unpack.le second.toModel.unpack = true) =
    true ↔ _
  rw [decide_eq_true_iff, UnpackedFloat.le,
    compare_eq_order firstNumber secondNumber]
  simp

theorem le_of_not_lt (firstNumber : first.isNaN = false)
    (secondNumber : second.isNaN = false) (notLess : ¬ second < first) :
    first ≤ second := by
  rw [lt_iff_order secondNumber firstNumber, order_eq_lt_iff] at notLess
  rw [le_iff_order firstNumber secondNumber, isLE_order_iff]
  omega

theorem not_lt_of_le (firstNumber : first.isNaN = false)
    (secondNumber : second.isNaN = false) (lower : first ≤ second) :
    ¬ second < first := by
  intro less
  rw [le_iff_order firstNumber secondNumber, isLE_order_iff] at lower
  rw [lt_iff_order secondNumber firstNumber, order_eq_lt_iff] at less
  omega

theorem isNaN_eq_false_of_le (lower : first ≤ second) :
    first.isNaN = false ∧ second.isNaN = false := by
  change decide (first.toModel.unpack.le second.toModel.unpack = true) = true
    at lower
  rw [decide_eq_true_iff, UnpackedFloat.le, Option.any_eq_true] at lower
  obtain ⟨result, compares, _⟩ := lower
  exact isNaN_eq_false_of_compare compares

theorem isNaN_eq_false_of_lt (less : first < second) :
    first.isNaN = false ∧ second.isNaN = false := by
  change decide (first.toModel.unpack.lt second.toModel.unpack = true) = true
    at less
  rw [decide_eq_true_iff, UnpackedFloat.lt, beq_iff_eq] at less
  exact isNaN_eq_false_of_compare less

theorem not_lt_of_lt (less : first < second) : ¬ second < first := by
  obtain ⟨firstNumber, secondNumber⟩ := isNaN_eq_false_of_lt less
  intro greater
  rw [lt_iff_order firstNumber secondNumber, order_eq_lt_iff] at less
  rw [lt_iff_order secondNumber firstNumber, order_eq_lt_iff] at greater
  omega

theorem le_refl (number : first.isNaN = false) : first ≤ first := by
  rw [le_iff_order number number, isLE_order_iff]
  omega

theorem le_trans (firstNumber : first.isNaN = false)
    (secondNumber : second.isNaN = false) (thirdNumber : third.isNaN = false)
    (lower : first ≤ second) (upper : second ≤ third) : first ≤ third := by
  rw [le_iff_order firstNumber secondNumber, isLE_order_iff] at lower
  rw [le_iff_order secondNumber thirdNumber, isLE_order_iff] at upper
  rw [le_iff_order firstNumber thirdNumber, isLE_order_iff]
  omega

theorem lt_of_le_of_lt (firstNumber : first.isNaN = false)
    (secondNumber : second.isNaN = false) (thirdNumber : third.isNaN = false)
    (lower : first ≤ second) (upper : second < third) : first < third := by
  rw [le_iff_order firstNumber secondNumber, isLE_order_iff] at lower
  rw [lt_iff_order secondNumber thirdNumber, order_eq_lt_iff] at upper
  rw [lt_iff_order firstNumber thirdNumber, order_eq_lt_iff]
  omega

theorem lt_of_lt_of_le (lower : first < second) (upper : second ≤ third) :
    first < third := by
  obtain ⟨firstNumber, secondNumber⟩ := isNaN_eq_false_of_lt lower
  obtain ⟨_, thirdNumber⟩ := isNaN_eq_false_of_le upper
  rw [lt_iff_order firstNumber secondNumber, order_eq_lt_iff] at lower
  rw [le_iff_order secondNumber thirdNumber, isLE_order_iff] at upper
  rw [lt_iff_order firstNumber thirdNumber, order_eq_lt_iff]
  omega

theorem le_of_lt (firstNumber : first.isNaN = false)
    (secondNumber : second.isNaN = false) (less : first < second) :
    first ≤ second := by
  rw [lt_iff_order firstNumber secondNumber, order_eq_lt_iff] at less
  rw [le_iff_order firstNumber secondNumber, isLE_order_iff]
  omega

end Float

end GrammaticalEvolution.FloatOrder
