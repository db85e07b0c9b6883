import GrammaticalEvolution.Proofs.ExactArithmetic
import GrammaticalEvolution.Proofs.FloatQuotients

/-!
# Division of integers

A quotient of two integers is to be an integer if it is exact, and a float only
if it is not; an exact quotient beyond the range violates a constraint, and so
does a zero divisor.  There is one pair of integers with an exact quotient
beyond the range, and its quotient is a float instead.
-/

namespace GrammaticalEvolution.Arithmetic

open FloatModel (isFinite_quotient)

/-- What the quotient of two integers is to be. -/
inductive IntegerQuotient (left right : Int64) : Outcome → Prop where
  | undefined (zero : right = 0) :
      IntegerQuotient left right (.error (.constraint "division by zero"))
  | exact {number : Int64} (nonzero : right ≠ 0)
      (product : left.toInt = number.toInt * right.toInt) :
      IntegerQuotient left right (.ok (.integer number))
  | overflow (detail : String) (nonzero : right ≠ 0)
      (divides : right.toInt ∣ left.toInt)
      (beyond : ∀ number : Int64, left.toInt ≠ number.toInt * right.toInt) :
      IntegerQuotient left right (.error (.constraint detail))
  | inexact (nonzero : right ≠ 0) (fraction : ¬ right.toInt ∣ left.toInt)
      (finite : (Int64.nearestFloat left /
        Int64.nearestFloat right).isFinite = true) :
      IntegerQuotient left right
        (.ok (.float (Int64.nearestFloat left / Int64.nearestFloat right)))

section Pair

variable {left right : Int64}

/-- Only one exact quotient lies beyond the range. -/
theorem exists_quotient {exact : Int} (nonzero : right.toInt ≠ 0)
    (product : left.toInt = exact * right.toInt)
    (other : ¬ (left = Int64.minValue ∧ right = -1)) :
    ∃ number : Int64, number.toInt = exact := by
  have lower : -9223372036854775808 ≤ left.toInt := left.minValue_le_toInt
  have upper : left.toInt ≤ 9223372036854775807 := left.toInt_le
  have sizes : left.toInt.natAbs = exact.natAbs * right.toInt.natAbs := by
    rw [product, Int.natAbs_mul]
  have divisor : 1 ≤ right.toInt.natAbs := Int.natAbs_pos.mpr nonzero
  have small : exact.natAbs ≤ left.toInt.natAbs := by
    rw [sizes]
    exact Nat.le_mul_of_pos_right _ divisor
  -- Of the size of the least integer, a quotient has a divisor of size one.
  have inside : exact ≠ 9223372036854775808 := by
    rintro rfl
    have unit : right.toInt.natAbs ≤ 1 := by omega
    have least : left.toInt = Int64.minValue.toInt := by
      change left.toInt = -9223372036854775808
      omega
    have minusOne : right.toInt = (-1 : Int64).toInt := by
      change right.toInt = -1
      omega
    exact other ⟨Int64.toInt_inj.mp least, Int64.toInt_inj.mp minusOne⟩
  have bounds : -9223372036854775808 ≤ exact ∧ exact < 9223372036854775808 := by
    omega
  exact ⟨Int64.ofInt exact, Int64.toInt_ofInt_of_le bounds.1 bounds.2⟩

theorem toInt_ne_zero (nonzero : right ≠ 0) : right.toInt ≠ 0 :=
  fun none => nonzero (Int64.toInt_inj.mp none)

theorem execute_divide_nonzero (nonzero : right ≠ 0) :
    divide.execute [.integer left, .integer right] =
      quotient "divide" (.integer left, .integer right) := by
  rw [execute_divide rfl rfl, if_neg (mt isZero_integer_iff.mp nonzero)]

theorem execute_divide_of_fraction (nonzero : right ≠ 0)
    (fraction : ¬ right.toInt ∣ left.toInt) :
    (Int64.nearestFloat left / Int64.nearestFloat right).isFinite = true ∧
    divide.execute [.integer left, .integer right] =
      .ok (.float (Int64.nearestFloat left / Int64.nearestFloat right)) := by
  have leftNonzero : left ≠ 0 := by
    rintro rfl
    exact fraction (Int.dvd_zero _)
  have finite := isFinite_quotient leftNonzero nonzero
  have remainder : ¬ Int.tmod left.toInt right.toInt = 0 :=
    fun none => fraction (Int.dvd_of_tmod_eq_zero none)
  refine ⟨finite, ?_⟩
  rw [execute_divide_nonzero nonzero, quotient,
    if_neg fun exact => remainder exact.1, checkedFloat, if_pos finite]

theorem execute_divide_of_dvd (nonzero : right ≠ 0)
    (divides : right.toInt ∣ left.toInt)
    (other : ¬ (left = Int64.minValue ∧ right = -1)) :
    ∃ number : Int64, left.toInt = number.toInt * right.toInt ∧
      divide.execute [.integer left, .integer right] =
        .ok (.integer number) := by
  obtain ⟨exact, product⟩ := divides
  rw [Int.mul_comm] at product
  obtain ⟨number, rfl⟩ := exists_quotient (toInt_ne_zero nonzero) product other
  refine ⟨number, product, ?_⟩
  rw [execute_divide_nonzero nonzero,
    quotient_eq_ok_iff (toInt_ne_zero nonzero)]
  exact product

/-- A float is to be a quotient only if the division is not exact. -/
theorem IntegerQuotient.fraction_of_float {number : Float}
    (quotient : IntegerQuotient left right (.ok (.float number))) :
    ¬ right.toInt ∣ left.toInt := by
  generalize same : (Except.ok (Value.float number) : Outcome) = outcome
    at quotient
  cases quotient with
  | undefined | exact | overflow => exact nomatch same
  | inexact _ fraction => exact fraction

end Pair

/-- A pair of integers is divided as it is to be, but for the one pair whose
exact quotient is returned as a float. -/
theorem execute_divide_integers (left right : Int64) :
    (IntegerQuotient left right
        (divide.execute [.integer left, .integer right]) ↔
      ¬ (left = Int64.minValue ∧ right = -1)) ∧
    (left = Int64.minValue ∧ right = -1 →
      divide.execute [.integer left, .integer right] =
        .ok (.float 9223372036854775808.0)) := by
  have beyond (pair : left = Int64.minValue ∧ right = -1) :
      divide.execute [.integer left, .integer right] =
        .ok (.float 9223372036854775808.0) := by
    obtain ⟨rfl, rfl⟩ := pair
    decide +kernel
  refine ⟨⟨fun quotient pair => ?_, fun other => ?_⟩, beyond⟩
  · rw [beyond pair] at quotient
    obtain ⟨rfl, rfl⟩ := pair
    exact quotient.fraction_of_float (by decide)
  · by_cases zero : right = 0
    · subst zero
      exact .undefined rfl
    · by_cases divides : right.toInt ∣ left.toInt
      · obtain ⟨number, product, divided⟩ :=
          execute_divide_of_dvd zero divides other
        rw [divided]
        exact .exact zero product
      · obtain ⟨finite, divided⟩ := execute_divide_of_fraction zero divides
        rw [divided]
        exact .inexact zero divides finite

end GrammaticalEvolution.Arithmetic
