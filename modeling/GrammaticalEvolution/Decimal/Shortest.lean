import GrammaticalEvolution.Decimal.Scaled

/-!
# Shortest decimal digits of a binary64 number

A decimal reads back as a given number when it lies in the interval of reals
that round to it.  Grids of one, two, … significant digits are tried in turn;
on each grid only the two neighbours of the number matter, and the first grid
with a neighbour in the interval gives the digits.
-/

namespace GrammaticalEvolution.Decimal

/-- Digits and the power of ten of the first of them:
`d.ddd * 10 ^ exponent`. -/
structure Digits where
  digits : List Nat
  exponent : Int
deriving DecidableEq, Repr

/-- Most significant digits a binary64 number needs to read back. -/
def mostDigits : Nat := 17

/-- Compare `10 ^ power` with a quotient. -/
def tenPowerAtMost (power : Int) (numerator denominator : Nat) : Bool :=
  powerOfTen power.toNat * denominator ≤
    numerator * powerOfTen (-power).toNat

/-- The power of ten of the first digit of a positive scaled number.  The
estimate by the power of two is off by at most one. -/
def leadingPower (mantissa : Nat) (exponent : Int) : Int :=
  let numerator := scaleNumerator mantissa exponent
  let denominator := scaleDenominator exponent
  let estimate := Int.fdiv (((mantissa.log2 : Int) + exponent) * 30103) 100000
  if tenPowerAtMost (estimate + 1) numerator denominator then estimate + 1
  else if tenPowerAtMost estimate numerator denominator then estimate
  else estimate - 1

/-- Decimal digits of a natural number, first digit first; none for zero. -/
def digitsOf (number : Nat) : List Nat :=
  if number = 0 then [] else digitsOf (number / 10) ++ [number % 10]
termination_by number

def trimZeros (digits : List Nat) : List Nat :=
  (digits.reverse.dropWhile (· == 0)).reverse

/-- The number in quarters of its last binary place, over `denominator`, and
how far the interval that rounds to it reaches down and up. -/
structure Interval where
  quarters : Nat
  below : Nat
  above : Nat
  denominator : Nat
  closed : Bool

/-- The reals that round to a scaled number, measured in units of
`10 ^ grid`.  At a power of two the numbers below lie twice as close. -/
def intervalOn (mantissa : Nat) (exponent grid : Int) : Interval :=
  let unit := powerOfTwo exponent.toNat * powerOfTen (-grid).toNat
  let below :=
    if mantissa = hiddenBit ∧ leastExponent < exponent then 1 else 2
  { quarters := 4 * mantissa * unit
    below := below * unit
    above := 2 * unit
    denominator := powerOfTwo (-exponent).toNat * powerOfTen grid.toNat
    closed := mantissa % 2 = 0 }

/-- Whether a grid point lies in the interval; its ends belong to it exactly
for even mantissas. -/
def Interval.holds (interval : Interval) (point : Nat) : Bool :=
  let place := 4 * point * interval.denominator
  let low := interval.quarters - interval.below
  let high := interval.quarters + interval.above
  if interval.closed then low ≤ place && place ≤ high
  else low < place && place < high

/-- Which of two neighbours equally far away is taken. -/
inductive Tie where
  | up
  | even
deriving DecidableEq, Repr

/-- The neighbour on the grid that lies in the interval, the nearer if both
do. -/
def Interval.point? (tie : Tie) (interval : Interval) : Option Nat :=
  let floor := interval.quarters / (4 * interval.denominator)
  let ceiling := floor + 1
  match interval.holds floor, interval.holds ceiling with
  | false, false => none
  | true, false => some floor
  | false, true => some ceiling
  | true, true =>
      let middle := (4 * floor + 2) * interval.denominator
      if interval.quarters < middle then some floor
      else if middle < interval.quarters then some ceiling
      else match tie with
        | .up => some ceiling
        | .even => some (floor + floor % 2)

/-- The shortest digits from a count on, with `remaining` more counts to try. -/
def shortestFrom (tie : Tie) (mantissa : Nat) (exponent leading : Int) :
    (count remaining : Nat) → Option (Nat × Int)
  | _, 0 => none
  | count, remaining + 1 =>
      let grid := leading + 1 - count
      match (intervalOn mantissa exponent grid).point? tie with
      | some point => some (point, grid)
      | none => shortestFrom tie mantissa exponent leading (count + 1) remaining

/-- The shortest digits that read back as a positive scaled number. -/
def shortest (tie : Tie) (mantissa : Nat) (exponent : Int) : Digits :=
  let leading := leadingPower mantissa exponent
  match shortestFrom tie mantissa exponent leading 1 mostDigits with
  | some (point, grid) =>
      let digits := digitsOf point
      ⟨trimZeros digits, grid + digits.length - 1⟩
  | none => ⟨[], 0⟩

end GrammaticalEvolution.Decimal
