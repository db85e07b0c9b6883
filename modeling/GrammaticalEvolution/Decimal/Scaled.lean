/-!
# Binary64 numbers as scaled integers

Every finite binary64 number is an integer times a power of two.  Texts of
numbers are computed from that integer and that power alone, so that rounding
is exact arithmetic on natural numbers.
-/

namespace GrammaticalEvolution.Decimal

/-- What a binary64 pattern denotes: no number, an infinity, or
`mantissa * 2 ^ exponent` with a sign. -/
inductive Scaled where
  | nan
  | infinite (negative : Bool)
  | finite (negative : Bool) (mantissa : Nat) (exponent : Int)
deriving DecidableEq, Repr

def powerOfTwo (exponent : Nat) : Nat := Nat.pow 2 exponent

def powerOfTen (exponent : Nat) : Nat := Nat.pow 10 exponent

/-- Least mantissa of a normal number. -/
def hiddenBit : Nat := powerOfTwo 52

/-- Least power of two that a mantissa is scaled by. -/
def leastExponent : Int := -1074

/-- The number behind the three fields of a binary64 pattern. -/
def Scaled.ofFields (negative : Bool) (biased fraction : Nat) : Scaled :=
  if biased = 2047 then
    if fraction = 0 then .infinite negative else .nan
  else if biased = 0 then .finite negative fraction leastExponent
  else .finite negative (hiddenBit + fraction) ((biased : Int) - 1075)

/-- Split a binary64 number into sign, mantissa and exponent. -/
def Scaled.ofFloat (number : Float) : Scaled :=
  let bits := number.toBits.toNat
  Scaled.ofFields (powerOfTwo 63 ≤ bits) (bits / hiddenBit % 2048)
    (bits % hiddenBit)

/-- Numerator of `mantissa * 2 ^ exponent` over `scaleDenominator`. -/
def scaleNumerator (mantissa : Nat) (exponent : Int) : Nat :=
  mantissa * powerOfTwo exponent.toNat

/-- Denominator of a number scaled by `2 ^ exponent`. -/
def scaleDenominator (exponent : Int) : Nat :=
  powerOfTwo (-exponent).toNat

/-- Quotient rounded to the nearest integer, a half going to the even one. -/
def roundEven (numerator denominator : Nat) : Nat :=
  let quotient := numerator / denominator
  let twice := 2 * (numerator % denominator)
  if twice < denominator then quotient
  else if denominator < twice then quotient + 1
  else quotient + quotient % 2

/-- Quotient rounded to the nearest integer, a half going up. -/
def roundUp (numerator denominator : Nat) : Nat :=
  (2 * numerator + denominator) / (2 * denominator)

/-- Nearest unsigned 64-bit word, a half going away from zero.  What lies
outside the range goes to its nearer end, and what is no number goes to zero. -/
def toWord (number : Float) : Nat :=
  match Scaled.ofFloat number with
  | .nan => 0
  | .infinite negative => if negative then 0 else UInt64.size - 1
  | .finite negative mantissa exponent =>
      if negative then 0
      else min (UInt64.size - 1)
        (roundUp (scaleNumerator mantissa exponent)
          (scaleDenominator exponent))

end GrammaticalEvolution.Decimal
