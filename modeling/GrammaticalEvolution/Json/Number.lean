import GrammaticalEvolution.Decimal.Literal
import GrammaticalEvolution.Expression

/-!
# JSON numbers

A number without point and exponent that fits a 64-bit integer is an integer,
every other number a float.  Floats are computed from a 64-bit significand and
a power of ten by one multiplication or division, which is fast but not always
the nearest: digits that no longer fit the significand are left out.
-/

namespace GrammaticalEvolution.Json

open Decimal

/-- Why a text is not an expression: it ends too early, it breaks the grammar
of JSON, or it holds a value that no expression has. -/
inductive Fault where
  | truncated
  | malformed
  | unfit
deriving DecidableEq, Repr

/-- A result read from the front of a text, and what follows it. -/
abbrev Read (α : Type) := α × List Char

/-- The fault of a text whose next character is missing or unexpected. -/
def unexpected {α : Type} : List Char → Except Fault α
  | [] => .error .truncated
  | _ :: _ => .error .malformed

/-- Append digits to a significand as long as it fits a 64-bit word.  The
second component counts the digits that are left out, from the first one that
does not fit on. -/
def gather : (significand : Nat) → List Char → Nat × Nat
  | significand, [] => (significand, 0)
  | significand, char :: rest =>
      let longer := 10 * significand + (char.toNat - 48)
      if longer < UInt64.size then gather longer rest
      else (significand, rest.length + 1)

/-- Largest power of ten that is divided or multiplied by at once. -/
def widestPower : Nat := 308

/-- Scale a nonnegative number by a power of ten.  A power too far below is
taken in several divisions, and one too far above has no result unless the
number is zero. -/
def scale (number : Float) (exponent : Int) : Except Fault Float :=
  if exponent < -(widestPower : Int) then
    if number == 0.0 then .ok number
    else scale (number / nearest 1 widestPower) (exponent + widestPower)
  else if exponent < 0 then .ok (number / nearest 1 (-exponent))
  else if (widestPower : Int) < exponent then
    if number == 0.0 then .ok number else .error .malformed
  else
    let scaled := number * nearest 1 exponent
    if scaled == infinity then .error .malformed else .ok scaled
termination_by (-exponent).toNat
decreasing_by
  simp only [widestPower] at *
  omega

/-- The signed float of a significand and a power of ten. -/
def assemble (negative : Bool) (significand : Nat) (exponent : Int) :
    Except Fault Float :=
  (scale significand.toUInt64.toFloat exponent).map (withSign negative)

/-- Bounds of a written exponent. -/
def exponentLimit : Int := 2147483648

/-- The sum of two exponents, held within the bounds. -/
def addExponents (first second : Int) : Int :=
  max (-exponentLimit) (min (exponentLimit - 1) (first + second))

def readExponent (negative : Bool) (significand : Nat) (exponent : Int)
    (chars : List Char) : Except Fault (Read Float) :=
  let (downwards, unsigned) := splitSign chars
  let digits := unsigned.takeWhile isDigit
  let rest := unsigned.dropWhile isDigit
  if digits = [] then unexpected rest
  else
    let written : Int := readDigits 0 digits
    if written < exponentLimit then do
      let number ← assemble negative significand
        (addExponents exponent (if downwards then -written else written))
      return (number, rest)
    else if downwards || significand == 0 then
      .ok (withSign negative 0.0, rest)
    else .error .malformed

/-- What follows the digits of a float: an exponent, or nothing of it. -/
def readTail (negative : Bool) (significand : Nat) (exponent : Int)
    (chars : List Char) : Except Fault (Read Float) :=
  match chars with
  | 'e' :: rest => readExponent negative significand exponent rest
  | 'E' :: rest => readExponent negative significand exponent rest
  | rest => do
      let number ← assemble negative significand exponent
      return (number, rest)

/-- What follows the point of a float: at least one digit. -/
def readPlaces (negative : Bool) (significand : Nat) (exponent : Int)
    (chars : List Char) : Except Fault (Read Float) :=
  let digits := chars.takeWhile isDigit
  let rest := chars.dropWhile isDigit
  if digits = [] then unexpected rest
  else
    let (longer, dropped) := gather significand digits
    readTail negative longer (exponent - (digits.length - dropped : Nat)) rest

/-- A number without point and exponent whose digits all fit the significand:
an integer when it lies in the range, and not a negative zero. -/
def wholeValue (negative : Bool) (significand : Nat) : Value :=
  let number : Int := if negative then -significand else significand
  if (negative && significand == 0) || number < Int64.minValue.toInt ||
      Int64.maxValue.toInt < number then
    .float (withSign negative significand.toUInt64.toFloat)
  else .integer (Int64.ofInt number)

def readMagnitude (negative : Bool) (chars : List Char) :
    Except Fault (Read Value) :=
  let digits := chars.takeWhile isDigit
  let rest := chars.dropWhile isDigit
  if digits = [] then unexpected rest
  else if digits.head? = some '0' ∧ digits.length ≠ 1 then .error .malformed
  else
    let (significand, dropped) := gather 0 digits
    let tail : Except Fault (Read Float) → Except Fault (Read Value) :=
      Except.map fun (number, rest) => (.float number, rest)
    match rest with
    | '.' :: places =>
        tail (readPlaces negative significand dropped places)
    | rest =>
        if rest.head? = some 'e' ∨ rest.head? = some 'E' ∨ dropped ≠ 0 then
          tail (readTail negative significand dropped rest)
        else .ok (wholeValue negative significand, rest)

def readNumber : List Char → Except Fault (Read Value)
  | '-' :: rest => readMagnitude true rest
  | chars => readMagnitude false chars

end GrammaticalEvolution.Json
