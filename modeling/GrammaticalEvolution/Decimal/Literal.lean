import GrammaticalEvolution.Decimal.Scaled

/-!
# Numbers read from decimal text

A decimal literal is a whole part, places behind a point and a power of ten.
It denotes the nearest binary64 number, an infinity when it is too large.
-/

namespace GrammaticalEvolution.Decimal

def digitValue? (char : Char) : Option Nat :=
  if '0' ≤ char ∧ char ≤ '9' then some (char.toNat - 48) else none

def isDigit (char : Char) : Bool :=
  (digitValue? char).isSome

/-- The natural number that digit characters spell, after one already read. -/
def readDigits (start : Nat) (chars : List Char) : Nat :=
  chars.foldl (fun total char => 10 * total + (char.toNat - 48)) start

/-- A nonempty text of digits alone as a natural number. -/
def readNatural? (chars : List Char) : Option Nat :=
  if chars ≠ [] ∧ chars.all isDigit then some (readDigits 0 chars) else none

/-- A leading sign: whether it is a minus, and what follows it. -/
def splitSign : List Char → Bool × List Char
  | '-' :: rest => (true, rest)
  | '+' :: rest => (false, rest)
  | rest => (false, rest)

def readInteger? (chars : List Char) : Option Int :=
  let (negative, rest) := splitSign chars
  (readNatural? rest).map fun magnitude =>
    if negative then -(magnitude : Int) else magnitude

def infinity : Float := 1.0 / 0.0

def notANumber : Float := 0.0 / 0.0

def withSign (negative : Bool) (magnitude : Float) : Float :=
  if negative then -magnitude else magnitude

/-- The binary64 number nearest to `digits * 10 ^ exponent`.  Far outside the
range the answer is known without computing the power. -/
def nearest (digits : Nat) (exponent : Int) : Float :=
  let leading := (Nat.toDigits 10 digits).length + exponent
  if digits = 0 ∨ leading < -330 then 0.0
  else if 310 < leading then infinity
  else if exponent < 0 then Float.ofScientific digits true exponent.natAbs
  else Float.ofScientific (digits * powerOfTen exponent.natAbs) false 0

/-- The exponent part of a literal; an absent one is zero. -/
def readExponent? : List Char → Option Int
  | [] => some 0
  | mark :: rest =>
      if mark = 'e' ∨ mark = 'E' then readInteger? rest else none

/-- A literal without sign: digits, a point and digits, of which one side may
be empty, and an exponent. -/
def readMagnitude? (chars : List Char) : Option Float :=
  let whole := chars.takeWhile isDigit
  let afterWhole := chars.dropWhile isDigit
  let (places, rest) := match afterWhole with
    | '.' :: fraction =>
        (fraction.takeWhile isDigit, fraction.dropWhile isDigit)
    | other => ([], other)
  if whole = [] ∧ places = [] then none
  else do
    let exponent ← readExponent? rest
    return nearest (readDigits (readDigits 0 whole) places)
      (exponent - places.length)

/-- A number in any of its spellings: a literal, or the words for an infinity
or for no number in any case, each with an optional sign. -/
def readFloat? (chars : List Char) : Option Float :=
  let (negative, rest) := splitSign chars
  let word := rest.map Char.toLower
  if word = "inf".toList ∨ word = "infinity".toList then
    some (withSign negative infinity)
  else if word = "nan".toList then some (withSign negative notANumber)
  else (readMagnitude? rest).map (withSign negative)

end GrammaticalEvolution.Decimal
