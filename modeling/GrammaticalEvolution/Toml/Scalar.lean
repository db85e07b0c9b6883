import GrammaticalEvolution.Settings.Value

/-!
# Numbers, truth values and dates of TOML

A bare value is a run of letters, digits and a few signs.  Digits may be
grouped by single underscores.  Integers must fit 64 bits and floats must be
finite unless they are spelt as infinite.  Dates and times are checked and kept
as text.
-/

namespace GrammaticalEvolution.Toml

open Decimal

def isBare (char : Char) : Bool :=
  char.isAlphanum || char == '_' || char == '+' || char == '-' ||
    char == '.' || char == ':'

/-- Digits without the underscores between them; each underscore stands
between two digits. -/
def ungroup? (isDigit : Char → Bool) : List Char → Option (List Char)
  | [] => none
  | [digit] => if isDigit digit then some [digit] else none
  | digit :: '_' :: rest =>
      if isDigit digit then (ungroup? isDigit rest).map (digit :: ·) else none
  | digit :: rest =>
      if isDigit digit then (ungroup? isDigit rest).map (digit :: ·) else none

/-- Digits that do not start with a zero unless they are just that. -/
def wholeDigits? (chars : List Char) : Option (List Char) := do
  let digits ← ungroup? isDigit chars
  if digits.head? = some '0' ∧ digits.length ≠ 1 then none else some digits

def boundedInteger? (number : Int) : Option Setting :=
  if Int64.minValue.toInt ≤ number ∧ number ≤ Int64.maxValue.toInt then
    some (.integer (Int64.ofInt number))
  else none

def digitOfBase? (base : Nat) (char : Char) : Option Nat :=
  let value :=
    if char.isDigit then char.toNat - 48
    else if 'a' ≤ char ∧ char ≤ 'f' then char.toNat - 87
    else if 'A' ≤ char ∧ char ≤ 'F' then char.toNat - 55
    else base
  if value < base then some value else none

def readBase? (base : Nat) (chars : List Char) : Option Nat := do
  let digits ← ungroup? (fun char => (digitOfBase? base char).isSome) chars
  return digits.foldl
    (fun total char => total * base + (digitOfBase? base char).getD 0) 0

/-- An integer, decimal with a sign or of another base without one. -/
def readInteger? (chars : List Char) : Option Setting :=
  match chars with
  | '0' :: 'x' :: digits => (readBase? 16 digits).bind (boundedInteger? ·)
  | '0' :: 'o' :: digits => (readBase? 8 digits).bind (boundedInteger? ·)
  | '0' :: 'b' :: digits => (readBase? 2 digits).bind (boundedInteger? ·)
  | _ => do
      let (negative, unsigned) := splitSign chars
      let magnitude := readDigits 0 (← wholeDigits? unsigned)
      boundedInteger? (if negative then -magnitude else magnitude)

def readExponent? (chars : List Char) : Option Int := do
  let (negative, unsigned) := splitSign chars
  let magnitude := readDigits 0 (← ungroup? isDigit unsigned)
  return if negative then -magnitude else magnitude

def isExponentMark (char : Char) : Bool :=
  char == 'e' || char == 'E'

/-- A float without sign: whole digits, then places, an exponent or both. -/
def readMagnitude? (chars : List Char) : Option Float := do
  let isWhole (char : Char) : Bool := char != '.' && !isExponentMark char
  let whole ← wholeDigits? (chars.takeWhile isWhole)
  let (places, rest) ← match chars.dropWhile isWhole with
    | '.' :: rest => do
        let places ← ungroup? isDigit
          (rest.takeWhile (fun char => !isExponentMark char))
        pure (places, rest.dropWhile (fun char => !isExponentMark char))
    | [] => none
    | rest => pure ([], rest)
  let exponent ← match rest with
    | [] => pure 0
    | _ :: exponent => readExponent? exponent
  let number := nearest (readDigits (readDigits 0 whole) places)
    (exponent - places.length)
  if number == infinity then none else return number

def readFloat? (chars : List Char) : Option Setting :=
  let (negative, unsigned) := splitSign chars
  if unsigned = "inf".toList then some (.float (withSign negative infinity))
  else if unsigned = "nan".toList then
    some (.float (withSign negative notANumber))
  else (readMagnitude? unsigned).map fun number =>
    .float (withSign negative number)

/-- Digits of a fixed count as a number, with what follows. -/
def fixedDigits? (count : Nat) (chars : List Char) :
    Option (Nat × List Char) := do
  let number ← readNatural? (chars.take count)
  if chars.length < count then none else return (number, chars.drop count)

def follow? (expected : Char) : List Char → Option (List Char)
  | char :: rest => if char = expected then some rest else none
  | [] => none

def daysOf (year month : Nat) : Nat :=
  if month = 2 then
    if year % 4 = 0 ∧ (year % 100 ≠ 0 ∨ year % 400 = 0) then 29 else 28
  else if month = 4 ∨ month = 6 ∨ month = 9 ∨ month = 11 then 30
  else 31

def readDate? (chars : List Char) : Option (List Char) := do
  let (year, rest) ← fixedDigits? 4 chars
  let (month, rest) ← fixedDigits? 2 (← follow? '-' rest)
  let (day, rest) ← fixedDigits? 2 (← follow? '-' rest)
  if 1 ≤ month ∧ month ≤ 12 ∧ 1 ≤ day ∧ day ≤ daysOf year month then
    return rest
  else none

def readClock? (chars : List Char) : Option (List Char) := do
  let (hour, rest) ← fixedDigits? 2 chars
  let (minute, rest) ← fixedDigits? 2 (← follow? ':' rest)
  if hour ≤ 23 ∧ minute ≤ 59 then return rest else none

/-- Seconds with an optional fraction; they may be left out. -/
def readSeconds? : List Char → Option (List Char)
  | ':' :: chars => do
      let (second, rest) ← fixedDigits? 2 chars
      if 60 < second then none
      else match rest with
        | '.' :: fraction =>
            if (fraction.takeWhile isDigit).isEmpty then none
            else return fraction.dropWhile isDigit
        | rest => return rest
  | rest => some rest

def readTime? (chars : List Char) : Option (List Char) := do
  readSeconds? (← readClock? chars)

/-- The difference from universal time, or none. -/
def isOffset : List Char → Bool
  | [] => true
  | ['Z'] => true
  | ['z'] => true
  | sign :: rest => (sign == '+' || sign == '-') && readClock? rest == some []

/-- Whether a text is a date, a time, or a date with a time after `T` or a
space. -/
def isMoment (chars : List Char) : Bool :=
  readTime? chars == some [] ||
    match readDate? chars with
    | none => false
    | some [] => true
    | some (mark :: rest) =>
        (mark == 'T' || mark == 't' || mark == ' ') &&
          ((readTime? rest).map isOffset).getD false

def readBare? (chars : List Char) : Option Setting :=
  if chars = "true".toList then some (.bool true)
  else if chars = "false".toList then some (.bool false)
  else if isMoment chars then some (.text (String.ofList chars))
  else (readInteger? chars).or (readFloat? chars)

/-- A bare value, with what follows it.  A time may follow its date after a
space. -/
def takeBare? (chars : List Char) : Option (Setting × List Char) := do
  let first := chars.takeWhile isBare
  let rest := chars.dropWhile isBare
  let (token, rest) := match rest with
    | ' ' :: later =>
        if readDate? first = some [] ∧ (later.head?.map isDigit).getD false then
          (first ++ ' ' :: later.takeWhile isBare, later.dropWhile isBare)
        else (first, rest)
    | rest => (first, rest)
  return (← readBare? token, rest)

end GrammaticalEvolution.Toml
