/-!
# Hexadecimal numbers

Code points are written in hexadecimal with lower case letters and read in
either case.
-/

namespace GrammaticalEvolution.Text

def hexDigit (digit : Nat) : Char :=
  if digit < 10 then Char.ofNat (48 + digit) else Char.ofNat (87 + digit)

/-- The characters of a code point in hexadecimal, without leading zeros. -/
def hexChars (number : Nat) : List Char :=
  if number < 16 then [hexDigit number]
  else hexChars (number / 16) ++ [hexDigit (number % 16)]
termination_by number

/-- The value of a hexadecimal digit of either case. -/
def hexValue? (char : Char) : Option Nat :=
  if '0' ≤ char ∧ char ≤ '9' then some (char.toNat - 48)
  else if 'a' ≤ char ∧ char ≤ 'f' then some (char.toNat - 87)
  else if 'A' ≤ char ∧ char ≤ 'F' then some (char.toNat - 55)
  else none

/-- The character whose code point has some hexadecimal digits, at least one of
them. -/
def charOfHex? (digits : List Nat) : Option Char :=
  let code := digits.foldl (fun total digit => total * 16 + digit) 0
  if digits ≠ [] ∧ code.isValidChar then some (Char.ofNat code) else none

end GrammaticalEvolution.Text
