import GrammaticalEvolution.Json.Reader

/-!
# Stored expressions

A text stores one expression per line.  Lines of white space alone are skipped
and do not count.  One expression can be read by its position, or all of them,
in which case the first line with a fault decides.
-/

namespace GrammaticalEvolution.Json

open Text

/-- Why stored expressions cannot be read: there is no such line, or a line
does not hold an expression. -/
inductive LineFault where
  | missing (index available : Nat)
  | unreadable (fault : Fault)
deriving DecidableEq, Repr

/-- The lines of a text that are not white space alone. -/
def filledLines (chars : List Char) : List (List Char) :=
  (lines chars).filter isFilled

def readLine (line : List Char) : Except LineFault Expression :=
  (read line).mapError .unreadable

/-- The expression on the filled line of a given index.  Other lines are not
looked at. -/
def readOne (chars : List Char) (index : Nat) : Except LineFault Expression :=
  let stored := filledLines chars
  match stored[index]? with
  | some line => readLine line
  | none => .error (.missing index stored.length)

def readAll (chars : List Char) : Except LineFault (List Expression) :=
  (filledLines chars).mapM readLine

end GrammaticalEvolution.Json
