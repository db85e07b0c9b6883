import GrammaticalEvolution.Text.Hex

/-!
# Strings of TOML

Strings stand on one line or on several, with escapes or without.  Control
characters other than the tab are not allowed in them, and neither is a
carriage return that does not belong to a line end.
-/

namespace GrammaticalEvolution.Toml

def isPlain (char : Char) : Bool :=
  char == '\t' || (0x20 ≤ char.toNat && char.toNat ≠ 0x7f)

/-- The character that hexadecimal digits stand for. -/
def readCode? (count : Nat) (chars : List Char) :
    Option (Char × List Char) := do
  let digits ← (chars.take count).mapM Text.hexValue?
  if digits.length = count then
    return (← Text.charOfHex? digits, chars.drop count)
  else none

def readEscape? : List Char → Option (Char × List Char)
  | 'b' :: rest => some ('\x08', rest)
  | 't' :: rest => some ('\t', rest)
  | 'n' :: rest => some ('\n', rest)
  | 'f' :: rest => some ('\x0c', rest)
  | 'r' :: rest => some ('\r', rest)
  | 'e' :: rest => some ('\x1b', rest)
  | '"' :: rest => some ('"', rest)
  | '\\' :: rest => some ('\\', rest)
  | 'x' :: rest => readCode? 2 rest
  | 'u' :: rest => readCode? 4 rest
  | 'U' :: rest => readCode? 8 rest
  | _ => none

def lineEnd? : List Char → Option (List Char)
  | '\n' :: rest => some rest
  | '\r' :: '\n' :: rest => some rest
  | _ => none

def isIndent (char : Char) : Bool :=
  char == ' ' || char == '\t'

def skipBreaks : List Char → List Char
  | '\r' :: '\n' :: rest => skipBreaks rest
  | '\n' :: rest => skipBreaks rest
  | char :: rest => if isIndent char then skipBreaks rest else char :: rest
  | [] => []

/-- What follows a backslash at the end of a line: the next character that is
neither white space nor a line end. -/
def continueLine? (chars : List Char) : Option (List Char) :=
  (lineEnd? (chars.dropWhile isIndent)).map skipBreaks

/-- Which kind of string is read. -/
structure Quotation where
  mark : Char
  escapes : Bool
  manyLines : Bool

/-- Quotation marks at the end of a string on several lines: up to two of them
belong to the string, and three close it. -/
def closing? (mark : Char) (chars : List Char) :
    Option (List Char × List Char) :=
  let count := min 5 (chars.takeWhile (· == mark)).length
  if count < 3 then none
  else some (List.replicate (count - 3) mark, chars.drop count)

/-- A string after its opening marks.  Every step uses up a character. -/
def readStringWithin? (quotation : Quotation) :
    (steps : Nat) → List Char → Option (List Char × List Char)
  | 0, _ => none
  | _ + 1, [] => none
  | steps + 1, char :: rest =>
      let goOn (read : List Char) (rest : List Char) :=
        (readStringWithin? quotation steps rest).map
          fun (text, rest) => (read ++ text, rest)
      if char = quotation.mark then
        if quotation.manyLines then
          match closing? quotation.mark (char :: rest) with
          | some ended => some ended
          | none => goOn [char] rest
        else some ([], rest)
      else if char = '\\' ∧ quotation.escapes then
        match (if quotation.manyLines then continueLine? rest else none) with
        | some rest => goOn [] rest
        | none => do
            let (escaped, rest) ← readEscape? rest
            goOn [escaped] rest
      else match lineEnd? (char :: rest) with
        | some rest => if quotation.manyLines then goOn ['\n'] rest else none
        | none => if isPlain char then goOn [char] rest else none

/-- A string after its opening marks.  A line end right after them does not
belong to a string on several lines. -/
def readQuoted? (quotation : Quotation) (chars : List Char) :
    Option (String × List Char) := do
  let start :=
    if quotation.manyLines then (lineEnd? chars).getD chars else chars
  let (text, rest) ← readStringWithin? quotation (start.length + 1) start
  return (String.ofList text, rest)

def readLineString? : List Char → Option (String × List Char)
  | '"' :: rest => readQuoted? ⟨'"', true, false⟩ rest
  | '\'' :: rest => readQuoted? ⟨'\'', false, false⟩ rest
  | _ => none

def readString? : List Char → Option (String × List Char)
  | '"' :: '"' :: '"' :: rest => readQuoted? ⟨'"', true, true⟩ rest
  | '\'' :: '\'' :: '\'' :: rest => readQuoted? ⟨'\'', false, true⟩ rest
  | chars => readLineString? chars

end GrammaticalEvolution.Toml
