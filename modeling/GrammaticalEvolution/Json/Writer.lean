import GrammaticalEvolution.Expression.Display

/-!
# Compact JSON text of expressions

A list is an array, a leaf a number, a truth word or a string.  Nothing but
what the grammar of JSON needs is written.  A float that is no finite number
has no JSON form and becomes `null`.
-/

namespace GrammaticalEvolution.Json

open Decimal Text

/-- A character as it stands in a JSON string.  Only the quotation mark, the
backslash and control characters below the space are escaped. -/
def escapeChar (char : Char) : List Char :=
  match char with
  | '"' => ['\\', '"']
  | '\\' => ['\\', '\\']
  | '\x08' => ['\\', 'b']
  | '\x0c' => ['\\', 'f']
  | '\n' => ['\\', 'n']
  | '\r' => ['\\', 'r']
  | '\t' => ['\\', 't']
  | char =>
      if char.toNat < 0x20 then
        ['\\', 'u', '0', '0', hexDigit (char.toNat / 16),
          hexDigit (char.toNat % 16)]
      else [char]

def writeString (text : List Char) : List Char :=
  '"' :: (text.flatMap escapeChar ++ ['"'])

def writeValue : Value → List Char
  | .integer number => integerChars number.toInt
  | .float number => Layout.json.chars number
  | .bool truth => (truthText truth).toList
  | .symbol name => writeString name.toList

mutual

def write : Expression → List Char
  | .atom value => writeValue value
  | .list items => '[' :: writeItems items ++ [']']

/-- The items of an array, with commas between them. -/
def writeItems : List Expression → List Char
  | [] => []
  | [item] => write item
  | item :: next :: items => write item ++ ',' :: writeItems (next :: items)

end

end GrammaticalEvolution.Json
